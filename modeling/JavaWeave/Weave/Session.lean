import JavaWeave.Options.Basic
import JavaWeave.Types.Table
import JavaWeave.Weave.Edit
import JavaWeave.Weave.Member

/-! One occurrence of an annotation being carried out: what may be consulted, the edits scheduled so far and
the warnings given. A problem ends the occurrence; warnings given before it are kept. -/

namespace JavaWeave.Weave

open Syntax

/-- The declaration that an occurrence is on. -/
inductive Target where
  | type
  | field (index : Nat)
  | method (index : Nat)
  deriving DecidableEq, Repr

/-- What a handler may consult. -/
structure Setting where
  options : Options
  types : TypeTable
  /-- The annotation being carried out; calls of `yield` have none. -/
  note : Option Annotation
  file : String
  span : Option Span
  /-- The type as it was at the start. -/
  decl : TypeDecl
  /-- Where the annotation stands. -/
  site : Option Site

/-- What a handler has done so far. -/
structure Draft where
  edits : List Edit := []
  warnings : List Diagnostic := []

/-- How an occurrence ended without problem. -/
inductive Outcome where
  /-- The type with all edits. -/
  | applied (type : TypeDecl)
  /-- There was nothing to do; the annotation is used up all the same. -/
  | skipped

/-- The steps of a handler. -/
abbrev Handling := ReaderT Setting (ExceptT Problem (StateM Draft))

/-- Runs a handler: how it ended, and its warnings. -/
def Handling.perform (steps : Handling α) (setting : Setting) : Except Problem α × List Diagnostic :=
  let (result, draft) := (steps.run setting).run.run {}
  (result, draft.warnings)

/-- The simple name of the annotation being carried out. -/
def Setting.annotationName (setting : Setting) : String :=
  match setting.note with
  | some note => note.type.simpleName
  | none => "yield"

def annotationName : Handling String := return (← read).annotationName

def fail (problem : Problem) : Handling α := throw problem

def misuse (message : Diagnostic.Message) (arguments : List String) : Handling α :=
  throw (.usage message arguments)

/-- The misuse that names just the annotation. -/
def misuseOfAnnotation (message : Diagnostic.Message) : Handling α := do
  misuse message [← annotationName]

def orInternal : Except InternalProblem α → Handling α
  | .ok value => pure value
  | .error problem => throw (.internal problem)

/-- Warns at the place of the annotation. -/
def warn (message : Diagnostic.Message) (arguments : List String) : Handling Unit := do
  let setting ← read
  let warning := (Diagnostic.of message arguments).located setting.file setting.span
  modify fun draft => { draft with warnings := draft.warnings ++ [warning] }

/-- Schedules an edit. -/
def schedule (edit : Edit) : Handling Unit :=
  modify fun draft => { draft with edits := draft.edits ++ [edit] }

def injectField (field : Field) : Handling Unit := schedule (.injectField field)
def injectMethod (method : Method) : Handling Unit := schedule (.injectMethod method)
def injectConstructor (constructor : Constructor) : Handling Unit := schedule (.injectConstructor constructor)
def injectType (type : TypeDecl) : Handling Unit := schedule (.injectType type)
def injectInitializer (initializer : Initializer) : Handling Unit := schedule (.injectInitializer initializer)

/-- The type being edited, as it was at the start. -/
def edited : Handling TypeDecl := return (← read).decl

def options : Handling Options := return (← read).options

/-- Whether there is such a method already, or one is scheduled. -/
def Draft.hasMethod (draft : Draft) (type : TypeDecl) (name : String) (arity : Option Nat) : Bool :=
  type.hasMethod name arity || draft.edits.any fun
    | .injectMethod method => TypeDecl.answers name arity method
    | _ => false

def Draft.hasField (draft : Draft) (type : TypeDecl) (name : String) : Bool :=
  type.hasField name || draft.edits.any fun
    | .injectField field => field.name == name
    | _ => false

def Draft.hasType (draft : Draft) (type : TypeDecl) (name : String) : Bool :=
  (type.memberType? name).isSome || draft.edits.any fun
    | .injectType decl => decl.name == name
    | _ => false

def hasMethod (name : String) (arity : Option Nat) : Handling Bool :=
  return (← get).hasMethod (← edited) name arity

def hasField (name : String) : Handling Bool := return (← get).hasField (← edited) name

def hasType (name : String) : Handling Bool := return (← get).hasType (← edited) name

/-- The method at an index. -/
def methodAt (index : Nat) : Handling Method := do
  match (← edited).methods[index]? with
  | some method => pure method
  | none => fail (.internal (.outOfRange "method" index))

/-- The field at an index. -/
def fieldAt (index : Nat) : Handling Field := do
  match (← edited).fields[index]? with
  | some field => pure field
  | none => fail (.internal (.outOfRange "field" index))

/-- The annotation being carried out, which a handler of annotations always has. -/
def occurrence : Handling Annotation := do
  match (← read).note with
  | some note => pure note
  | none => fail (.internal .unsupportedTarget)

/-- Reads a member of the annotation being carried out. -/
def member (reading : Annotation → Except MemberProblem α) : Handling α := do
  match reading (← occurrence) with
  | .ok value => pure value
  | .error problem => fail (.member problem)

/-- Commits the scheduled edits. -/
def rebuild : Handling Outcome := do
  let setting ← read
  return .applied (← orInternal (commit setting.decl setting.span setting.site (← get).edits))

/-- The index of the method an occurrence is on. -/
def methodTarget : Target → Handling Nat
  | .method index => pure index
  | _ => misuseOfAnnotation .methodOnly

end JavaWeave.Weave
