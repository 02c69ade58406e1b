import JavaWeave.Generator.Yield
import JavaWeave.Handler.Standard
import JavaWeave.Syntax.Encode
import JavaWeave.Syntax.Events

/-! Carrying out all annotations of a source file. In each type come first the annotations of the type, then
those of its fields, then those of its methods, then the methods that yield, and last the member types. An
annotation that cannot be carried out stays and is reported. -/

namespace JavaWeave.Weave

open Syntax

/-- The doubles in an annotation, in the order in which they stand. -/
def doublesOf (note : Annotation) : List Float :=
  (Event.ofNote note).filterMap fun
    | .expression (.literal (.double value)) => some value
    | _ => none

/-- Whether two annotations are written alike, at the same place. Doubles are compared as numbers, so an annotation
with one that is not a number is not even like itself. JSON has one word for all that are not finite, so they are
compared besides. -/
def sameAnnotation (a b : Annotation) : Bool :=
  doublesOf a == doublesOf b && (Encode.note a).same (Encode.note b)

/-- An annotation of a member, or of the type itself. -/
structure Occurrence where
  member : String
  note : Annotation

def Occurrence.same (a b : Occurrence) : Bool :=
  a.member == b.member && sameAnnotation a.note b.note

/-- Whose annotations are carried out. -/
inductive Phase where
  | type
  | fields
  | methods
  deriving DecidableEq, Repr

namespace Phase

/-- Every annotation of the phase with the member it is on. -/
def occurrences (phase : Phase) (type : TypeDecl) : List Occurrence :=
  match phase with
  | .type => type.annotations.map (⟨type.name, ·⟩)
  | .fields => type.fields.flatMap fun field => field.annotations.map (⟨field.name, ·⟩)
  | .methods => type.methods.flatMap fun method => method.annotations.map (⟨method.name, ·⟩)

/-- The places in a list of the annotations that are like another. -/
def placesOf (wanted : Annotation) (annotations : List Annotation) : List Nat :=
  ((indexed annotations).filter fun (_, note) => sameAnnotation note wanted).map (·.1)

/-- The places where an occurrence may stand by now. Of fields with one name the first counts. -/
def sites (phase : Phase) (type : TypeDecl) (occurrence : Occurrence) : List (Target × Site) :=
  match phase with
  | .type => (placesOf occurrence.note type.annotations).map fun place => (.type, .type place)
  | .fields =>
    match (indexed type.fields).find? fun (_, field) => field.name == occurrence.member with
    | none => []
    | some (index, field) =>
      (placesOf occurrence.note field.annotations).map fun place =>
        (.field index, .field index place)
  | .methods =>
    (indexed type.methods).flatMap fun (index, method) =>
      if method.name == occurrence.member then
        (placesOf occurrence.note method.annotations).map fun place =>
          (.method index, .method index place)
      else []

end Phase

/-- What is the same for all types of a source file. -/
structure Weaver where
  handlers : List Handler
  options : Options
  types : TypeTable
  file : String

/-- How far the work on a type has come. -/
structure Progress where
  type : TypeDecl
  diagnostics : List Diagnostic := []
  /-- The occurrences that could not be carried out, which still stand. -/
  failed : List Occurrence := []

/-- The type without the annotation that is used up, if there is one. -/
def removeAnnotationAt (type : TypeDecl) : Option Site → TypeDecl
  | none => type
  | some site => removeNoteAt type site

namespace Weaver

def setting (weaver : Weaver) (note : Option Annotation) (span : Option Span) (site : Option Site)
    (type : TypeDecl) : Setting where
  options := weaver.options
  types := weaver.types
  note := note
  file := weaver.file
  span := span
  decl := type
  site := site

/-- Lets a handler work on a type: what becomes of the type, what there is to report, and whether it went
well. -/
def attempt (handler : Handler) (target : Target) (setting : Setting) :
    TypeDecl × List Diagnostic × Bool :=
  let (result, warnings) := (handler.handle target).perform setting
  match result with
  | .ok (.applied type) => (type, warnings, true)
  | .ok .skipped => (removeAnnotationAt setting.decl setting.site, warnings, true)
  | .error problem =>
    let report := (problem.diagnostic setting.annotationName).located setting.file setting.span
    (setting.decl, warnings ++ [report], false)

/-- Carries out one occurrence, if it still stands. Of like ones those that have failed come first and are
stepped over. -/
def carryOut (weaver : Weaver) (phase : Phase) (progress : Progress) (occurrence : Occurrence) :
    Progress :=
  let skipped := (progress.failed.filter (·.same occurrence)).length
  match handlerFor? weaver.handlers occurrence.note,
      (phase.sites progress.type occurrence)[skipped]? with
  | some handler, some (target, site) =>
    let note := occurrence.note
    let setting := weaver.setting (some note) note.origin.span (some site) progress.type
    let (type, reports, succeeded) := attempt handler target setting
    { type
      diagnostics := progress.diagnostics ++ reports
      failed := if succeeded then progress.failed else progress.failed ++ [occurrence] }
  | _, _ => progress

/-- Carries out the annotations that stand when a phase begins. -/
def runPhase (weaver : Weaver) (progress : Progress) (phase : Phase) : Progress :=
  let pending := (phase.occurrences progress.type).filter fun occurrence =>
    (handlerFor? weaver.handlers occurrence.note).isSome
  pending.foldl (weaver.carryOut phase) { progress with failed := [] }

/-- Makes the method at an index into a generator if it yields. -/
def generate (weaver : Weaver) (progress : Progress) (index : Nat) : Progress :=
  match yieldHandler? weaver.handlers, progress.type.methods[index]? with
  | some handler, some method =>
    if method.usesYield then
      let setting := weaver.setting none method.origin.span none progress.type
      let (type, reports, _) := attempt handler (.method index) setting
      { progress with type, diagnostics := progress.diagnostics ++ reports }
    else progress
  | _, _ => progress

/-- Carries out everything on a type itself. -/
def weaveOwn (weaver : Weaver) (type : TypeDecl) : Progress :=
  let progress := [Phase.type, .fields, .methods].foldl weaver.runPhase { type }
  (List.range progress.type.methods.length).foldl weaver.generate progress

/-- Carries out everything on a type and its member types, those included that handlers have added. Local and
anonymous types are left alone. The fuel bounds how deeply types are nested. -/
def weaveType (weaver : Weaver) : Nat → TypeDecl → TypeDecl × List Diagnostic
  | 0, type => (type, [])
  | fuel + 1, type =>
    if type.isLocal || type.isAnonymous then (type, [])
    else
      let progress := weaver.weaveOwn type
      let members := progress.type.memberTypes.map (weaveType weaver fuel)
      ({ progress.type with memberTypes := members.map (·.1) },
        progress.diagnostics ++ members.flatMap (·.2))

end Weaver

mutual

/-- How deeply member types are nested. -/
def nesting : TypeDecl → Nat
  | ⟨_, _, _, _, _, _, _, _, _, _, _, _, _, memberTypes, _, _⟩ => nestings memberTypes + 1

def nestings : List TypeDecl → Nat
  | [] => 0
  | type :: rest => max (nesting type) (nestings rest)

end

/-- Carries out all annotations of a source file. Types that handlers add have no member types, so one level
more than there are is enough. -/
def weaveUnit (options : Options) (types : TypeTable) (unit : CompilationUnit) :
    CompilationUnit × List Diagnostic :=
  let weaver : Weaver := { handlers := enabledHandlers options, options, types, file := unit.fileName }
  let woven := unit.types.map fun type => weaver.weaveType (nesting type + 1) type
  ({ unit with types := woven.map (·.1) }, woven.flatMap (·.2))

end JavaWeave.Weave
