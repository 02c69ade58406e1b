import JavaWeave.Weave.Lowering

/-! Edits of a type declaration. Edits refer to members by their place in the declaration as it was at the
start; all of them are checked and lowered first and then committed at once, so a problem changes nothing. -/

namespace JavaWeave.Weave

open Syntax

/-- The place of an annotation. -/
inductive Site where
  | type (note : Nat)
  | field (field note : Nat)
  | method (method note : Nat)
  deriving DecidableEq, Repr

inductive Edit where
  | injectField (field : Field)
  | injectMethod (method : Method)
  | injectConstructor (constructor : Constructor)
  | injectType (type : TypeDecl)
  | injectInitializer (initializer : Initializer)
  | replaceBody (method : Nat) (body : List Statement)
  | replaceReturnType (method : Nat) (type : JavaType)
  | replaceParameters (method : Nat) (parameters : List Parameter)
  | finalizeParameters (method : Nat)
  | setModifiers (method : Nat) (modifiers : Modifiers)
  | removeMethodNote (method : Nat) (name : String)
  | removeMethod (method : Nat)
  | removeFieldInitializer (field : Nat)
  | replaceConstructor (constructor : Nat) (replacement : Constructor)
  | setConstructorAccess (constructor : Nat) (access : Access)
  | convertToEnum (constants : List EnumConstant)
  | removeNote (site : Site)

/-- Fails unless an index is below a length. -/
def checkIndex (what : String) (index length : Nat) : Except InternalProblem Unit :=
  if index < length then .ok () else .error (.outOfRange what index)

/-- Fails unless there is an annotation at the site. -/
def Site.check (type : TypeDecl) : Site → Except InternalProblem Unit
  | .type a => checkIndex "annotation" a type.annotations.length
  | .field f a =>
    match type.fields[f]? with
    | none => .error (.outOfRange "field" f)
    | some decl => checkIndex "annotation" a decl.annotations.length
  | .method m a =>
    match type.methods[m]? with
    | none => .error (.outOfRange "method" m)
    | some decl => checkIndex "annotation" a decl.annotations.length

/-- Whether a site comes after another: those of the type are first, then those of the fields, then those of
the methods, each in the order of members and places. -/
def Site.isAfter : Site → Site → Bool
  | .type a, .type b => b < a
  | .field f a, .field g b => g < f || (f == g && b < a)
  | .method m a, .method n b => n < m || (m == n && b < a)
  | .field .., .type _ | .method .., .type _ | .method .., .field .. => true
  | _, _ => false

/-- Changes the method at an index. -/
def amendMethod (type : TypeDecl) (index : Nat) (change : Method → Method) : TypeDecl :=
  { type with methods := type.methods.modify index change }

def amendField (type : TypeDecl) (index : Nat) (change : Field → Field) : TypeDecl :=
  { type with fields := type.fields.modify index change }

def amendConstructor (type : TypeDecl) (index : Nat) (change : Constructor → Constructor) : TypeDecl :=
  { type with constructors := type.constructors.modify index change }

/-- The type without the annotation at a site. -/
def removeNoteAt (type : TypeDecl) : Site → TypeDecl
  | .type place => { type with annotations := type.annotations.eraseIdx place }
  | .field index place =>
    amendField type index fun field => { field with annotations := field.annotations.eraseIdx place }
  | .method index place =>
    amendMethod type index fun method => { method with annotations := method.annotations.eraseIdx place }

namespace Edit

/-- Fails if the edit refers to a member that the declaration does not have. -/
def check (type : TypeDecl) : Edit → Except InternalProblem Unit
  | .removeNote site => site.check type
  | .replaceBody method _ | .replaceReturnType method _ | .replaceParameters method _
  | .finalizeParameters method | .setModifiers method _ | .removeMethodNote method _
  | .removeMethod method => checkIndex "method" method type.methods.length
  | .removeFieldInitializer field => checkIndex "field" field type.fields.length
  | .replaceConstructor constructor _ | .setConstructorAccess constructor _ =>
    checkIndex "constructor" constructor type.constructors.length
  | _ => .ok ()

/-- The return type that an edit gives the method at an index. -/
def newReturnType? (method : Nat) : Edit → Option JavaType
  | .replaceReturnType index returnType => if index = method then some returnType else none
  | _ => none

/-- What a method returns after all edits: the last new return type, else the old one. -/
def finalReturnType (type : TypeDecl) (edits : List Edit) (method : Nat) : JavaType :=
  (edits.reverse.findSome? (newReturnType? method)).getD
    ((type.methods[method]?.map (·.returnType)).getD .void)

/-- Lowers the fragment of an edit, as one among all edits. -/
def lower (type : TypeDecl) (span : Option Span) (edits : List Edit) :
    Edit → Except InternalProblem Edit
  | .injectField field => .injectField <$> lowerField span field
  | .injectMethod method => .injectMethod <$> lowerMethod span method
  | .injectConstructor constructor => .injectConstructor <$> lowerConstructor span constructor
  | .replaceConstructor index constructor =>
    .replaceConstructor index <$> lowerConstructor span constructor
  | .injectType decl => .injectType <$> lowerType span decl
  | .injectInitializer initializer => .injectInitializer <$> lowerInitializer span initializer
  | .replaceBody method body =>
    .replaceBody method <$> lowerBody span (finalReturnType type edits method) body
  | edit => .ok edit

/-- Carries out an edit of a member that is there. All members still stand where they stood at the start. -/
def amend (type : TypeDecl) : Edit → TypeDecl
  | .replaceBody index body =>
    amendMethod type index fun method => { method with body, bodiless := false }
  | .replaceReturnType index returnType =>
    amendMethod type index fun method => { method with returnType }
  | .replaceParameters index parameters =>
    amendMethod type index fun method => { method with parameters }
  | .finalizeParameters index =>
    amendMethod type index fun method =>
      { method with parameters := method.parameters.map fun parameter =>
          { parameter with modifiers := parameter.modifiers.insert .final } }
  | .setModifiers index modifiers => amendMethod type index fun method => { method with modifiers }
  | .removeMethodNote index name =>
    amendMethod type index fun method =>
      { method with annotations := method.annotations.filter fun a => !a.denotes name }
  | .removeFieldInitializer index => amendField type index fun field => { field with initial := none }
  | .replaceConstructor index replacement => amendConstructor type index fun _ => replacement
  | .setConstructorAccess index access =>
    amendConstructor type index fun constructor =>
      { constructor with modifiers := constructor.modifiers.withAccess access }
  | _ => type

/-- Adds the member that an edit injects behind those of its kind. -/
def inject (type : TypeDecl) : Edit → TypeDecl
  | .injectField field => { type with fields := type.fields ++ [field] }
  | .injectMethod method => { type with methods := type.methods ++ [method] }
  | .injectConstructor constructor => { type with constructors := type.constructors ++ [constructor] }
  | .injectType decl => { type with memberTypes := type.memberTypes ++ [decl] }
  | .injectInitializer initializer => { type with initializers := type.initializers ++ [initializer] }
  | _ => type

/-- The site whose annotation an edit removes. -/
def removedSite? : Edit → Option Site
  | .removeNote site => some site
  | _ => none

/-- The method that an edit removes. -/
def removedMethod? : Edit → Option Nat
  | .removeMethod index => some index
  | _ => none

/-- The constants that an edit gives a class it makes into an enum. -/
def newConstants? : Edit → Option (List EnumConstant)
  | .convertToEnum constants => some constants
  | _ => none

end Edit

/-- The items of a list with their indices. -/
def indexed (items : List α) : List (Nat × α) := items.zipIdx.map fun (item, index) => (index, item)

/-- Puts an item into a list that runs from the last item to the first, unless it is there. -/
def insertDescending [DecidableEq α] (isAfter : α → α → Bool) (item : α) : List α → List α
  | [] => [item]
  | other :: rest =>
    if item = other then other :: rest
    else if isAfter item other then item :: other :: rest
    else other :: insertDescending isAfter item rest

/-- The items from the last to the first, each once. What is removed in this order leaves the places of all
that is still to be removed as they are. -/
def descending [DecidableEq α] (isAfter : α → α → Bool) (items : List α) : List α :=
  items.foldr (insertDescending isAfter) []

/-- The sites whose annotations go: the consumed one and those of the edits. -/
def removedSites (consumed : Option Site) (edits : List Edit) : List Site :=
  consumed.toList ++ edits.filterMap Edit.removedSite?

/-- The constants of the last conversion into an enum. -/
def conversion? (edits : List Edit) : Option (List EnumConstant) :=
  edits.reverse.findSome? Edit.newConstants?

/-- Makes a class into an enum. -/
def convert (type : TypeDecl) (constants : List EnumConstant) : TypeDecl :=
  { type with
    kind := .enum
    modifiers := (type.modifiers.erase .final).erase .abstract
    superclass := none
    constants := type.constants ++ constants }

/-- Applies edits that are checked and lowered: annotations go first, then members are changed where they
stand, then methods go, and new members come last. -/
def applyEdits (type : TypeDecl) (consumed : Option Site) (edits : List Edit) : TypeDecl :=
  let stripped := (descending Site.isAfter (removedSites consumed edits)).foldl removeNoteAt type
  let amended := edits.foldl Edit.amend stripped
  let removals := descending (fun a b => b < a) (edits.filterMap Edit.removedMethod?)
  let thinned := { amended with methods := removals.foldl List.eraseIdx amended.methods }
  let converted := match conversion? edits with
    | none => thinned
    | some constants => convert thinned constants
  edits.foldl Edit.inject converted

/-- Checks, lowers and commits edits, removing the annotation they come from. -/
def commit (type : TypeDecl) (span : Option Span) (consumed : Option Site) (edits : List Edit) :
    Except InternalProblem TypeDecl := do
  if let some site := consumed then site.check type
  edits.forM (Edit.check type)
  let lowered ← edits.mapM (Edit.lower type span edits)
  return applyEdits type consumed lowered

end JavaWeave.Weave
