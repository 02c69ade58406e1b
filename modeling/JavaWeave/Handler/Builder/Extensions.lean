import JavaWeave.Handler.Builder.Fields
import JavaWeave.Syntax.Node
import JavaWeave.Weave.Session

/-! `@Builder.Extension`: methods that become methods of the builder. One that assigns all required fields
takes the place of their setters; one that assigns only some of them cannot be used. -/

namespace JavaWeave.Weave

open Syntax

def extensionNote : String := "Builder.Extension"

/-- The name that an assignment gives a value, alone or as a field of the current object. -/
def assignedName? : Expression → Option String
  | .assign _ (.name text) _ => some text
  | .assign _ (.field (.this none) name) _ => some name
  | _ => none

/-- The names assigned in a body, outside the types declared inside it. -/
def assignedNames (body : List Statement) : List String :=
  (body.flatMap fun statement => (Node.statement statement).walk).filterMap fun visit =>
    match visit.node with
    | .expression e => if (visit.enclosing? .type).isNone then assignedName? e else none
    | _ => none

/-- A method that becomes one of the builder. -/
structure Extension where
  index : Nat
  method : Method
  /-- Whether the method assigns the required fields. -/
  givesRequired : Bool

/-- What is wrong with a method as an extension, or how it can be used. -/
inductive ExtensionVerdict where
  | notPrivateVoid
  | incomplete (missing : List String)
  | usable (givesRequired : Bool)
  deriving DecidableEq, Repr

def judgeExtension (type : TypeDecl) (required : List String) (method : Method) : ExtensionVerdict :=
  if method.modifiers.access != .privateAccess || method.isStatic || !method.returnType.isVoid
      || method.bodiless then .notPrivateVoid
  else
    let assigned := (assignedNames method.body).filter type.hasField
    let (given, missing) := required.partition assigned.contains
    if given.isEmpty then .usable false
    else if missing.isEmpty then .usable true
    else .incomplete missing

/-- The usable extensions of a class, and the places of the others. -/
structure Extensions where
  usable : List Extension := []
  rejected : List Nat := []

/-- Looks at the methods that are marked as extensions, and warns about those that cannot be used. -/
def examineExtensions (type : TypeDecl) (required : List String) : Handling Extensions := do
  let mut found : Extensions := {}
  for (index, method) in indexed type.methods do
    if annotated method.annotations extensionNote then
      match judgeExtension type required method with
      | .notPrivateVoid =>
        warn .extensionNotPrivateVoid [method.name]
        found := { found with rejected := found.rejected ++ [index] }
      | .incomplete missing =>
        warn .extensionIncomplete [method.name, ", ".intercalate missing]
        found := { found with rejected := found.rejected ++ [index] }
      | .usable givesRequired =>
        found := { found with usable := found.usable ++ [{ index, method, givesRequired }] }
  return found

end JavaWeave.Weave
