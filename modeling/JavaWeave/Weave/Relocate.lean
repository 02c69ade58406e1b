import JavaWeave.Syntax.Build
import JavaWeave.Syntax.Revision

/-! Moving the body of a method to another place: into a class of its own, or into a method that returns a
value. Types declared inside the body keep their own `this` and their own returns. -/

namespace JavaWeave.Weave

open Syntax

/-- Statements in which the current object is written as that of the enclosing class. -/
def qualifySelf (outer : String) (body : List Statement) : List Statement :=
  let qualifier : Reviser Unit Id :=
    { expression := fun _ e => match e with
        | .this none => .this (some outer)
        | e => e
      statement := fun _ s => s
      entersTypes := false }
  qualifier.onStatements () body

/-- Statements in which every plain return gives back a value. -/
def returnValue (value : Expression) (body : List Statement) : List Statement :=
  let giver : Reviser Unit Id :=
    { expression := fun _ e => e
      statement := fun _ s => match s with
        | .returns none => .returns (some value)
        | s => s
      entersTypes := false }
  giver.onStatements () body

/-- Whether control may run off the end of a body: the last statement does not leave. -/
def completesNormally (body : List Statement) : Bool :=
  match body.getLast? with
  | some last => !last.isTerminal
  | none => true

/-- Throws a caught object again if it is of one of the types, trying them in turn. -/
def rethrowChain (cause : String) (types : List JavaType) : List Statement :=
  types.map fun type =>
    .whenever (.instanceOf (.name cause) type) (.throws (.cast type (.name cause)))

/-- Parameters that are never assigned. -/
def finalParameters (parameters : List Parameter) : List Parameter :=
  parameters.map fun parameter => { parameter with modifiers := parameter.modifiers.insert .final }

/-- The names of parameters as arguments. -/
def forwarded (parameters : List Parameter) : List Expression :=
  parameters.map fun parameter => .name parameter.name

end JavaWeave.Weave
