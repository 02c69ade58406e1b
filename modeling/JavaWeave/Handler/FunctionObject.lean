import JavaWeave.Weave.Handler
import JavaWeave.Weave.Relocate

namespace JavaWeave.Weave

open Syntax

inductive FunctionKind where
  /-- Returns nothing. -/
  | action
  | function
  /-- Returns a truth value. -/
  | predicate
  deriving DecidableEq, Repr

namespace FunctionKind

def ofNote : String → FunctionKind
  | "Action" => .action
  | "Predicate" => .predicate
  | _ => .function

def name : FunctionKind → String
  | .action => "Action"
  | .function => "Function"
  | .predicate => "Predicate"

/-- The class that declares the interfaces if the annotation names none. -/
def template : FunctionKind → String
  | .action | .function => "lombok.Functions"
  | .predicate => "lombok.Predicates"

/-- The method of the interfaces. -/
def methodName : FunctionKind → String
  | .action | .function => "apply"
  | .predicate => "evaluate"

/-- What methods should do if one with this return type does not fit. -/
def complaint? (kind : FunctionKind) (returnType : JavaType) : Option String :=
  match kind with
  | .action => if returnType.isVoid then none else some "returning void"
  | .predicate => if returnType.isBoolean then none else some "returning boolean"
  | .function => if returnType.isVoid then some "returning a value" else none

/-- The interface of the object: the number of parameters is part of its name. -/
def interface (kind : FunctionKind) (template : String) (method : Method) : JavaType :=
  let parameters := method.parameters.map (·.type.boxed)
  let result := if kind = .function then [method.returnType.boxed] else []
  (JavaType.named (template ++ "." ++ kind.name ++ toString method.arity)).apply (parameters ++ result)

/-- What the method of the object returns. -/
def result (kind : FunctionKind) (method : Method) : JavaType :=
  match kind with
  | .action => .void
  | .function => method.returnType.boxed
  | .predicate => .named "boolean"

end FunctionKind

/-- The new body: it returns the function object. -/
def functionObjectBody (kind : FunctionKind) (interface : JavaType) (owner : String) (method : Method) :
    List Statement :=
  let implementation : Method := {
    modifiers := .ofList [.publicAccess]
    returnType := kind.result method
    name := kind.methodName
    parameters := (finalParameters method.parameters).map fun parameter =>
      { parameter with type := parameter.type.boxed }
    body := if method.isStatic then method.body else qualifySelf owner method.body
    implementing := true }
  [.returns (some (.makeAnonymous interface [] { name := "", methods := [implementation] }))]

def functionObjectHandler : Handler where
  name := "ActionFunctionAndPredicate"
  trigger := .annotations ["Action", "Function", "Predicate"]
  handle target := do
    let index ← methodTarget target
    let name ← annotationName
    let kind := FunctionKind.ofNote name
    let method ← methodAt index
    if method.isAbstract then misuseOfAnnotation .concreteMethodOnly
    if let some complaint := kind.complaint? method.returnType then misuse .methodsOnly [name, complaint]
    let template := ((← member (·.class? "value")).map (·.name)).getD kind.template
    let interface := kind.interface template method
    schedule (.replaceParameters index [])
    schedule (.replaceReturnType index interface)
    schedule (.replaceBody index (functionObjectBody kind interface (← edited).name method))
    rebuild

end JavaWeave.Weave
