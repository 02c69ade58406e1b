import JavaWeave.Diagnostic.Message
import JavaWeave.Generator.Yield
import JavaWeave.Syntax.Build
import JavaWeave.Syntax.Node

namespace JavaWeave.Generator

open Syntax

/-- What a generator hands out. -/
structure Shape where
  element : JavaType
  /-- The method returns an iterable and not an iterator. -/
  iterable : Bool
  deriving DecidableEq, Repr

namespace Shape

/-- The type of the elements, read off the type argument. A lower bound says nothing about them. -/
def elementType : Option JavaType → JavaType
  | none => .object
  | some argument =>
    match argument.wildcard with
    | none => argument
    | some .upper => { argument with wildcard := none }
    | some .unbound | some .lower => .object

def ofReturnType? (type : JavaType) : Option Shape :=
  let iterable := type.isNamed "Iterable"
  if type.dimensions = 0 && (iterable || type.isNamed "Iterator") then
    some { element := elementType type.arguments.head?, iterable }
  else none

end Shape

/-- Whether a node is a statement that holds a lock. -/
def isSynchronized : Node → Bool
  | .statement (.synchronized ..) => true
  | _ => false

/-- Whether an expression is the whole of a statement, which is judged as a statement. -/
def isWholeStatement (visit : Visit) : Bool :=
  match visit.ancestors.head? with
  | some (.statement (.expression _)) => true
  | _ => false

/-- What is wrong at one place of a body. -/
def objectionAt? (visit : Visit) : Option Diagnostic.Message :=
  let nested := (visit.enclosing? .type).isSome
  match visit.node with
  | .statement s =>
    match s.yielded? with
    | some arguments =>
      if nested then some .yieldInNestedClass
      else if visit.ancestors.any isSynchronized then some .yieldInSynchronized
      else if arguments.length ≠ 1 then some .yieldArgumentCount
      else none
    | none =>
      match s with
      | .returns (some _) => if nested then none else some .yieldReturnsValue
      | _ => none
  | .expression (.call none name _ _) =>
    if name ≠ yieldName || isWholeStatement visit then none
    else if nested then some .yieldInNestedClass
    else some .yieldNotStatement
  | _ => none

/-- The first thing in reading order that a generator cannot do. -/
def objection? (body : List Statement) : Option Diagnostic.Message :=
  (body.flatMap fun statement => (Node.statement statement).walk).findSome? objectionAt?

/-- Why a method cannot be a generator: the message and what it is about. -/
abbrev Objection := Diagnostic.Message × List String

/-- The shape of a method that can be a generator. -/
def check (method : Method) : Except Objection Shape :=
  match Shape.ofReturnType? method.returnType with
  | none => .error (.yieldReturnType, [method.name])
  | some shape =>
    match method.parameters.find? fun parameter => !parameter.isFinal with
    | some parameter => .error (.yieldParameterNotFinal, [parameter.name])
    | none =>
      match objection? method.body with
      | some message => .error (message, [])
      | none => .ok shape

end JavaWeave.Generator
