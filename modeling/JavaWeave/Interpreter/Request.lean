import JavaWeave.Interpreter.LibraryStatic

namespace JavaWeave.Interpreter

open Syntax

/-- What a new object gets from where it is made. -/
structure Creation where
  outers : List Address := []
  captured : Bindings Value := []
  constant : Option (String × Int32) := none

inductive Request where
  /-- Runs a method that a class declares. -/
  | invoke (owner : ClassId) (method : Method) (self : Option Address) (arguments : List Value)
  /-- Makes an object. -/
  | construct (id : ClassId) (arguments : List Value) (creation : Creation)
  /-- Runs a constructor that a class declares on an object that is there. -/
  | runConstructor (id : ClassId) (self : Address) (arguments : List Value)
  /-- Makes sure that the static part of a class is initialized. -/
  | prepare (id : ClassId)
  /-- The text of a value, which its class may define. -/
  | text (value : Value)

/-- What a request is answered with. -/
abbrev Request.Answer : Request → Type
  | .invoke .. | .construct .. => Value
  | .runConstructor .. | .prepare _ => Unit
  | .text _ => String

/-- Something that answers requests. -/
abbrev Performer := (request : Request) → Run request.Answer

namespace World

/-- The simple name of the class of a value. -/
def typeName (world : World) (value : Value) : String :=
  match world.heap.object? value with
  | some (.ofClass state) => (world.classes.get state.type).name
  | some (.throwable state) => state.type
  | some object => object.kind
  | none => value.boxClass?.getD "null"

/-- Whether a value is of the type with a given name. -/
def isNamed (world : World) (value : Value) (target : String) : Bool :=
  let simple := Names.simple target
  match world.heap.object? value with
  | some (.ofClass state) => world.classes.isNamed state.type target
  | some (.throwable state) => Library.isSubtype state.type simple
  | some (.array _) => simple == "Object"
  | some object => Library.isSubtype object.kind simple
  | none => value.boxClass?.any (Library.isSubtype · simple)

def isArray (world : World) (value : Value) : Bool :=
  match world.heap.object? value with
  | some (.array _) => true
  | _ => false

/-- Whether a value is of a type. -/
def isInstance (world : World) (value : Value) (type : JavaType) : Bool :=
  if type.dimensions > 0 then world.isArray value else world.isNamed value type.name

/-- Whether a thrown value has to be declared. -/
def isChecked (world : World) (thrown : Value) : Bool :=
  match world.heap.object? thrown with
  | some (.throwable state) => Library.isChecked state.type
  | _ => !world.isNamed thrown "RuntimeException" && !world.isNamed thrown "Error"

end World

end JavaWeave.Interpreter
