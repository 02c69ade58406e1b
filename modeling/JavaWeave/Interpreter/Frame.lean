import JavaWeave.Interpreter.Value
import JavaWeave.Syntax.JavaType

namespace JavaWeave.Interpreter

open Syntax

/-- How a statement ends. -/
inductive Flow where
  | normal
  | breaks (label : Option String)
  | continues (label : Option String)
  | returns (value : Value)
  deriving Repr

/-- What one block declares. -/
structure Scope where
  locals : Bindings Value := []
  types : Bindings ClassId := []
  deriving Repr

/-- The body that runs. -/
structure Frame where
  /-- The class whose code runs. -/
  type : ClassId
  /-- The current object; static code has none. -/
  self : Option Address := none
  /-- The type that the body returns. -/
  returnType : JavaType := .void
  /-- The blocks around the statement that runs, from the innermost on. -/
  scopes : List Scope := [{}]
  deriving Repr

namespace Frame

def push (frame : Frame) : Frame := { frame with scopes := {} :: frame.scopes }

def pop (frame : Frame) : Frame := { frame with scopes := frame.scopes.drop 1 }

/-- Changes the innermost scope. -/
def inInnermost (change : Scope → Scope) (frame : Frame) : Frame :=
  match frame.scopes with
  | [] => frame
  | scope :: rest => { frame with scopes := change scope :: rest }

def declare (name : String) (value : Value) : Frame → Frame :=
  inInnermost fun scope => { scope with locals := scope.locals.put name value }

def declareType (name : String) (id : ClassId) : Frame → Frame :=
  inInnermost fun scope => { scope with types := scope.types.put name id }

def get? (frame : Frame) (name : String) : Option Value :=
  frame.scopes.findSome? fun scope => scope.locals.lookup name

/-- Assigns the innermost variable of a name. -/
def assignIn (name : String) (value : Value) : List Scope → List Scope
  | [] => []
  | scope :: rest =>
    if scope.locals.has name then { scope with locals := scope.locals.put name value } :: rest
    else scope :: assignIn name value rest

def assign (name : String) (value : Value) (frame : Frame) : Frame :=
  { frame with scopes := assignIn name value frame.scopes }

def type? (frame : Frame) (name : String) : Option ClassId :=
  frame.scopes.findSome? fun scope => scope.types.lookup name

/-- All variables that can be seen. -/
def visible (frame : Frame) : Bindings Value :=
  frame.scopes.foldr (fun scope seen => scope.locals.foldl (fun seen (n, v) => seen.put n v) seen) []

end Frame

end JavaWeave.Interpreter
