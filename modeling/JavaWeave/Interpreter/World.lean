import JavaWeave.Interpreter.Classes
import JavaWeave.Interpreter.Fault
import JavaWeave.Interpreter.Frame
import JavaWeave.Interpreter.Object

/-! The state of a running program, and the two kinds of steps on it: those of the program as a whole, and
those of one body, which has a frame. What was done before a step ends abruptly stays done. -/

namespace JavaWeave.Interpreter

open Syntax

structure World where
  classes : ClassTable := {}
  heap : Heap := {}
  /-- What has been printed. -/
  output : String := ""
  /-- How many methods are being run. -/
  depth : Nat := 0

/-- Why a step ends abruptly. -/
inductive Unwind where
  /-- An exception of the program, which it may catch. -/
  | thrown (value : Value)
  | failed (fault : Fault)
  /-- The bound on the length of the run is reached; nothing is said about what would follow. -/
  | outOfFuel
  deriving Repr

/-- Steps of a program. -/
abbrev Run := ExceptT Unwind (StateM World)

/-- Steps of a body. -/
abbrev Code := ExceptT Unwind (StateT Frame (StateM World))

instance : MonadLift Run Code where
  monadLift action := ExceptT.mk fun frame world =>
    let (result, world) := action.run.run world
    ((result, frame), world)

/-- Runs a body in a frame of its own. -/
def Code.within (frame : Frame) (body : Code α) : Run α :=
  ExceptT.mk fun world =>
    let ((result, _), world) := (body.run.run frame).run world
    (result, world)

/-- How a step ends, as a value. -/
def attempt (action : Code α) : Code (Except Unwind α) := ExceptT.mk (Except.ok <$> action.run)

/-- Ends in the given way. -/
def conclude (result : Except Unwind α) : Code α := ExceptT.mk (pure result)

/-- The frame of the running body. -/
def frame : Code Frame := ExceptT.lift get

def modifyFrame (change : Frame → Frame) : Code Unit := ExceptT.lift (modify change)

/-- Runs statements in a scope of their own, which ends however they end. -/
def inScope (action : Code α) : Code α := do
  modifyFrame .push
  let result ← attempt action
  modifyFrame .pop
  conclude result

def heap : Run Heap := return (← get).heap

def classes : Run ClassTable := return (← get).classes

def modifyClasses (change : ClassTable → ClassTable) : Run Unit :=
  modify fun world => { world with classes := change world.classes }

def classInfo (id : ClassId) : Run ClassInfo := return (← classes).get id

/-- Makes a new object. -/
def allocateAt (object : Object) : Run Address := do
  let world ← get
  let (address, heap) := world.heap.allocate object
  set { world with heap }
  return address

def allocate (object : Object) : Run Value := Value.ref <$> allocateAt object

def store (address : Address) (object : Object) : Run Unit :=
  modify fun world => { world with heap := world.heap.set address object }

/-- Changes the state of an object of a class of the program. -/
def modifyInstance (address : Address) (change : Instance → Instance) : Run Unit := do
  if let some (.ofClass state) := (← heap).get? address then store address (.ofClass (change state))

def print (text : String) : Run Unit := modify fun world => { world with output := world.output ++ text }

def fail (fault : Fault) : Run α := throw (.failed fault)

def unsupported (limit : Limit) : Run α := fail (.unsupported limit)

/-- A value that is not what is needed. -/
def mismatch (expected : String) (found : Value) : Run α := do
  fail (.mismatch expected ((← heap).kind found))

/-- What is needed of a value, if it has it. -/
def needed (expected : String) (found : Value) (view : Value → Option α) : Run α :=
  match view found with
  | some value => pure value
  | none => mismatch expected found

/-- Throws a new exception of the library. -/
def raise (type : String) (message : Option String) (cause : Value) : Run α := do
  throw (.thrown (← allocate (.throwable { type, message, cause })))

/-- Throws a new exception that has a message. -/
def raiseWith (type message : String) : Run α := raise type (some message) .null

/-- Throws a new exception that has no message. -/
def raiseBare (type : String) : Run α := raise type none .null

end JavaWeave.Interpreter
