import JavaWeave.Interpreter.Perform

namespace JavaWeave.Interpreter

open Syntax

/-- The world of a program before anything has run. -/
def World.load (units : List CompilationUnit) : World := { classes := .load units }

/-- One use of a program. -/
abbrev Use := ExceptT Fault (StateM World)

/-- The class and message of a thrown value. -/
def World.describeThrown (world : World) (thrown : Value) : String × Option String :=
  match world.heap.object? thrown with
  | some (.throwable state) => (state.type, state.message)
  | some (.ofClass state) => ((world.classes.get state.type).name, state.base.bind (·.message))
  | _ => (world.typeName thrown, none)

/-- What is reported of a run that ends abruptly. An exception that leaves the program is a fault. -/
def World.report (world : World) : Unwind → Fault
  | .failed fault => fault
  | .outOfFuel => .outOfFuel
  | .thrown thrown =>
    let (type, message) := world.describeThrown thrown
    .uncaught type message

/-- The outcome of a run. -/
def settle (action : Run α) : Use α := ExceptT.mk fun world =>
  let (result, world) := action.run.run world
  (result.mapError world.report, world)

/-- A class of the program by its name. -/
def classNamed (name : String) : Run ClassId := do
  match (← classes).resolve none name with
  | some (.user id) => return id
  | _ => fail (.unknownType name)

section

variable (fuel : Nat)

/-- Makes an object of a class. -/
def instantiate (type : String) (arguments : List Value) : Use Value :=
  settle do performer fuel (.construct (← classNamed type) arguments {})

def callStatic (type method : String) (arguments : List Value) : Use Value :=
  settle do invokeStatic (performer fuel) (← classNamed type) method arguments

def callMethod (receiver : Value) (method : String) (arguments : List Value) : Use Value :=
  settle (dispatch (performer fuel) receiver method arguments)

def readField (target : Value) (name : String) : Use Value :=
  settle (fieldOf (performer fuel) target name)

def readStatic (type name : String) : Use Value :=
  settle do staticField (performer fuel) (← classNamed type) name

/-- The text of a value. -/
def showText (value : Value) : Use String := settle (performer fuel (.text value))

/-- Whether a value hands out items itself. -/
def isIterator (world : World) (value : Value) : Bool :=
  match world.heap.object? value with
  | some (.iterator ..) => true
  | some (.ofClass state) => (world.classes.method? state.type "hasNext" 0).isSome
  | _ => false

/-- Takes items from an iterator. -/
def take (iterator : Value) : Nat → Run (List Value)
  | 0 => return []
  | limit + 1 => do
    let more ← dispatch (performer fuel) iterator "hasNext" []
    if ← needed "boolean" more Value.bool? then
      let item ← dispatch (performer fuel) iterator "next" []
      return item :: (← take iterator limit)
    else return []

/-- The first items of an array, a list, or something that can be walked through. -/
def drain (source : Value) (limit : Nat) : Use (List Value) :=
  settle do
    match (← heap).items? source with
    | some items => return items.take limit
    | none =>
      let iterator ← if isIterator (← get) source then pure source
        else dispatch (performer fuel) source "iterator" []
      take fuel iterator limit

end

/-- What has been printed, which is then forgotten. -/
def takeOutput : StateM World String :=
  modifyGet fun world => (world.output, { world with output := "" })

end JavaWeave.Interpreter
