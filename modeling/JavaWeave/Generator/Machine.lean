import JavaWeave.Syntax.Build

namespace JavaWeave.Generator

open Syntax

/-- Where control goes: to a state, or past the end of the body. -/
inductive Target where
  | done
  | state (id : Nat)
  deriving DecidableEq, Repr, Inhabited

/-- A transfer that runs finalizers on its way. Each pair says where the finalizer of a region goes on when it
completes. -/
structure Route where
  continuations : List (Nat × Target) := []
  target : Target
  deriving DecidableEq, Repr

def Route.direct (target : Target) : Route := { target }

/-- Where jumps to a label go. -/
structure LabelExit where
  label : String
  onBreak : Route
  onContinue : Option Route
  deriving DecidableEq, Repr

/-- Where the jumps that leave a statement go. -/
structure Exits where
  onBreak : Option Route
  onContinue : Option Route
  labels : List LabelExit
  onReturn : Route
  deriving DecidableEq, Repr

inductive Op where
  /-- A statement that no jump leaves. -/
  | code (statement : Statement)
  /-- A statement without yield that jumps may leave. -/
  | leaving (statement : Statement) (exits : Exits)
  /-- Operations under a condition. -/
  | branch (condition : Expression) (ops : List Op)
  | jump (route : Route)
  /-- Hands out a value and goes on at the target when the next one is asked for. -/
  | yield (value : Expression) (resume : Target)
  /-- A choice of targets by the value of an expression; without label it is the default. -/
  | dispatch (selector : Expression) (arms : List (Option Expression × Target))
  /-- The end of the finalizer of a region: throws what is pending, or goes on where a jump said. -/
  | endFinalizer (region : Nat)

/-- The part of a try statement that a state belongs to. -/
inductive Part where
  | body
  | handler
  | finalizer
  deriving DecidableEq, Repr

/-- How a try statement handles a type of exceptions. -/
structure CatchEntry where
  type : JavaType
  parameter : String
  entry : Target
  deriving DecidableEq, Repr

/-- A try statement that yields. -/
structure Region where
  catches : List CatchEntry := []
  finalizer : Option Target := none
  deriving DecidableEq, Repr

/-- The try statements around a place, the outermost first. -/
abbrev Context := List (Nat × Part)

structure State where
  ops : List Op := []
  context : Context := []

structure Machine where
  states : List State := []
  /-- The order of the states; the first is the initial one. -/
  layout : List Nat := []
  regions : List Region := []
  /-- The variables that live across states, with their types, in the order of declaration. -/
  lifted : List (String × JavaType) := []
  /-- Whether control may run on into the next state of the layout. -/
  fallsThrough : Bool := false

namespace Machine

def state (machine : Machine) (id : Nat) : State := machine.states[id]?.getD {}

def region (machine : Machine) (index : Nat) : Region := machine.regions[index]?.getD {}

end Machine

/-- Adds a variable unless there is one of its name. -/
def lift (lifted : List (String × JavaType)) (name : String) (type : JavaType) :
    List (String × JavaType) :=
  if (lifted.lookup name).isSome then lifted else lifted ++ [(name, type)]

/-- The variable that says where the finalizer of a region goes on. -/
def continuationName (region : Nat) : String := "$finallyNext" ++ toString region

/-- The variable that holds the exception that the finalizer of a region throws at its end. -/
def pendingName (region : Nat) : String := "$pendingException" ++ toString region

/-- The assignment of a name. -/
def assignName (name : String) (value : Expression) : Statement := .set (.name name) value

end JavaWeave.Generator
