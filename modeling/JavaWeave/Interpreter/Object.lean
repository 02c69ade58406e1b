import JavaWeave.Interpreter.Value

namespace JavaWeave.Interpreter

/-- How often a lock was taken and given back. -/
structure LockState where
  acquired : Nat := 0
  released : Nat := 0
  deriving DecidableEq, Repr

/-- How often a lock is still to be given back. -/
def LockState.held (state : LockState) : Nat := state.acquired - state.released

structure ConditionState where
  awaits : Nat := 0
  signals : Nat := 0
  deriving DecidableEq, Repr

/-- The state of an exception. -/
structure Throwable where
  /-- The simple name of its class. -/
  type : String
  message : Option String := none
  cause : Value := .null
  deriving Repr, Inhabited

/-- The text of an exception: its class, and its message if it has one. -/
def Throwable.text (type : String) (message : Option String) : String :=
  type ++ (message.map (": " ++ ·)).getD ""

/-- An object of a class of the program. -/
structure Instance where
  type : ClassId
  fields : Bindings Value := []
  /-- The enclosing objects, from the nearest on. -/
  outers : List Address := []
  /-- The local variables that a local or anonymous class sees. -/
  captured : Bindings Value := []
  /-- The name and ordinal of a constant of an enum. -/
  constant : Option (String × Int32) := none
  /-- What is inherited from a class of exceptions that the library has. -/
  base : Option Throwable := none
  deriving Repr, Inhabited

/-- A library object without state. -/
inductive PlainObject where
  | printer
  | thread
  | object
  deriving DecidableEq, Repr

def PlainObject.name : PlainObject → String
  | .printer => "PrintStream"
  | .thread => "Thread"
  | .object => "Object"

inductive Object where
  | ofClass (state : Instance)
  | array (items : List Value)
  | list (items : List Value)
  /-- Entries in the order of their insertion, with keys that differ. -/
  | map (entries : List (Value × Value))
  /-- A walk through items, and how many have been handed out. -/
  | iterator (items : List Value) (position : Nat)
  | lock (state : LockState)
  | readWriteLock (read write : Value)
  | condition (state : ConditionState)
  | throwable (state : Throwable)
  | plain (kind : PlainObject)
  deriving Repr, Inhabited

namespace Object

/-- What an object is called where a value does not fit. -/
def kind : Object → String
  | .ofClass _ => "object"
  | .array _ => "array"
  | .list _ => "ArrayList"
  | .map _ => "HashMap"
  | .iterator .. => "Iterator"
  | .lock _ => "ReentrantLock"
  | .readWriteLock .. => "ReentrantReadWriteLock"
  | .condition _ => "Condition"
  | .throwable _ => "Throwable"
  | .plain kind => kind.name

def instance? : Object → Option Instance
  | .ofClass state => some state
  | _ => none

/-- The items of a list or array. -/
def items? : Object → Option (List Value)
  | .list items | .array items => some items
  | _ => none

end Object

/-- Map entries by the key of their first part. -/
def entryWith? (entries : List (Value × Value)) (key : Key) : Option (Value × Value) :=
  entries.find? fun entry => entry.1.key == key

/-- Puts an entry where one with the same key is, or at the end. -/
def putEntry (key value : Value) : List (Value × Value) → List (Value × Value)
  | [] => [(key, value)]
  | entry :: rest =>
    if entry.1.key == key.key then (key, value) :: rest else entry :: putEntry key value rest

/-- The objects by address. -/
structure Heap where
  objects : Array Object := #[]
  deriving Repr, Inhabited

namespace Heap

def get? (heap : Heap) (address : Address) : Option Object := heap.objects[address.index]?

/-- Puts a new object at an address of its own. -/
def allocate (heap : Heap) (object : Object) : Address × Heap :=
  (⟨heap.objects.size⟩, ⟨heap.objects.push object⟩)

def set (heap : Heap) (address : Address) (object : Object) : Heap :=
  ⟨heap.objects.setIfInBounds address.index object⟩

/-- The object that a value refers to. -/
def object? (heap : Heap) (value : Value) : Option Object := value.ref?.bind heap.get?

def items? (heap : Heap) (value : Value) : Option (List Value) :=
  (heap.object? value).bind Object.items?

def instance? (heap : Heap) (value : Value) : Option Instance :=
  (heap.object? value).bind Object.instance?

/-- The name and ordinal of a value that is a constant of an enum. -/
def constant? (heap : Heap) (value : Value) : Option (String × Int32) :=
  (heap.instance? value).bind (·.constant)

/-- What a value is called where it does not fit. -/
def kind (heap : Heap) : Value → String
  | .null => "null"
  | .bool _ => "boolean"
  | .int _ => "int"
  | .long _ => "long"
  | .double _ => "double"
  | .char _ => "char"
  | .str _ => "String"
  | .ref address => ((heap.get? address).map Object.kind).getD "object"

end Heap

end JavaWeave.Interpreter
