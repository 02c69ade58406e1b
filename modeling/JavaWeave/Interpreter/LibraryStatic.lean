import JavaWeave.Interpreter.LibraryObject

namespace JavaWeave.Interpreter.Library

/-- A static field of a library class. -/
def field? : String → String → Option (Run Value)
  | "System", "out" | "System", "err" => some (allocate (.plain .printer))
  | "Boolean", "TRUE" => some (pure (.bool true))
  | "Boolean", "FALSE" => some (pure (.bool false))
  | "Integer", "MAX_VALUE" => some (pure (.int Int32.maxValue))
  | "Integer", "MIN_VALUE" => some (pure (.int Int32.minValue))
  | "Long", "MAX_VALUE" => some (pure (.long Int64.maxValue))
  | "Long", "MIN_VALUE" => some (pure (.long Int64.minValue))
  | _, _ => none

/-- The whole number that digits behind an optional sign spell. -/
def wholeNumber? (text : String) : Option Int :=
  let number? (digits : List Char) : Option Int :=
    if !digits.isEmpty && digits.all Char.isDigit then
      some (digits.foldl (fun value digit => value * 10 + (digit.toNat - '0'.toNat : Nat)) (0 : Int))
    else none
  match text.toList with
  | '-' :: digits => (number? digits).map fun n => -n
  | '+' :: digits => number? digits
  | digits => number? digits

def int32? (text : String) : Option Int32 := do
  let value ← wholeNumber? text
  guard (Int32.minValue.toInt ≤ value && value ≤ Int32.maxValue.toInt)
  return Int32.ofInt value

def int64? (text : String) : Option Int64 := do
  let value ← wholeNumber? text
  guard (Int64.minValue.toInt ≤ value && value ≤ Int64.maxValue.toInt)
  return Int64.ofInt value

def parseInt (text : String) : Run Value :=
  match int32? (Text.strip text) with
  | some value => pure (.int value)
  | none => raiseWith "NumberFormatException" ("For input string: \"" ++ text ++ "\"")

/-- The greater of two doubles, or the smaller one if the order is turned. What is no number loses. -/
def pickDouble (prefers : Double → Double → Bool) (a b : Double) : Double :=
  if a.isNaN then b else if prefers b a then b else a

/-- The greatest or smallest of two numbers, as a number of the wider kind. -/
def pick (greatest : Bool) : Value → Value → Value
  | .int a, .int b => .int (if greatest then max a b else min a b)
  | a@(.double _), b | a, b@(.double _) =>
    let prefers (x y : Double) : Bool := if greatest then x > y else x < y
    .double (pickDouble prefers (a.double?.getD 0) (b.double?.getD 0))
  | a, b =>
    let x := a.long?.getD 0
    let y := b.long?.getD 0
    .long (if greatest then max x y else min x y)

/-- The magnitude of a whole number; that of the least one does not fit and wraps around. -/
def magnitude {α : Type} [Neg α] [LT α] [DecidableLT α] [OfNat α 0] (value : α) : α :=
  if value < 0 then -value else value

/-- A number without its sign. -/
def absolute? : Value → Option Value
  | .int value => some (.int (magnitude value))
  | .long value => some (.long (magnitude value))
  | .double value => some (.double value.abs)
  | _ => none

/-- A static method of a library class. -/
def method? (type name : String) (arguments : List Value) : Option (Run Value) :=
  match type, name, arguments with
  | "Math", "max", [a, b] => some (pure (pick true a b))
  | "Math", "min", [a, b] => some (pure (pick false a b))
  | "Math", "abs", [value] => pure <$> absolute? value
  | "Integer", "valueOf", [.str text] | "Integer", "parseInt", [.str text] => some (parseInt text)
  | "Collections", "emptyList", [] => some (allocate (.list []))
  | "Collections", "singletonList", [value] => some (allocate (.list [value]))
  | "Collections", name, [value] =>
    if ["unmodifiableList", "unmodifiableCollection", "unmodifiableSet", "unmodifiableMap"].contains name
    then some (pure value) else none
  | "Arrays", "asList", [single] => some do
    match (← heap).object? single with
    | some (.array items) => allocate (.list items)
    | _ => allocate (.list [single])
  | "Arrays", "asList", values => some (allocate (.list values))
  | "Objects", "equals", [a, b] => some (pure (.bool (a.key == b.key)))
  | "Objects", "isNull", [a] => some (pure (.bool a.isNull))
  | "Objects", "nonNull", [a] => some (pure (.bool !a.isNull))
  | "Thread", "currentThread", [] => some (allocate (.plain .thread))
  | "Thread", "sleep", [_] => some (pure .null)
  | "EventQueue", "isDispatchThread", [] => some (pure (.bool true))
  | type, "valueOf", [value] =>
    if ["Integer", "Long", "Double", "Boolean", "Character"].contains type then some (pure value) else none
  | _, _, _ => none

/-- A new object of a library class that is no exception. -/
def construct? (type : String) (arguments : List Value) : Option (Run Value) :=
  match type with
  | "ArrayList" | "LinkedList" | "CopyOnWriteArrayList" | "Vector" => some do
    let heap ← heap
    allocate (.list ((arguments.head?.bind heap.items?).getD []))
  | "HashMap" | "LinkedHashMap" | "TreeMap" | "ConcurrentHashMap" => some (allocate (.map []))
  | "ReentrantLock" => some (allocate (.lock {}))
  | "ReentrantReadWriteLock" => some do
    allocate (.readWriteLock (← allocate (.lock {})) (← allocate (.lock {})))
  | "Object" => some (allocate (.plain .object))
  | "Thread" => some (allocate (.plain .thread))
  | _ => none

end JavaWeave.Interpreter.Library
