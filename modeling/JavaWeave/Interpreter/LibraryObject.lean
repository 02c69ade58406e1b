import JavaWeave.Interpreter.Text

namespace JavaWeave.Interpreter

/-- Takes a lock. -/
def LockState.acquire (state : LockState) : LockState := { state with acquired := state.acquired + 1 }

/-- Gives a lock back; one that is not held cannot be given back. -/
def LockState.release? (state : LockState) : Option LockState :=
  if state.held = 0 then none else some { state with released := state.released + 1 }

/-- Where a list has a value. -/
def indexByKey? (items : List Value) (item : Value) : Option Nat :=
  items.findIdx? fun other => other.key == item.key

def callList (address : Address) (items : List Value) (name : String) (arguments : List Value) :
    Run Value := do
  let become (items : List Value) (answer : Value) : Run Value := do
    store address (.list items)
    return answer
  match name, arguments with
  | "add", [item] => become (items ++ [item]) (.bool true)
  | "add", [place, item] =>
    let place ← needed "int" place Value.int?
    if 0 ≤ place.toInt && place.toInt ≤ items.length then
      become (items.take place.toInt.toNat ++ [item] ++ items.drop place.toInt.toNat) .null
    else raiseWith "IndexOutOfBoundsException" ("Index: " ++ toString place)
  | "addAll", [source] =>
    let incoming ← needed "Collection" source (← heap).items?
    become (items ++ incoming) (.bool !incoming.isEmpty)
  | "get", [place] =>
    let place ← position (← needed "int" place Value.int?) items.length
    return items[place]?.getD .null
  | "set", [place, item] =>
    let place ← position (← needed "int" place Value.int?) items.length
    become (items.set place item) (items[place]?.getD .null)
  | "remove", [which] =>
    match which with
    | .int place =>
      let place ← position place items.length
      become (items.eraseIdx place) (items[place]?.getD .null)
    | item =>
      match indexByKey? items item with
      | some place => become (items.eraseIdx place) (.bool true)
      | none => return .bool false
  | "size", [] => return .int (Int32.ofNat items.length)
  | "isEmpty", [] => return .bool items.isEmpty
  | "clear", [] => become [] .null
  | "contains", [item] => return .bool (indexByKey? items item).isSome
  | "indexOf", [item] => return .int (((indexByKey? items item).map Int32.ofNat).getD (-1))
  | "iterator", [] => allocate (.iterator items 0)
  | "toArray", _ => allocate (.array items)
  | name, arguments => unknownMethod (Object.list items).kind name arguments.length

/-- The entries that are put into a map all at once. A map adds nothing to itself. -/
def incomingEntries (heap : Heap) (address : Address) (source : Value) : List (Value × Value) :=
  match source, heap.object? source with
  | .ref other, some (.map entries) => if other == address then [] else entries
  | _, _ => []

def callMap (address : Address) (entries : List (Value × Value)) (name : String) (arguments : List Value) :
    Run Value := do
  let become (entries : List (Value × Value)) (answer : Value) : Run Value := do
    store address (.map entries)
    return answer
  let value (key : Value) : Value := ((entryWith? entries key.key).map (·.2)).getD .null
  match name, arguments with
  | "put", [key, new] => become (putEntry key new entries) (value key)
  | "get", [key] => return value key
  | "containsKey", [key] => return .bool (entryWith? entries key.key).isSome
  | "containsValue", [wanted] => return .bool (entries.any fun entry => entry.2.key == wanted.key)
  | "remove", [key] => become (entries.filter fun entry => entry.1.key != key.key) (value key)
  | "putAll", [source] =>
    let incoming := incomingEntries (← heap) address source
    become (incoming.foldl (fun entries entry => putEntry entry.1 entry.2 entries) entries) .null
  | "size", [] => return .int (Int32.ofNat entries.length)
  | "isEmpty", [] => return .bool entries.isEmpty
  | "clear", [] => become [] .null
  | "values", [] => allocate (.list (entries.map (·.2)))
  | "keySet", [] => allocate (.list (entries.map (·.1)))
  | name, arguments => unknownMethod (Object.map entries).kind name arguments.length

def callIterator (address : Address) (items : List Value) (place : Nat) (name : String)
    (arguments : List Value) : Run Value := do
  match name, arguments with
  | "hasNext", [] => return .bool (place < items.length)
  | "next", [] =>
    match items[place]? with
    | some item =>
      store address (.iterator items (place + 1))
      return item
    | none => raiseBare "NoSuchElementException"
  | "remove", [] => raiseWith "UnsupportedOperationException" "remove"
  | name, arguments => unknownMethod (Object.iterator items place).kind name arguments.length

def callLock (address : Address) (state : LockState) (name : String) (arguments : List Value) :
    Run Value := do
  match name, arguments with
  | "lock", [] | "lockInterruptibly", [] =>
    store address (.lock state.acquire)
    return .null
  | "tryLock", _ =>
    store address (.lock state.acquire)
    return .bool true
  | "unlock", [] =>
    match state.release? with
    | some state =>
      store address (.lock state)
      return .null
    | none => raiseBare "IllegalMonitorStateException"
  | "isHeldByCurrentThread", [] | "isLocked", [] => return .bool (0 < state.held)
  | "newCondition", [] => allocate (.condition {})
  | name, arguments => unknownMethod (Object.lock state).kind name arguments.length

/-- Nobody else runs, so to wait for a signal is to wait forever. -/
def callCondition (address : Address) (state : ConditionState) (name : String) (arguments : List Value) :
    Run Value := do
  match name, arguments with
  | "await", _ =>
    store address (.condition { state with awaits := state.awaits + 1 })
    fail .wouldBlock
  | "signal", [] | "signalAll", [] =>
    store address (.condition { state with signals := state.signals + 1 })
    return .null
  | name, arguments => unknownMethod (Object.condition state).kind name arguments.length

/-- Calls a method that only objects of one library class have. -/
def callObject (address : Address) (object : Object) (name : String) (arguments : List Value) :
    Run Value := do
  match object, name, arguments with
  | .list items, name, arguments => callList address items name arguments
  | .map entries, name, arguments => callMap address entries name arguments
  | .iterator items place, name, arguments => callIterator address items place name arguments
  | .lock state, name, arguments => callLock address state name arguments
  | .condition state, name, arguments => callCondition address state name arguments
  | .array items, "clone", [] => allocate (.array items)
  | .readWriteLock read _, "readLock", [] => return read
  | .readWriteLock _ write, "writeLock", [] => return write
  | .throwable state, "getMessage", [] | .throwable state, "getLocalizedMessage", [] =>
    return (state.message.map Value.str).getD .null
  | .throwable state, "getCause", [] | .throwable state, "getException", []
  | .throwable state, "getTargetException", [] => return state.cause
  | .plain .thread, "interrupt", [] => return .null
  | .plain .thread, "isInterrupted", [] => return .bool false
  | object, name, arguments => unknownMethod object.kind name arguments.length

end JavaWeave.Interpreter
