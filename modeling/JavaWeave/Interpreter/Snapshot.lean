import JavaWeave.Interpreter.Request
import JavaWeave.Json.Value
import JavaWeave.Layout.Literal

namespace JavaWeave.Interpreter

/-- Objects inside of more others than this are only named. -/
def snapshotDepth : Nat := 9

section

variable (world : World) (inner : Value → Json)

def throwableJson (state : Throwable) : Json :=
  .obj [("throwable", .str state.type), ("message", .ofOption .str state.message),
    ("cause", inner state.cause)]

def instanceJson (state : Instance) : Json :=
  .obj ([("object", .str (world.classes.get state.type).name),
      ("fields", .obj (state.fields.map fun (name, value) => (name, inner value)))]
    ++ (state.constant.map fun (name, ordinal) =>
        ("constant", Json.arr [.str name, .int ordinal.toInt])).toList
    ++ (state.base.map fun base => ("base", throwableJson inner base)).toList)

def objectJson : Object → Json
  | .ofClass state => instanceJson world inner state
  | .array items => .obj [("array", .ofList inner items)]
  | .list items => .obj [("list", .ofList inner items)]
  | .map entries => .obj [("map", .ofList (fun (key, value) => .arr [inner key, inner value]) entries)]
  | .iterator items position => .obj [("iterator", .ofList inner items), ("pos", .nat position)]
  | .lock state => .obj [("lock", .arr [.nat state.acquired, .nat state.released, .nat state.held])]
  | .readWriteLock read write => .obj [("read", inner read), ("write", inner write)]
  | .condition state => .obj [("condition", .arr [.nat state.awaits, .nat state.signals])]
  | .throwable state => throwableJson inner state
  | .plain kind => .obj [("plain", .str kind.name)]

end

/-- A value with everything inside of it, to the given depth. An object inside of itself is only named. -/
def snapshotWithin (world : World) : Nat → List Address → Value → Json
  | _, _, .null => .null
  | _, _, .bool value => .obj [("bool", .bool value)]
  | _, _, .int value => .obj [("int", .int value.toInt)]
  | _, _, .long value => .obj [("long", .str (toString value))]
  | _, _, .double value => .obj [("double", .str (Layout.doubleStyle.write value.toFloat))]
  | _, _, .char value => .obj [("char", .str value.toString)]
  | _, _, .str value => .obj [("str", .str value)]
  | 0, _, value => .obj [("cycle", .str (world.typeName value))]
  | depth + 1, around, .ref address =>
    match around.contains address, world.heap.get? address with
    | false, some object => objectJson world (snapshotWithin world depth (address :: around)) object
    | _, _ => .obj [("cycle", .str (world.typeName (.ref address)))]

/-- A value with everything inside of it. -/
def snapshot (world : World) (value : Value) : Json := snapshotWithin world snapshotDepth [] value

end JavaWeave.Interpreter
