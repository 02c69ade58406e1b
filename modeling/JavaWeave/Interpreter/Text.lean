import JavaWeave.Interpreter.World
import JavaWeave.Text.Runs
import JavaWeave.Text.LetterCase
import JavaWeave.Text.Lowercase

/-! The methods of texts and of boxed values. Lengths and hash codes count the 16-bit units that a text has in UTF-16,
where characters above `0xFFFF` have two; positions count characters. -/

namespace JavaWeave.Text

/-- The units of a character. -/
def units (c : Char) : List Nat :=
  let code := c.toNat
  if code < 0x10000 then [code]
  else
    let offset := code - 0x10000
    [0xD800 + offset / 0x400, 0xDC00 + offset % 0x400]

/-- The units of a text. -/
def unitsOf (s : String) : List Nat := s.toList.flatMap units

end JavaWeave.Text

namespace JavaWeave.Interpreter

-- `%s` and `%d` are slots for texts, `%S` is one that writes capitals, `%n` ends a line and `%%` is a percent sign. Any
-- other sign behind a percent sign stays with it.

/-- A text in capitals. -/
def capitals (text : List Char) : List Char := text.flatMap Text.upper

/-- Fills the slots of a format in order. The error is the sign of a slot that is left without text. -/
def fillSlots : List Char → List String → Except Char (List Char)
  | [], _ => .ok []
  | '%' :: sign :: rest, texts =>
    match sign, texts with
    | '%', texts => ('%' :: ·) <$> fillSlots rest texts
    | 'n', texts => ('\n' :: ·) <$> fillSlots rest texts
    | 's', text :: texts | 'd', text :: texts => (text.toList ++ ·) <$> fillSlots rest texts
    | 'S', text :: texts => (capitals text.toList ++ ·) <$> fillSlots rest texts
    | 's', [] | 'd', [] | 'S', [] => .error sign
    | sign, texts => (['%', sign] ++ ·) <$> fillSlots rest texts
  | c :: rest, texts => (c :: ·) <$> fillSlots rest texts

/-- The hash code of a text. -/
def textHash (text : String) : Int32 :=
  (Text.unitsOf text).foldl (fun hash unit => hash * 31 + Int32.ofNat unit) 0

/-- A call that nothing answers. -/
def unknownMethod (owner name : String) (arity : Nat) : Run α := fail (.unknownMethod owner name arity)

/-- A position in something of the given length. -/
def position (index : Int32) (length : Nat) : Run Nat :=
  if 0 ≤ index.toInt && index.toInt < length then pure index.toInt.toNat
  else raiseWith "IndexOutOfBoundsException"
    ("Index " ++ toString index ++ " out of bounds for length " ++ toString length)

/-- A stretch of a text. -/
def substring (text : String) (start stop : Int32) : Run Value :=
  let characters := text.toList
  if start < 0 || stop < start || stop.toInt > characters.length then
    raiseWith "IndexOutOfBoundsException" ("begin " ++ toString start ++ ", end " ++ toString stop)
  else
    pure (.str (String.ofList ((characters.take stop.toInt.toNat).drop start.toInt.toNat)))

/-- The sign of a comparison. -/
def orderSign (less greater : Bool) : Value := .int (if less then -1 else if greater then 1 else 0)

/-- A method of a text that takes another text. -/
def textWithText? (text : String) : String → Option (String → Value)
  | "contains" => some fun other => .bool (Text.occurs other text)
  | "startsWith" => some fun other => .bool (Text.startsWith text other)
  | "endsWith" => some fun other => .bool (Text.endsWith text other)
  | "indexOf" => some fun other =>
    .int (((Text.indexOf other.toList text.toList).map Int32.ofNat).getD (-1))
  | "concat" => some fun other => .str (text ++ other)
  | "compareTo" => some fun other => orderSign (text < other) (other < text)
  | _ => none

/-- Calls a method of a text. -/
def callText (text name : String) (arguments : List Value) : Run Value :=
  match name, arguments with
  | "length", [] => pure (.int (Int32.ofNat (Text.unitsOf text).length))
  | "isEmpty", [] => pure (.bool text.isEmpty)
  | "toString", [] | "intern", [] => pure (.str text)
  | "trim", [] => pure (.str (Text.strip text))
  | "hashCode", [] => pure (.int (textHash text))
  | "toUpperCase", [] => pure (.str (String.ofList (capitals text.toList)))
  | "toLowerCase", [] => pure (.str (Text.lowercase text))
  | "equals", [other] => pure (.bool (other.str? == some text))
  | "equalsIgnoreCase", [other] =>
    pure (.bool (other.str?.any fun other => Text.lowercase other == Text.lowercase text))
  | "charAt", [index] => do
    let index ← position (← needed "int" index Value.int?) text.toList.length
    return .char ((text.toList[index]?).getD (Char.ofNat 0))
  | "substring", [start] => do
    substring text (← needed "int" start Value.int?) (Int32.ofNat text.toList.length)
  | "substring", [start, stop] => do
    substring text (← needed "int" start Value.int?) (← needed "int" stop Value.int?)
  | name, [other] =>
    match textWithText? text name with
    | some answer => return answer (← needed "String" other Value.str?)
    | none => unknownMethod "String" name 1
  | name, arguments => unknownMethod "String" name arguments.length

/-- The hash code of a value that is no object. -/
def boxHash : Value → Int32
  | .bool value => if value then 1231 else 1237
  | .long value => (value ^^^ (value >>> 32)).toInt32
  | .double value => value.hash
  | value => value.int?.getD 0

/-- Calls a method of a boxed value, its text apart. -/
def callBoxed (value : Value) (name : String) (arguments : List Value) : Run Value := do
  let heap ← heap
  match name, arguments with
  | "intValue", [] => return .int ((value.long?.map Int64.toInt32).getD 0)
  | "longValue", [] => return .long (value.long?.getD 0)
  | "doubleValue", [] => return .double (value.double?.getD 0)
  | "booleanValue", [] => return .bool (value.bool?.getD false)
  | "equals", [other] => return .bool (heap.kind value == heap.kind other && value.same other)
  | "hashCode", [] => return .int (boxHash value)
  | "compareTo", [other] =>
    let a := value.double?.getD 0
    let b := other.double?.getD 0
    return orderSign (a < b) (a > b)
  | name, arguments => unknownMethod (heap.kind value) name arguments.length

end JavaWeave.Interpreter
