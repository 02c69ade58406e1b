import JavaWeave.Decimal.Binary64
import JavaWeave.Json.Value

/-! Reading JSON text. A reader takes the characters left and gives a value and the characters after it, or
nothing where the text is not JSON. Text that is JSON but stands for no value is read as `unreadable`.

Numbers without point and exponent that fit 64 bits are whole numbers. Every other number becomes a double:
its first digits are read as a 64-bit integer, which is then scaled by one power of ten. -/

namespace JavaWeave.Json

/-- The characters after leading white space. -/
def skipBlank (input : List Char) : List Char :=
  input.dropWhile fun c => c == ' ' || c == '\n' || c == '\t' || c == '\r'

/-- The value of a hexadecimal digit. -/
def hexValue? (c : Char) : Option Nat :=
  if '0' ≤ c ∧ c ≤ '9' then some (c.toNat - '0'.toNat)
  else if 'a' ≤ c ∧ c ≤ 'f' then some (c.toNat - 'a'.toNat + 10)
  else if 'A' ≤ c ∧ c ≤ 'F' then some (c.toNat - 'A'.toNat + 10)
  else none

/-- The value of four hexadecimal digits. -/
def hex4? (a b c d : Char) : Option Nat := do
  return (((← hexValue? a) * 16 + (← hexValue? b)) * 16 + (← hexValue? c)) * 16 + (← hexValue? d)

/-- The character behind a one-letter escape. -/
def plainEscape? : Char → Option Char
  | '"' => some '"'
  | '\\' => some '\\'
  | '/' => some '/'
  | 'b' => some (Char.ofNat 8)
  | 'f' => some (Char.ofNat 12)
  | 'n' => some '\n'
  | 'r' => some '\r'
  | 't' => some '\t'
  | _ => none

/-- What the part of a string that was read spells. A high surrogate and the low one that follows it at once
spell one character; a surrogate that stands alone leaves the whole string without a spelling. -/
structure Spelling where
  /-- The characters, the last one first. -/
  reversed : Option (List Char) := some []
  /-- A high surrogate that waits for a low one. -/
  high : Option Nat := none

namespace Spelling

/-- The characters, if no surrogate is left waiting. -/
def settled (spelling : Spelling) : Option (List Char) :=
  if spelling.high.isSome then none else spelling.reversed

def add (spelling : Spelling) (c : Char) : Spelling :=
  { reversed := spelling.settled.map (c :: ·) }

/-- Adds a code that is given by its digits. -/
def addCode (spelling : Spelling) (code : Nat) : Spelling :=
  if 0xDC00 ≤ code && code ≤ 0xDFFF then
    let joined (high : Nat) : Char := Char.ofNat ((high - 0xD800) * 0x400 + (code - 0xDC00) + 0x10000)
    { reversed := spelling.high.bind fun high => spelling.reversed.map (joined high :: ·) }
  else if 0xD800 ≤ code && code ≤ 0xDBFF then { reversed := spelling.settled, high := some code }
  else spelling.add (Char.ofNat code)

def text? (spelling : Spelling) : Option String :=
  spelling.settled.map fun reversed => String.ofList reversed.reverse

end Spelling

/-- Reads the rest of a string after its opening quote, and gives what it spells. -/
def readString (spelling : Spelling) : List Char → Option (Option String × List Char)
  | [] => none
  | '"' :: rest => some (spelling.text?, rest)
  | '\\' :: 'u' :: a :: b :: c :: d :: rest =>
    match hex4? a b c d with
    | some code => readString (spelling.addCode code) rest
    | none => none
  | '\\' :: c :: rest =>
    match plainEscape? c with
    | some plain => readString (spelling.add plain) rest
    | none => none
  | c :: rest => if c.toNat < 32 then none else readString (spelling.add c) rest

/-- The value of a decimal digit. -/
def digit? (c : Char) : Option Nat := if c.isDigit then some (c.toNat - '0'.toNat) else none

/-- The largest 64-bit natural number. -/
def wordMax : Nat := Nat.pow 2 64 - 1

/-- Digits read into a 64-bit integer. `stopped` tells whether a digit was met that no longer fits; that
digit and those behind it are still in the rest. -/
structure Digits where
  value : Nat
  count : Nat := 0
  stopped : Bool := false
  rest : List Char

def readDigits (value count : Nat) : List Char → Digits
  | [] => { value, count, rest := [] }
  | c :: rest =>
    match digit? c with
    | none => { value, count, rest := c :: rest }
    | some d =>
      if value * 10 + d > wordMax then { value, count, stopped := true, rest := c :: rest }
      else readDigits (value * 10 + d) (count + 1) rest

/-- Scales a 64-bit integer by a power of ten, in steps that stay inside the doubles; the fuel bounds the
steps. Overflow is a failure. -/
def scale : Nat → Float → Int → Option Float
  | 0, _, _ => none
  | fuel + 1, x, exponent =>
    if exponent.natAbs ≤ 308 then
      let power := Decimal.nearest false 1 exponent.natAbs
      if exponent ≥ 0 then
        let scaled := x * power
        if scaled.isInf then none else some scaled
      else some (x / power)
    else if x == 0 then some x
    else if exponent ≥ 0 then none
    else scale fuel (x / Decimal.nearest false 1 308) (exponent + 308)

/-- The double of a 64-bit integer and a power of ten. -/
def assemble (negative : Bool) (significand : Nat) (exponent : Int) : Json :=
  match scale 64 (Decimal.nearest false significand 0) exponent with
  | some x => .float (if negative then -x else x)
  | none => .unreadable

/-- The largest exponent that is read digit by digit. -/
def exponentMax : Nat := Nat.pow 2 31 - 1

/-- Brings an exponent into the range of 32-bit integers. -/
def clampExponent (n : Int) : Int := max (-2147483648) (min 2147483647 n)

/-- Reads an exponent after its mark and finishes the number. -/
def readExponent (negative : Bool) (significand : Nat) (exponent : Int) (input : List Char) :
    Option (Json × List Char) :=
  let (raised, input) := match input with
    | '+' :: rest => (true, rest)
    | '-' :: rest => (false, rest)
    | _ => (true, input)
  let digits := input.takeWhile Char.isDigit
  let rest := input.dropWhile Char.isDigit
  if digits.isEmpty then none
  else
    let power := digits.foldl (fun n c => n * 10 + (c.toNat - '0'.toNat)) 0
    if power > exponentMax then
      if significand ≠ 0 ∧ raised then some (.unreadable, rest)
      else some (.float (if negative then -0.0 else 0.0), rest)
    else
      let total := clampExponent (if raised then exponent + power else exponent - power)
      some (assemble negative significand total, rest)

/-- Finishes a number after its digits: an exponent may follow. -/
def finishNumber (negative : Bool) (significand : Nat) (exponent : Int) (input : List Char) :
    Option (Json × List Char) :=
  match input with
  | 'e' :: rest | 'E' :: rest => readExponent negative significand exponent rest
  | _ => some (assemble negative significand exponent, input)

/-- Reads the digits after a point. -/
def readFraction (negative : Bool) (significand : Nat) (exponent : Int) (input : List Char) :
    Option (Json × List Char) :=
  let digits := readDigits significand 0 input
  let exponent := exponent - digits.count
  if digits.stopped then
    finishNumber negative digits.value exponent (digits.rest.dropWhile Char.isDigit)
  else if digits.count = 0 then none
  else finishNumber negative digits.value exponent digits.rest

/-- Reads a number after its sign. -/
def readNumber (negative : Bool) (input : List Char) : Option (Json × List Char) :=
  let whole : Option Digits := match input with
    | '0' :: rest =>
      match rest with
      | c :: _ => if c.isDigit then none else some { value := 0, rest }
      | [] => some { value := 0, rest }
    | c :: _ => if c.isDigit then some (readDigits 0 0 input) else none
    | [] => none
  whole.bind fun digits =>
    let dropped := if digits.stopped then digits.rest.takeWhile Char.isDigit else []
    let rest := if digits.stopped then digits.rest.dropWhile Char.isDigit else digits.rest
    let exponent : Int := dropped.length
    match rest with
    | '.' :: rest => readFraction negative digits.value exponent rest
    | 'e' :: rest | 'E' :: rest => readExponent negative digits.value exponent rest
    | _ =>
      if digits.stopped then finishNumber negative digits.value exponent rest
      else if !negative then some (.int digits.value, rest)
      else if digits.value = 0 ∨ digits.value > Nat.pow 2 63 then
        some (.float (-(Decimal.nearest false digits.value 0)), rest)
      else some (.int (-(digits.value : Int)), rest)

/-- A collection, if it may be open. `depth` is how many collections may still open, and one more. -/
def opened (depth : Nat) (collection : Json) : Json :=
  if depth ≤ 1 then .unreadable else collection

/-- An object of the members read; every key has to spell something. -/
def object (members : List (Option String × Json)) : Json :=
  match members.mapM fun (key, value) => key.map (·, value) with
  | some members => .obj members
  | none => .unreadable

mutual

/-- Reads one value. Every call takes one unit of fuel; `depth` is how many collections may still open, and one
more. -/
def readValue : Nat → Nat → List Char → Option (Json × List Char)
  | 0, _, _ => none
  | fuel + 1, depth, input =>
    match skipBlank input with
    | 'n' :: 'u' :: 'l' :: 'l' :: rest => some (.null, rest)
    | 't' :: 'r' :: 'u' :: 'e' :: rest => some (.bool true, rest)
    | 'f' :: 'a' :: 'l' :: 's' :: 'e' :: rest => some (.bool false, rest)
    | '"' :: rest =>
      (readString {} rest).map fun (spelled, rest) => (spelled.elim .unreadable .str, rest)
    | '-' :: rest => readNumber true rest
    | '[' :: rest =>
      match skipBlank rest with
      | ']' :: rest => some (opened depth (.arr []), rest)
      | rest => (readItems fuel (depth - 1) rest).map fun (items, rest) => (opened depth (.arr items), rest)
    | '\x7b' :: rest =>
      match skipBlank rest with
      | '\x7d' :: rest => some (opened depth (.obj []), rest)
      | rest =>
        (readMembers fuel (depth - 1) rest).map fun (members, rest) => (opened depth (object members), rest)
    | rest => readNumber false rest

/-- Reads the items of an array up to its closing bracket. -/
def readItems : Nat → Nat → List Char → Option (List Json × List Char)
  | 0, _, _ => none
  | fuel + 1, depth, input =>
    match readValue fuel depth input with
    | none => none
    | some (item, rest) =>
      match skipBlank rest with
      | ']' :: rest => some ([item], rest)
      | ',' :: rest => (readItems fuel depth rest).map fun (items, rest) => (item :: items, rest)
      | _ => none

/-- Reads the members of an object up to its closing brace. -/
def readMembers : Nat → Nat → List Char → Option (List (Option String × Json) × List Char)
  | 0, _, _ => none
  | fuel + 1, depth, input =>
    match skipBlank input with
    | '"' :: rest =>
      match readString {} rest with
      | none => none
      | some (key, rest) =>
        match skipBlank rest with
        | ':' :: rest =>
          match readValue fuel depth rest with
          | none => none
          | some (value, rest) =>
            match skipBlank rest with
            | '\x7d' :: rest => some ([(key, value)], rest)
            | ',' :: rest =>
              (readMembers fuel depth rest).map fun (members, rest) => ((key, value) :: members, rest)
            | _ => none
        | _ => none
    | _ => none

end

/-- How many collections may be open at once, and one more. -/
def depthLimit : Nat := 128

/-- The value of a whole text, some parts of which may be unreadable. -/
def scan? (text : String) : Option Json :=
  let input := text.toList
  match readValue (2 * input.length + 2) depthLimit input with
  | some (json, rest) => if (skipBlank rest).isEmpty then some json else none
  | none => none

/-- The value of a whole text all of which can be read. -/
def parse? (text : String) : Option Json := (scan? text).filter isReadable

end JavaWeave.Json
