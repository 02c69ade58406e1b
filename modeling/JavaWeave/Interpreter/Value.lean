import JavaWeave.Decimal.Style
import JavaWeave.Interpreter.Double
import JavaWeave.Syntax.Tree

namespace JavaWeave.Interpreter

open Syntax

/-- A class of the running program. -/
structure ClassId where
  index : Nat
  deriving DecidableEq, Repr, Inhabited

/-- The place of an object. -/
structure Address where
  index : Nat
  deriving DecidableEq, Repr, Inhabited

inductive Value where
  | null
  | bool (value : Bool)
  | int (value : Int32)
  | long (value : Int64)
  | double (value : Double)
  | char (value : Char)
  | str (value : String)
  | ref (address : Address)
  deriving Repr, Inhabited

/-- Names with what they stand for. A name is there once. -/
abbrev Bindings (α : Type) := List (String × α)

/-- Gives a name something else to stand for. -/
def Bindings.put (bindings : Bindings α) (name : String) (value : α) : Bindings α :=
  match bindings with
  | [] => [(name, value)]
  | (other, old) :: rest =>
    if other == name then (name, value) :: rest else (other, old) :: Bindings.put rest name value

def Bindings.has (bindings : Bindings α) (name : String) : Bool := (bindings.lookup name).isSome

namespace Value

def isNull : Value → Bool
  | .null => true
  | _ => false

def bool? : Value → Option Bool
  | .bool value => some value
  | _ => none

def str? : Value → Option String
  | .str value => some value
  | _ => none

def ref? : Value → Option Address
  | .ref address => some address
  | _ => none

/-- A whole number of at most 32 bits; a character counts as its code. -/
def int? : Value → Option Int32
  | .int value => some value
  | .char value => some (Int32.ofNat value.toNat)
  | _ => none

/-- A whole number. -/
def long? : Value → Option Int64
  | .long value => some value
  | value => value.int?.map Int32.toInt64

/-- A number. -/
def double? : Value → Option Double
  | .double value => some value
  | value => value.long?.map fun n => .ofFloat n.toFloat

/-- Identity of objects, and equality of everything else. Numbers are equal across widths. -/
def same : Value → Value → Bool
  | .ref a, .ref b => a == b
  | .null, .null => true
  | .bool a, .bool b => a == b
  | .str a, .str b => a == b
  | a@(.double _), b | a, b@(.double _) =>
    match a.double?, b.double? with
    | some x, some y => x.same y
    | _, _ => false
  | a, b =>
    match a.long?, b.long? with
    | some x, some y => x == y
    | _, _ => false

/-- What a variable of a type holds before it is assigned. -/
def zero (type : JavaType) : Value :=
  if type.dimensions > 0 then .null
  else match type.name with
    | "int" | "short" | "byte" => .int 0
    | "long" => .long 0
    | "double" | "float" => .double 0
    | "char" => .char (Char.ofNat 0)
    | "boolean" => .bool false
    | _ => .null

def ofLiteral : Literal → Value
  | .null => .null
  | .bool value => .bool value
  | .int value => .int value
  | .long value => .long value
  | .double value => .double (.ofFloat value)
  | .char value => .char value
  | .string value => .str value

/-- The class of objects that box a value, for a value that is no object. -/
def boxClass? : Value → Option String
  | .bool _ => some "Boolean"
  | .int _ => some "Integer"
  | .long _ => some "Long"
  | .double _ => some "Double"
  | .char _ => some "Character"
  | .str _ => some "String"
  | .null | .ref _ => none

end Value

/-- What makes two values the same key of a map or the same member of a list. -/
inductive Key where
  | null
  | bool (value : Bool)
  | whole (value : Int64)
  | double (value : Double)
  | char (value : Char)
  | str (value : String)
  | ref (address : Address)
  deriving DecidableEq, Repr

/-- The key of a value. Whole numbers of both widths have the same keys. -/
def Value.key : Value → Key
  | .null => .null
  | .bool value => .bool value
  | .int value => .whole value.toInt64
  | .long value => .whole value
  | .double value => .double value
  | .char value => .char value
  | .str value => .str value
  | .ref address => .ref address

/-- Doubles as a program prints them: without exponent, and with `.0` behind whole numbers below ten
millions. -/
def doubleText (value : Double) : String :=
  Decimal.Style.write
    { positional := none
      keepPoint := value.abs.toFloat < 1e7
      tie := .up
      notANumber := "NaN"
      infinity := "Infinity" }
    value.toFloat

end JavaWeave.Interpreter
