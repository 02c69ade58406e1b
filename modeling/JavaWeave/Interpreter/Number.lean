import JavaWeave.Interpreter.Value
import JavaWeave.Syntax.Operator

namespace JavaWeave.Interpreter

open Syntax

/-- Why an operator has no result. -/
inductive Misuse where
  | operands
  | divisionByZero
  deriving DecidableEq, Repr

/-- Two numbers of one kind. -/
inductive Promoted where
  | int (left right : Int32)
  | long (left right : Int64)
  | double (left right : Double)

def promote : Value → Value → Option Promoted
  | left@(.double _), right | left, right@(.double _) => do
    return .double (← left.double?) (← right.double?)
  | left@(.long _), right | left, right@(.long _) => do return .long (← left.long?) (← right.long?)
  | left, right => do return .int (← left.int?) (← right.int?)

/-- The result of an operator on whole numbers; a comparison has none. -/
def wholeResult {α : Type} [Add α] [Sub α] [Mul α] [Div α] [Mod α] [AndOp α] [OrOp α] [XorOp α]
    [OfNat α 0] [DecidableEq α] (op : BinaryOp) (a b : α) : Except Misuse (Option α) :=
  match op with
  | .add => .ok (some (a + b))
  | .sub => .ok (some (a - b))
  | .mul => .ok (some (a * b))
  | .div => if b = 0 then .error .divisionByZero else .ok (some (a / b))
  | .rem => if b = 0 then .error .divisionByZero else .ok (some (a % b))
  | .bitAnd => .ok (some (a &&& b))
  | .bitOr => .ok (some (a ||| b))
  | .bitXor => .ok (some (a ^^^ b))
  | _ => .ok none

/-- Compares two numbers. Every operator that is no other comparison counts as "at least". -/
def compares {α : Type} [LT α] [LE α] [DecidableLT α] [DecidableLE α] (op : BinaryOp) (a b : α) : Bool :=
  match op with
  | .lt => a < b
  | .le => a ≤ b
  | .gt => a > b
  | _ => a ≥ b

def doubleResult (op : BinaryOp) (a b : Double) : Value :=
  match op with
  | .add => .double (a + b)
  | .sub => .double (a - b)
  | .mul => .double (a * b)
  | .div => .double (a / b)
  | .rem => .double (a % b)
  | _ => .bool (compares op a b)

def shiftLong (op : BinaryOp) (value distance : Int64) : Int64 :=
  let distance := distance &&& 63
  match op with
  | .shl => value <<< distance
  | .shr => value >>> distance
  | _ => (value.toUInt64 >>> distance.toUInt64).toInt64

def shiftInt (op : BinaryOp) (value : Int32) (distance : Int64) : Int32 :=
  let distance := (distance &&& 31).toInt32
  match op with
  | .shl => value <<< distance
  | .shr => value >>> distance
  | _ => (value.toUInt32 >>> distance.toUInt32).toInt32

/-- A shift has the width of its left operand, and its distance is cut to that width. -/
def shift (op : BinaryOp) (left right : Value) : Option Value := do
  let distance ← right.long?
  match left with
  | .long value => return .long (shiftLong op value distance)
  | left => return .int (shiftInt op (← left.int?) distance)

def boolResult (op : BinaryOp) (a b : Bool) : Option Bool :=
  match op with
  | .and | .bitAnd => some (a && b)
  | .or | .bitOr => some (a || b)
  | .bitXor => some (a != b)
  | _ => none

def orMisuse : Option Value → Except Misuse Value
  | some value => .ok value
  | none => .error .operands

def numberResult (op : BinaryOp) : Promoted → Except Misuse Value
  | .int a b => return ((← wholeResult op a b).map Value.int).getD (.bool (compares op a b))
  | .long a b => return ((← wholeResult op a b).map Value.long).getD (.bool (compares op a b))
  | .double a b => .ok (doubleResult op a b)

/-- The result of an operator on two values, texts apart. -/
def binaryResult (op : BinaryOp) (left right : Value) : Except Misuse Value :=
  match op, left, right with
  | .eq, _, _ => .ok (.bool (left.same right))
  | .ne, _, _ => .ok (.bool (!left.same right))
  | op, .bool a, .bool b => orMisuse ((boolResult op a b).map .bool)
  | .and, _, _ | .or, _, _ => .error .operands
  | .shl, _, _ | .shr, _, _ | .ushr, _, _ => orMisuse (shift op left right)
  | op, left, right =>
    match promote left right with
    | some promoted => numberResult op promoted
    | none => .error .operands

/-- The result of an operator on one value that does not change a variable. -/
def unaryResult : UnaryOp → Value → Option Value
  | .not, .bool value => some (.bool !value)
  | .plus, .char value => some (.int (Int32.ofNat value.toNat))
  | .plus, value => value.double?.map fun _ => value
  | .neg, .int value => some (.int (-value))
  | .neg, .char value => some (.int (-(Int32.ofNat value.toNat)))
  | .neg, .long value => some (.long (-value))
  | .neg, .double value => some (.double (-value))
  | .bitNot, .int value => some (.int (~~~value))
  | .bitNot, .long value => some (.long (~~~value))
  | _, _ => none

/-- The next or previous number of the same kind. Outside of the characters lies the first one. -/
def stepped (up : Bool) : Value → Option Value
  | .int value => some (.int (if up then value + 1 else value - 1))
  | .long value => some (.long (if up then value + 1 else value - 1))
  | .double value => some (.double (if up then value + 1 else value - 1))
  | .char value => some (.char (Char.ofNat (if up then value.toNat + 1 else value.toNat - 1)))
  | _ => none

/-- A value as a primitive type holds it, if it can be converted. -/
def convert (target : String) (value : Value) : Option Value :=
  match target, value with
  | "int", .double value => some (.int value.toFloat.toInt32)
  | "int", value => value.long?.map fun n => .int n.toInt32
  | "long", .double value => some (.long value.toFloat.toInt64)
  | "long", value => value.long?.map .long
  | "short", value => value.long?.map fun n => .int n.toInt16.toInt32
  | "byte", value => value.long?.map fun n => .int n.toInt8.toInt32
  | "double", value | "float", value => value.double?.map .double
  | "char", value => value.long?.map fun n => .char (Char.ofNat (n.toUInt64.toNat % Nat.pow 2 16))
  | "boolean", .bool value => some (.bool value)
  | _, _ => none

/-- A value as a variable of a declared type holds it. -/
def coerce (type : JavaType) (value : Value) : Value :=
  if type.isPrimitive && !type.isBoolean then (convert type.name value).getD value else value

/-- The kind of number that a variable keeps by the value it holds. A character is kept only when an operator
is part of the assignment. -/
def keptKind (compound : Bool) : Value → Option String
  | .long _ => some "long"
  | .double _ => some "double"
  | .int _ => some "int"
  | .char _ => if compound then some "char" else none
  | _ => none

/-- Whether a value is of a narrower kind than the one kept. -/
def isNarrower : String → Value → Bool
  | "long", .int _ | "long", .char _ => true
  | "double", .int _ | "double", .char _ | "double", .long _ => true
  | "int", .char _ => true
  | _, _ => false

/-- A value as it is assigned to a variable that holds another: a narrower number is widened, and the result of
an operator is brought back to the kind of the variable. -/
def conform (compound : Bool) (current value : Value) : Value :=
  match keptKind compound current with
  | none => value
  | some kind =>
    if isNarrower kind value || (compound && value.double?.isSome) then (convert kind value).getD value
    else value

end JavaWeave.Interpreter
