import JavaWeave.Decimal.Binary64

/-! Doubles of a running program, by their bits. The bits tell apart the two zeros and also the two values that
are no number, which differ in sign: an operation passes on an operand that is no number, and gives the
negative one where it has no result. -/

namespace JavaWeave.Interpreter

/-- A double-precision number. -/
structure Double where
  bits : UInt64
  deriving DecidableEq, Repr, Inhabited

namespace Double

/-- The bit that holds the sign. -/
def signMask : UInt64 := 0x8000000000000000

/-- What is no number, with the sign given. -/
def notANumber (negative : Bool) : Double :=
  ⟨if negative then 0xFFF8000000000000 else 0x7FF8000000000000⟩

def toFloat (x : Double) : Float := Float.ofBits x.bits

def isNaN (x : Double) : Bool := x.toFloat.isNaN

/-- The outcome of an operation on numbers. -/
def ofFloat (x : Float) : Double := if x.isNaN then notANumber true else ⟨x.toBits⟩

/-- An operation on two operands, of which the first that is no number is passed on. -/
def combine (operation : Float → Float → Float) (a b : Double) : Double :=
  if a.isNaN then a else if b.isNaN then b else ofFloat (operation a.toFloat b.toFloat)

instance : Add Double := ⟨combine (· + ·)⟩
instance : Sub Double := ⟨combine (· - ·)⟩
instance : Mul Double := ⟨combine (· * ·)⟩
instance : Div Double := ⟨combine (· / ·)⟩
instance : Mod Double := ⟨combine Decimal.remainder⟩

/-- The sign is turned, also that of what is no number. -/
instance : Neg Double := ⟨fun x => ⟨x.bits ^^^ signMask⟩⟩

/-- The magnitude: the sign is dropped, also that of what is no number. -/
def abs (x : Double) : Double := ⟨x.bits &&& ~~~signMask⟩

/-- Equality of numbers: the zeros are equal, and what is no number equals nothing. -/
def same (a b : Double) : Bool := a.toFloat == b.toFloat

instance : LT Double := ⟨fun a b => a.toFloat < b.toFloat⟩
instance : LE Double := ⟨fun a b => a.toFloat ≤ b.toFloat⟩
instance : DecidableLT Double := fun a b => inferInstanceAs (Decidable (a.toFloat < b.toFloat))
instance : DecidableLE Double := fun a b => inferInstanceAs (Decidable (a.toFloat ≤ b.toFloat))

instance : OfNat Double n := ⟨ofFloat (OfNat.ofNat n)⟩

/-- Both halves of the bits in one word. -/
def hash (x : Double) : Int32 := (x.bits ^^^ (x.bits >>> 32)).toInt64.toInt32

/-- The double that a text spells. A sign counts also before the name of what is no number. -/
def parse? (text : String) : Option Double :=
  (Decimal.parse? text).map fun x =>
    if x.isNaN then notANumber (Decimal.splitSign text.toList).1 else ofFloat x

end Double

end JavaWeave.Interpreter
