/-! Double-precision numbers as an integer times a power of two, and the rounding of an exact quotient
back to one; the double that a text spells, and the remainder of a division that rounds its quotient toward zero.
Everything here is `Nat` arithmetic on the bits, so nothing is rounded twice. -/

namespace JavaWeave.Decimal

/-- A nonnegative finite double: `mantissa * 2 ^ exponent`. -/
structure Binary64 where
  mantissa : Nat
  exponent : Int
  deriving DecidableEq, Repr

/-- The sign bit. -/
def signBit (x : Float) : Bool := x.toBits.toNat ≥ Nat.pow 2 63

/-- The magnitude of a finite double. -/
def Binary64.ofFloat (x : Float) : Binary64 :=
  let bits : Nat := x.toBits.toNat % Nat.pow 2 63
  let field : Nat := bits / Nat.pow 2 52
  let fraction : Nat := bits % Nat.pow 2 52
  if field = 0 then ⟨fraction, -1074⟩ else ⟨Nat.pow 2 52 + fraction, (field : Int) - 1075⟩

/-- The quotient rounded to the nearest integer, a half to the even neighbour. -/
def roundHalfEven (numerator denominator : Nat) : Nat :=
  let quotient := numerator / denominator
  let twice := 2 * (numerator % denominator)
  if twice > denominator || (twice == denominator && quotient % 2 == 1) then quotient + 1 else quotient

/-- The bits of the double nearest to a positive quotient, a half to the even mantissa. A quotient too
large for any finite double gives the bits of infinity. -/
def nearestBits (numerator denominator : Nat) : Nat :=
  -- `2 ^ (lead - 1) < numerator / denominator < 2 ^ (lead + 1)`
  let lead : Int := (numerator.log2 : Int) - (denominator.log2 : Int)
  let scaled (exponent : Int) : Nat :=
    roundHalfEven (numerator * Nat.pow 2 (-exponent).toNat) (denominator * Nat.pow 2 exponent.toNat)
  let small : Int := max (lead - 53) (-1074)
  let floorAt (exponent : Int) : Nat :=
    (numerator * Nat.pow 2 (-exponent).toNat) / (denominator * Nat.pow 2 exponent.toNat)
  -- The least exponent at which the quotient has at most 53 bits.
  let exponent := if floorAt small < Nat.pow 2 53 then small else small + 1
  let mantissa := scaled exponent
  let (mantissa, exponent) :=
    if mantissa = Nat.pow 2 53 then (Nat.pow 2 52, exponent + 1) else (mantissa, exponent)
  if mantissa < Nat.pow 2 52 then mantissa
  else
    let field := (exponent + 1075).toNat
    if field ≥ 2047 then 2047 * Nat.pow 2 52 else field * Nat.pow 2 52 + (mantissa - Nat.pow 2 52)

/-- The double nearest to `significand * 10 ^ exponent`. Exponents far outside the range of doubles are
cut first, since they can only give zero or infinity. -/
def nearest (negative : Bool) (significand : Nat) (exponent : Int) : Float :=
  let sign := if negative then Nat.pow 2 63 else 0
  let bits :=
    if significand = 0 then 0
    else if exponent ≥ 0 then
      if exponent > 400 then 2047 * Nat.pow 2 52 else nearestBits (significand * Nat.pow 10 exponent.toNat) 1
    else if exponent < -400 - (significand.log2 : Int) then 0
    else nearestBits significand (Nat.pow 10 (-exponent).toNat)
  Float.ofBits (UInt64.ofNat (sign + bits))

/-- The number that a run of digits spells. -/
def digitsValue (digits : List Char) : Nat :=
  digits.foldl (fun value digit => value * 10 + (digit.toNat - '0'.toNat)) 0

/-- A sign, and what follows it. -/
def splitSign : List Char → Bool × List Char
  | '-' :: rest => (true, rest)
  | '+' :: rest => (false, rest)
  | text => (false, text)

/-- An exponent with its mark, or nothing. -/
def exponent? : List Char → Option Int
  | [] => some 0
  | mark :: rest =>
    let (negative, digits) := splitSign rest
    if (mark == 'e' || mark == 'E') && !digits.isEmpty && digits.all Char.isDigit then
      let value : Int := digitsValue digits
      some (if negative then -value else value)
    else none

/-- Digits around an optional point, then an optional exponent. -/
def unsigned? (negative : Bool) (text : List Char) : Option Float := do
  let whole := text.takeWhile Char.isDigit
  let rest := text.dropWhile Char.isDigit
  let (fraction, rest) := match rest with
    | '.' :: rest => (rest.takeWhile Char.isDigit, rest.dropWhile Char.isDigit)
    | rest => ([], rest)
  guard (!(whole.isEmpty && fraction.isEmpty))
  let exponent ← exponent? rest
  return nearest negative (digitsValue (whole ++ fraction)) (exponent - fraction.length)

/-- The double that a text spells: a number, or the name of an infinity or of the value that is no number. -/
def parse? (text : String) : Option Float :=
  let (negative, rest) := splitSign text.toList
  match String.ofList (rest.map Char.toLower) with
  | "inf" | "infinity" => some (if negative then -1.0 / 0.0 else 1.0 / 0.0)
  | "nan" => some (0.0 / 0.0)
  | _ => unsigned? negative rest

/-- The magnitudes as multiples of one power of two, and its exponent. -/
def aligned (a b : Binary64) : Nat × Nat × Int :=
  let exponent := min a.exponent b.exponent
  let scaled (x : Binary64) : Nat := x.mantissa * Nat.pow 2 (x.exponent - exponent).toNat
  (scaled a, scaled b, exponent)

/-- The bits of `count * 2 ^ exponent`. -/
def scaledBits (count : Nat) (exponent : Int) : Nat :=
  if count = 0 then 0 else nearestBits (count * Nat.pow 2 exponent.toNat) (Nat.pow 2 (-exponent).toNat)

/-- What is left of `a` when a whole number of `b` is taken away. It has the sign of `a`; nothing is left of
an infinite number, and nothing can be divided by zero. -/
def remainder (a b : Float) : Float :=
  if a.isNaN || b.isNaN || a.isInf || b == 0 then 0.0 / 0.0
  else if b.isInf then a
  else
    let (dividend, divisor, exponent) := aligned (.ofFloat a) (.ofFloat b)
    let sign := if signBit a then Nat.pow 2 63 else 0
    Float.ofBits (UInt64.ofNat (sign + scaledBits (dividend % divisor) exponent))

end JavaWeave.Decimal
