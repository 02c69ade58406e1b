import JavaWeave.Decimal.Binary64

namespace JavaWeave

/-- The number `digits * 10 ^ exponent`. -/
structure Decimal where
  digits : Nat
  exponent : Int
  deriving DecidableEq, Repr

namespace Decimal

/-- What to do when two shortest decimals are equally near. -/
inductive Tie where
  | up
  | even
  deriving DecidableEq, Repr

/-- The same number without trailing zero digits; the fuel bounds how many are removed. -/
def trim : Nat → Decimal → Decimal
  | 0, d => d
  | fuel + 1, d =>
    if d.digits ≠ 0 ∧ d.digits % 10 = 0 then trim fuel ⟨d.digits / 10, d.exponent + 1⟩ else d

/-- The multiple of `10 ^ exponent` next to `x` that lies in the interval of reals rounding to `x`. With
two, the nearer one. -/
def onGrid (tie : Tie) (x : Binary64) (exponent : Int) : Option Nat :=
  -- Everything is multiplied by `four * ten`, which makes it an integer.
  let down := (2 - x.exponent).toNat
  let value (quarters : Nat) : Nat :=
    quarters * Nat.pow 2 (x.exponent - 2).toNat * Nat.pow 10 (-exponent).toNat
  let unit := Nat.pow 2 down * Nat.pow 10 exponent.toNat
  let centre := value (4 * x.mantissa)
  let gap := if x.mantissa = Nat.pow 2 52 ∧ x.exponent > -1074 then 1 else 2
  let low := value (4 * x.mantissa - gap)
  let high := value (4 * x.mantissa + 2)
  let inside (point : Nat) : Bool :=
    if x.mantissa % 2 = 0 then low ≤ point && point ≤ high else low < point && point < high
  let below := centre / unit
  let above := below + 1
  match inside (below * unit) && below ≠ 0, inside (above * unit) with
  | true, true =>
    let toBelow := centre - below * unit
    let toAbove := above * unit - centre
    if toBelow < toAbove then some below
    else if toAbove < toBelow then some above
    else match tie with
      | .up => some above
      | .even => if below % 2 = 0 then some below else some above
  | true, false => some below
  | false, true => some above
  | false, false => none

/-- The number of decimal digits before the point, for a positive number; at most zero below one. -/
def lead (x : Binary64) : Int :=
  -- A first guess from the binary exponent, which is never too large, and one correction.
  let log2 : Int := (x.mantissa.log2 : Int) + x.exponent
  let guess := (log2 * 30103) / 100000
  let reaches (exponent : Int) : Bool :=
    Nat.pow 10 exponent.toNat * Nat.pow 2 (-x.exponent).toNat
      ≤ x.mantissa * Nat.pow 2 x.exponent.toNat * Nat.pow 10 (-exponent).toNat
  if reaches (guess + 1) then guess + 2 else if reaches guess then guess + 1 else guess

/-- The shortest decimal of a positive finite double: the coarsest grid with a hit. Seventeen digits
always suffice. -/
def shortest (tie : Tie) (x : Float) : Decimal :=
  let b := Binary64.ofFloat x
  if b.mantissa = 0 then ⟨0, 0⟩
  else
    let first := lead b
    let hit := (List.range 18).findSome? fun (count : Nat) =>
      let exponent := first - (count : Int)
      (onGrid tie b exponent).map fun digits => (⟨digits, exponent⟩ : Decimal)
    trim 20 (hit.getD ⟨0, 0⟩)

/-- The decisions of one way to write doubles. -/
structure Style where
  /-- The least and greatest exponent of the leading digit that is written without an exponent;
  `none` writes every number that way. -/
  positional : Option (Int × Int)
  /-- Whether a number without fraction ends in `.0`. -/
  keepPoint : Bool
  /-- What stands before an exponent that is not negative. -/
  raisedSign : String := ""
  tie : Tie
  notANumber : String
  infinity : String
  deriving Repr

private def zeros (n : Nat) : List Char := List.replicate n '0'

/-- The digits placed around a decimal point. -/
def positionalText (keepPoint : Bool) (d : Decimal) : String :=
  let digits := (toString d.digits).toList
  let leading := d.exponent + digits.length
  let text :=
    if d.exponent ≥ 0 then
      digits ++ zeros d.exponent.toNat ++ (if keepPoint then ['.', '0'] else [])
    else if leading > 0 then
      digits.take leading.toNat ++ ['.'] ++ digits.drop leading.toNat
    else ['0', '.'] ++ zeros (-leading).toNat ++ digits
  String.ofList text

/-- One digit before the point and a power of ten behind. -/
def exponentText (raisedSign : String) (d : Decimal) : String :=
  let digits := (toString d.digits).toList
  let leading := d.exponent + digits.length - 1
  let fraction := digits.drop 1
  String.ofList (digits.take 1 ++ (if fraction.isEmpty then [] else '.' :: fraction))
    ++ "e" ++ (if leading ≥ 0 then raisedSign else "") ++ toString leading

/-- The text of a double. -/
def Style.write (style : Style) (x : Float) : String :=
  if x.isNaN then style.notANumber
  else
    let sign := if signBit x then "-" else ""
    if x.isInf then sign ++ style.infinity
    else
      let d := shortest style.tie x
      let leading := d.exponent + (toString d.digits).length - 1
      let positional := match style.positional with
        | none => true
        | some (least, greatest) => d.digits == 0 || (least ≤ leading && leading ≤ greatest)
      sign ++ (if positional then positionalText style.keepPoint d else exponentText style.raisedSign d)

end Decimal

end JavaWeave
