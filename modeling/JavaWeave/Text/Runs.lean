/-! Finite sets of Unicode scalar values, written as a list of evenly spaced runs. The tables of letter
case, identifiers and white space are values of this type; that of white space is here, with texts stripped of it at
both ends. -/

namespace JavaWeave.Text

/-- The scalar values `first, first + step, …, last`. -/
structure Run where
  first : Nat
  last : Nat
  step : Nat := 1
  deriving DecidableEq, Repr

/-- Whether a code point is one of the run's values. -/
def Run.has (run : Run) (code : Nat) : Bool :=
  run.first ≤ code && code ≤ run.last && (code - run.first) % run.step == 0

/-- Whether some run of a table holds the character. -/
def inRuns (table : List Run) (c : Char) : Bool :=
  table.any (·.has c.toNat)

/-- A run whose members all move by the same distance under a mapping. -/
structure Shift where
  run : Run
  distance : Int
  deriving DecidableEq, Repr

/-- Where a table of shifts sends a character; a character outside every run stays. -/
def shifted (table : List Shift) (c : Char) : Char :=
  match table.find? (·.run.has c.toNat) with
  | some shift => Char.ofNat (Int.toNat ((c.toNat : Int) + shift.distance))
  | none => c

/-- The characters with the property `White_Space`. -/
def blanks : List Run :=
  [⟨0x9, 0xD, 1⟩, ⟨0x20, 0x20, 1⟩, ⟨0x85, 0x85, 1⟩, ⟨0xA0, 0xA0, 1⟩, ⟨0x1680, 0x1680, 1⟩,
   ⟨0x2000, 0x200A, 1⟩, ⟨0x2028, 0x2029, 1⟩, ⟨0x202F, 0x202F, 1⟩, ⟨0x205F, 0x205F, 1⟩,
   ⟨0x3000, 0x3000, 1⟩]

def isBlank (c : Char) : Bool := inRuns blanks c

/-- The text without the white space at its two ends. -/
def strip (s : String) : String :=
  String.ofList ((s.toList.dropWhile isBlank).reverse.dropWhile isBlank).reverse

end JavaWeave.Text
