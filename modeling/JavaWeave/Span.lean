namespace JavaWeave

/-- A stretch of source text, by its first position and its length. -/
structure Span where
  start : Nat
  length : Nat
  deriving DecidableEq, Repr, Inhabited

namespace Span

/-- The first position after the stretch. -/
def stop (span : Span) : Nat := span.start + span.length

def isEmpty (span : Span) : Bool := span.length == 0

def contains (span : Span) (position : Nat) : Bool :=
  span.start ≤ position && position < span.stop

/-- The smallest stretch that covers both. -/
def union (a b : Span) : Span :=
  let start := min a.start b.start
  ⟨start, max a.stop b.stop - start⟩

/-- Interval notation: `[3, 7)`. -/
def interval (span : Span) : String := s!"[{span.start}, {span.stop})"

/-- Range notation: `3..7`. -/
def range (span : Span) : String := s!"{span.start}..{span.stop}"

end Span

end JavaWeave
