import JavaWeave.Layout.Source

namespace JavaWeave.Layout

open Syntax

/-- What a statement reads where a counting loop starts. -/
def opening (place : Place) : Statement → String
  | .declare decl => localVariable place decl
  | .expression e => expression place 0 e
  | s => statement place s

theorem loopStarts_cons (place : Place) (s : Statement) (rest : List Statement) :
    loopStarts place (s :: rest) = opening place s :: loopStarts place rest := by
  cases s <;> rfl

/-- A statement as the body of a conditional or a loop. -/
def branch (place : Place) (s : Statement) : String :=
  if isBlock s then " " ++ statement place s else place.deeper.line ++ statement place.deeper s

/-- A statement as the alternative of a conditional. -/
def alternative (place : Place) (s : Statement) : String :=
  if isConditional s || isBlock s then " " ++ statement place s else place.deeper.line ++ statement place.deeper s

/-- The condition of a counting loop, which may be missing. -/
def guard (place : Place) : Option Expression → String
  | some e => expression place 0 e
  | none => ""

section

variable (place : Place) (condition : Expression) (body : Statement)

theorem statement_if (whenTrue : Statement) :
    statement place (.ifElse condition whenTrue none)
      = "if (" ++ expression place 0 condition ++ ")" ++ branch place whenTrue ++ "" := rfl

theorem statement_ifElse (whenTrue whenFalse : Statement) :
    statement place (.ifElse condition whenTrue (some whenFalse))
      = "if (" ++ expression place 0 condition ++ ")" ++ branch place whenTrue
        ++ ((if isBlock whenTrue then " " else place.line) ++ "else" ++ alternative place whenFalse) := rfl

theorem statement_whileLoop :
    statement place (.whileLoop condition body)
      = "while (" ++ expression place 0 condition ++ ")" ++ branch place body := rfl

theorem statement_forLoop (start : List Statement) (condition : Option Expression) (update : List Expression) :
    statement place (.forLoop start condition update body)
      = "for (" ++ commas (loopStarts place start) ++ "; " ++ guard place condition ++ "; "
        ++ commas (expressions place 0 update) ++ ")" ++ branch place body := by
  cases condition <;> rfl

theorem statement_forEach (item : LocalVariable) (iterable : Expression) :
    statement place (.forEach item iterable body)
      = "for (" ++ modifiers item.modifiers ++ type item.type ++ " " ++ item.name ++ " : "
        ++ expression place 0 iterable ++ ")" ++ branch place body := by
  cases item
  rfl

end

end JavaWeave.Layout
