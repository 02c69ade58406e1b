import JavaWeave.Syntax.JavaType

namespace JavaWeave.Layout

/-- How pages are set. -/
structure Settings where
  indent : String := "    "
  newline : String := "\n"
  trailingNewline : Bool := true
  deriving DecidableEq, Repr

namespace Settings

/-- Settings with a number of blanks per level. -/
def withIndent (width : Nat) : Settings := { indent := String.ofList (List.replicate width ' ') }

end Settings

/-- A place on a page. -/
structure Place where
  settings : Settings
  level : Nat := 0
  /-- What the innermost enclosing method returns. -/
  returnType : Option Syntax.JavaType := none

namespace Place

/-- The place one level further in. -/
def deeper (place : Place) : Place := { place with level := place.level + 1 }

/-- The place inside a method that returns the given type. -/
def returning (place : Place) (type : Syntax.JavaType) : Place :=
  { place with returnType := some type }

/-- A line end with no indentation after it. -/
def newline (place : Place) : String := place.settings.newline

/-- A line end and the indentation of the next line. -/
def line (place : Place) : String :=
  place.settings.newline ++ String.join (List.replicate place.level place.settings.indent)

/-- Entries on lines of their own, one level further in, between braces. -/
def braces (place : Place) (entries : List String) : String :=
  if entries.isEmpty then "\x7b\x7d"
  else "\x7b" ++ String.join (entries.map (place.deeper.line ++ ·)) ++ place.line ++ "\x7d"

/-- The members of a type between braces. Those of the first list follow each other directly, each of the
second is set off by an empty line from what comes before. -/
def members (place : Place) (close wide : List String) : String :=
  let inner := place.deeper.line
  let closeLines := close.map (inner ++ ·)
  let wideLines := match close, wide with
    | [], first :: rest => (inner ++ first) :: rest.map (place.newline ++ inner ++ ·)
    | _, wide => wide.map (place.newline ++ inner ++ ·)
  let all := closeLines ++ wideLines
  if all.isEmpty then "\x7b\x7d" else "\x7b" ++ String.join all ++ place.line ++ "\x7d"

end Place

end JavaWeave.Layout
