import JavaWeave.Decimal.Style
import JavaWeave.Syntax.Tree

namespace JavaWeave.Layout

open Syntax

/-- Double literals: positional from `1e-4` up to below `1e16`, always with a point or an exponent. -/
def doubleStyle : Decimal.Style where
  positional := some (-4, 15)
  keepPoint := true
  tie := .up
  notANumber := "NaN"
  infinity := "inf"

/-- A character inside quotes: the quote itself, the backslash, the line ends, the tabulator and NUL are
escaped. -/
def escape (quote : Char) (c : Char) : List Char :=
  if c = '\n' then ['\\', 'n']
  else if c = '\r' then ['\\', 'r']
  else if c = '\t' then ['\\', 't']
  else if c.toNat = 0 then ['\\', '0']
  else if c = '\\' then ['\\', '\\']
  else if c = quote then ['\\', c]
  else [c]

/-- Characters between quotes. -/
def quoted (quote : Char) (text : List Char) : String :=
  String.ofList (quote :: (text.flatMap (escape quote) ++ [quote]))

def literal : Literal → String
  | .null => "null"
  | .bool value => if value then "true" else "false"
  | .int value => toString value.toInt
  | .long value => toString value.toInt ++ "L"
  | .double value => doubleStyle.write value
  | .char value => quoted '\'' [value]
  | .string value => quoted '"' value.toList

/-- Texts with a separator between them. -/
def commas (texts : List String) : String := ", ".intercalate texts

/-- The empty brackets of array dimensions. -/
def brackets (count : Nat) : String := String.join (List.replicate count "[]")

mutual

/-- The text of a type. -/
def type : JavaType → String
  | ⟨name, arguments, dimensions, wildcard⟩ =>
    let plain :=
      name ++ (if arguments.isEmpty then "" else "<" ++ commas (types arguments) ++ ">")
        ++ brackets dimensions
    match wildcard with
    | some .unbound => "?"
    | some .upper => "? extends " ++ plain
    | some .lower => "? super " ++ plain
    | none => plain

def types : List JavaType → List String
  | [] => []
  | t :: rest => type t :: types rest

end

/-- Type parameters with their bounds, or nothing. -/
def typeParameters (parameters : List TypeParameter) : String :=
  let one (parameter : TypeParameter) : String :=
    match parameter.bounds with
    | [] => parameter.name
    | bounds => parameter.name ++ " extends " ++ " & ".intercalate (types bounds)
  if parameters.isEmpty then "" else "<" ++ commas (parameters.map one) ++ ">"

/-- The words of a set of modifiers, each followed by a blank. -/
def modifiers (set : Modifiers) : String := String.join (set.keywords.map (· ++ " "))

end JavaWeave.Layout
