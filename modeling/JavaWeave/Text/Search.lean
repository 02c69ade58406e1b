namespace JavaWeave.Text

/-- The pieces of a character list between the occurrences of a mark; never empty. -/
def pieces (mark : Char) : List Char → List (List Char)
  | [] => [[]]
  | c :: rest =>
    if c = mark then [] :: pieces mark rest
    else match pieces mark rest with
      | [] => [[c]]
      | head :: tail => (c :: head) :: tail

/-- The pieces of a text between the occurrences of a mark. -/
def split (mark : Char) (s : String) : List String :=
  (pieces mark s.toList).map String.ofList

/-- One pass that replaces a pattern; the counter says how many characters of an occurrence already
replaced are still to be dropped. -/
def replaceFrom (pattern replacement : List Char) : Nat → List Char → List Char
  | _, [] => []
  | skip + 1, _ :: rest => replaceFrom pattern replacement skip rest
  | 0, c :: rest =>
    if pattern.isPrefixOf (c :: rest) then
      replacement ++ replaceFrom pattern replacement (pattern.length - 1) rest
    else c :: replaceFrom pattern replacement 0 rest

/-- Replaces the leftmost non-overlapping occurrences of a nonempty pattern. -/
def replace (pattern replacement s : String) : String :=
  String.ofList (replaceFrom pattern.toList replacement.toList 0 s.toList)

/-- How many characters precede the first occurrence of a pattern. -/
def indexOf (pattern : List Char) : List Char → Option Nat
  | [] => if pattern.isEmpty then some 0 else none
  | c :: rest =>
    if pattern.isPrefixOf (c :: rest) then some 0 else (indexOf pattern rest).map (· + 1)

/-- Whether a pattern occurs in a text. -/
def occurs (pattern s : String) : Bool := (indexOf pattern.toList s.toList).isSome

/-- Whether a text begins with another. -/
def startsWith (s start : String) : Bool := start.toList.isPrefixOf s.toList

/-- Whether a text ends with another. -/
def endsWith (s ending : String) : Bool := ending.toList.isSuffixOf s.toList

/-- The rest of a text after the given beginning. -/
def dropStart? (s start : String) : Option String :=
  if startsWith s start then some (String.ofList (s.toList.drop start.length)) else none

/-- The rest of a text before the given ending. -/
def dropEnd? (s ending : String) : Option String :=
  if endsWith s ending then some (String.ofList (s.toList.take (s.length - ending.length))) else none

end JavaWeave.Text
