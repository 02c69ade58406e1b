import JavaWeave.Text.Identifier
import JavaWeave.Text.LetterCase
import JavaWeave.Text.Search

/-! Names of Java members: which texts are identifiers, how accessor, constant and builder names are
derived from a field's name, how dotted names compare, and a pool that hands out unused names. -/

namespace JavaWeave.Names

/-- The reserved words, including the three literal words. -/
def keywords : List String :=
  ["abstract", "assert", "boolean", "break", "byte", "case", "catch", "char", "class", "const",
   "continue", "default", "do", "double", "else", "enum", "extends", "final", "finally", "float",
   "for", "goto", "if", "implements", "import", "instanceof", "int", "interface", "long",
   "native", "new", "package", "private", "protected", "public", "return", "short", "static",
   "strictfp", "super", "switch", "synchronized", "this", "throw", "throws", "transient", "try",
   "void", "volatile", "while", "true", "false", "null"]

def isKeyword (name : String) : Bool := keywords.contains name

/-- A `$`, `_` or letter followed by `$` and identifier characters, and no reserved word. -/
def isIdentifier (name : String) : Bool :=
  match name.toList with
  | [] => false
  | first :: rest =>
    (first == '$' || first == '_' || Text.startsIdentifier first)
      && rest.all (fun c => c == '$' || Text.continuesIdentifier c)
      && !isKeyword name

/-- The name with its first character in upper case. -/
def capitalize (name : String) : String :=
  match name.toList with
  | [] => ""
  | first :: rest => String.ofList (Text.upper first ++ rest)

/-- The name with its first character in lower case. -/
def decapitalize (name : String) : String :=
  match name.toList with
  | [] => ""
  | first :: rest => String.ofList (Text.lower first ++ rest)

/-- A leading word joined to a name; without a leading word the name stays. -/
def camelCase (leading name : String) : String :=
  if leading.isEmpty then name else leading ++ capitalize name

/-- The name without one trailing `s`. -/
def singular (name : String) : String :=
  (Text.dropEnd? name "s").getD name

/-- Upper case with `_` before each capital that follows a small letter or a digit. The flag tells
whether the previous character was one of those. -/
def constantChars : Bool → List Char → List Char
  | _, [] => []
  | afterSmall, c :: rest =>
    (if Text.isUpper c && afterSmall then ['_'] else []) ++ Text.upper c
      ++ constantChars (Text.isLower c || c.isDigit) rest

/-- The name of a constant for a field: `firstName` gives `FIRST_NAME`. -/
def constantCase (name : String) : String :=
  String.ofList (constantChars false name.toList)

/-- The bean property of a field. A boolean field `isX` has the property `x`. -/
def propertyName (field : String) (isBoolean : Bool) : String :=
  match isBoolean, Text.dropStart? field "is" with
  | true, some rest =>
    match rest.toList with
    | first :: _ => if Text.isUpper first then decapitalize rest else field
    | [] => field
  | _, _ => field

def setterName (field : String) (isBoolean : Bool) : String :=
  "set" ++ capitalize (propertyName field isBoolean)

def getterName (field : String) (isBoolean : Bool) : String :=
  (if isBoolean then "is" else "get") ++ capitalize (propertyName field isBoolean)

/-- The last segment of a dotted name. -/
def simple (name : String) : String :=
  (Text.split '.' name).getLast?.getD name

/-- Whether a name is the wanted one, written plainly or qualified by further segments in front. -/
def denotes (name wanted : String) : Bool :=
  name == wanted || Text.endsWith name ("." ++ wanted)

/-- The names that are already in use. -/
structure Pool where
  taken : List String := []
  deriving DecidableEq, Repr

namespace Pool

def isTaken (pool : Pool) (name : String) : Bool := pool.taken.contains name

/-- The pool in which a name is taken too. -/
def reserve (pool : Pool) (name : String) : Pool :=
  if pool.isTaken name then pool else { pool with taken := name :: pool.taken }

/-- The names tried in turn when `base` itself is taken. -/
def numbered (base : String) (n : Nat) : String := base ++ "$" ++ toString n

/-- An unused name for `base`: the base itself, else `base$1`, `base$2` and so on. One more candidate
than there are taken names is enough, since candidates differ pairwise. -/
def freshName (pool : Pool) (base : String) : String :=
  if pool.isTaken base then
    let candidates := (List.range (pool.taken.length + 1)).map fun n => numbered base (n + 1)
    (candidates.find? fun name => !pool.isTaken name).getD base
  else base

/-- Hands out an unused name and takes it. -/
def fresh (pool : Pool) (base : String) : String × Pool :=
  let name := pool.freshName base
  (name, pool.reserve name)

/-- A pool in which the listed names are taken. -/
def ofList (names : List String) : Pool :=
  names.foldl reserve {}

end Pool

end JavaWeave.Names
