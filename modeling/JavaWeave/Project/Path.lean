import JavaWeave.Text.Search

namespace JavaWeave.Path

inductive Component where
  | root
  | current
  | up
  | name (text : String)
  deriving DecidableEq, Repr

/-- Whether a segment behind the first says nothing. -/
def isTrivial (segment : String) : Bool := segment.isEmpty || segment == "."

def isAbsolute (path : String) : Bool := Text.startsWith path "/"

def componentOf (segment : String) : Component :=
  if segment == ".." then .up else .name segment

/-- The parts of a path that say where it leads. -/
def components (path : String) : List Component :=
  match Text.split '/' path with
  | [] => []
  | first :: rest =>
    let start : List Component :=
      if isAbsolute path then [.root]
      else if first.isEmpty then []
      else if first == "." then [.current]
      else [componentOf first]
    start ++ (rest.filter fun segment => !isTrivial segment).map componentOf

/-- Whether a path leads below another, component by component. -/
def startsWith (path start : String) : Bool := (components start).isPrefixOf (components path)

/-- A path inside another. An absolute path stands alone. -/
def join (base path : String) : String :=
  if isAbsolute path then path
  else if base.isEmpty || Text.endsWith base "/" then base ++ path
  else base ++ "/" ++ path

/-- Segments without those at the end that say nothing. -/
def trimEnd (segments : List String) : List String := (segments.reverse.dropWhile isTrivial).reverse

/-- The path without its last component. -/
def parent? (path : String) : Option String :=
  match Text.split '/' path with
  | [] => none
  | first :: rest =>
    match trimEnd rest with
    | [] => if first.isEmpty then none else some ""
    | segments =>
      let kept := "/".intercalate (first :: trimEnd segments.dropLast)
      some (if first.isEmpty && kept.isEmpty then "/" else kept)

/-- The name at the end of a path. -/
def fileName? (path : String) : Option String :=
  match (components path).getLast? with
  | some (.name text) => some text
  | _ => none

/-- A file name cut at its last dot; a dot at the start does not count. -/
def cutName (name : String) : String × Option String :=
  match (Text.split '.' name).reverse with
  | [] | [_] => (name, none)
  | extension :: rest =>
    let stem := ".".intercalate rest.reverse
    if stem.isEmpty then (name, none) else (stem, some extension)

/-- The file name without extension. -/
def stem? (path : String) : Option String := (fileName? path).map fun name => (cutName name).1

def extension? (path : String) : Option String := (fileName? path).bind fun name => (cutName name).2

/-- The path of a file without its extension. -/
def withoutExtension (path : String) : String :=
  match extension? path with
  | some extension => (Text.dropEnd? path ("." ++ extension)).getD path
  | none => path

/-- The path and everything above it, as many as the bound allows. -/
def ancestorsWithin : Nat → String → List String
  | 0, path => [path]
  | bound + 1, path =>
    path :: match parent? path with
      | some parent => ancestorsWithin bound parent
      | none => []

/-- The path and everything above it; each is shorter than the one before. -/
def ancestors (path : String) : List String := ancestorsWithin path.length path

end JavaWeave.Path
