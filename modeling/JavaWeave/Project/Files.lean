import JavaWeave.Project.Path

namespace JavaWeave.Project

/-- The operations of a file system. -/
structure FileSystem (m : Type → Type) where
  isDirectory : String → m Bool
  isFile : String → m Bool
  /-- The text of a file. -/
  read : String → m (Option String)
  /-- The names in a directory. -/
  list : String → m (Option (List String))
  /-- Writes a file and makes the directories it needs; says whether that worked. -/
  write : String → String → m Bool

/-- A file with its text, or a directory. -/
inductive Entry where
  | directory
  | file (text : String)
  deriving DecidableEq, Repr

/-- Where an entry is: the names that lead to it from the root. -/
abbrev Location := List String

/-- A file system as a value. Relative and absolute paths both start at its root. -/
structure FileTree where
  entries : List (Location × Entry) := []
  deriving Repr

namespace FileTree

def entryAt? (tree : FileTree) (location : Location) : Option Entry :=
  if location.isEmpty then some .directory else tree.entries.lookup location

/-- One segment further. Only a directory can be gone through. -/
def follow (tree : FileTree) (location : Location) (segment : String) : Option Location :=
  match tree.entryAt? location with
  | some .directory =>
    if Path.isTrivial segment then some location
    else if segment == ".." then some location.dropLast
    else some (location ++ [segment])
  | _ => none

/-- Where a path leads. The empty path leads nowhere. -/
def resolve (tree : FileTree) (path : String) : Option Location :=
  if path.isEmpty then none else (Text.split '/' path).foldlM tree.follow []

def at? (tree : FileTree) (path : String) : Option Entry := (tree.resolve path).bind tree.entryAt?

def isDirectory (tree : FileTree) (path : String) : Bool := tree.at? path == some .directory

def text? (tree : FileTree) (path : String) : Option String :=
  match tree.at? path with
  | some (.file text) => some text
  | _ => none

/-- The names in a directory. -/
def names? (tree : FileTree) (path : String) : Option (List String) := do
  let location ← tree.resolve path
  guard (tree.entryAt? location == some .directory)
  return tree.entries.filterMap fun (other, _) =>
    if other.dropLast = location then other.getLast? else none

/-- Gives a location a new entry. -/
def insert (tree : FileTree) (location : Location) (entry : Entry) : FileTree :=
  ⟨tree.entries.filter (fun (other, _) => other != location) ++ [(location, entry)]⟩

/-- One segment further, making the directory if there is nothing. -/
def followMaking (state : FileTree × Location) (segment : String) : Option (FileTree × Location) := do
  let (tree, location) := state
  let next ← tree.follow location segment
  match tree.entryAt? next with
  | some .directory => return (tree, next)
  | some (.file _) => none
  | none => return (tree.insert next .directory, next)

/-- Makes a directory and those above it. -/
def makeDirectories (tree : FileTree) (path : String) : Option FileTree :=
  if path.isEmpty then some tree
  else ((Text.split '/' path).foldlM followMaking (tree, [])).map (·.1)

/-- Writes a file and makes the directories it needs. -/
def write? (tree : FileTree) (path text : String) : Option FileTree := do
  let tree ← match Path.parent? path with
    | some parent => tree.makeDirectories parent
    | none => some tree
  let location ← tree.resolve path
  if tree.entryAt? location == some .directory then none
  else return tree.insert location (.file text)

/-- The tree that holds given files. A path that ends in a slash gives a directory. -/
def ofFiles (files : List (String × String)) : FileTree :=
  files.foldl
    (fun tree (path, text) =>
      let filled := if Text.endsWith path "/" then tree.makeDirectories path else tree.write? path text
      filled.getD tree)
    {}

/-- The files of a tree that another does not have with the same text. -/
def changes (before after : FileTree) : List (String × String) :=
  after.entries.filterMap fun (location, entry) =>
    match entry with
    | .directory => none
    | .file text =>
      if before.entryAt? location == some entry then none else some ("/".intercalate location, text)

/-- The file system of a tree that is carried along. -/
def fileSystem : FileSystem (StateM FileTree) where
  isDirectory path := return (← get).isDirectory path
  isFile path := return ((← get).text? path).isSome
  read path := return (← get).text? path
  list path := return (← get).names? path
  write path text := do
    match (← get).write? path text with
    | some tree =>
      set tree
      return true
    | none => return false

end FileTree

end JavaWeave.Project
