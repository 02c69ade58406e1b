import JavaWeave.Json.Reader
import JavaWeave.Options.Json
import JavaWeave.Project.Files
import JavaWeave.Project.Output
import JavaWeave.Syntax.Decode
import JavaWeave.Types.Library
import JavaWeave.Weave.Transform

namespace JavaWeave.Project

open Syntax

/-- Why a run ends early. -/
inductive Failure where
  | optionsUnreadable (path : String)
  | options (fault : ProjectFile.Fault)
  | unreadable (path : String)
  | notUnit (path : String)
  | unwritable (path : String)
  deriving DecidableEq, Repr

def Failure.message : Failure → String
  | .optionsUnreadable path => "cannot read " ++ path
  | .options fault => fault.message.getD "malformed project file"
  | .unreadable path => "cannot read " ++ path
  | .notUnit path => path ++ " is not a compilation unit"
  | .unwritable path => "cannot write " ++ path

/-- What a run works on. -/
structure Program where
  options : Options := {}
  /-- The files and directories to read. -/
  roots : List String := []
  /-- What is left out of directories. -/
  exclude : List String := []
  outDir : Option String := none
  units : List CompilationUnit := []

/-- Carries out the annotations of all source files, which know each other's types. -/
def weaveAll (options : Options) (units : List CompilationUnit) : List CompilationUnit × List Diagnostic :=
  let types := TypeTable.ofUnits units
  let woven := units.map (Weave.weaveUnit options types)
  (woven.map (·.1), Diagnostic.sort (woven.flatMap (·.2)))

namespace Program

/-- The program of a project file at a path. Other paths are relative to its directory, which is read as a
whole unless the file says otherwise. -/
def ofProjectFile (path : String) (file : ProjectFile) : Program :=
  let base := (Path.parent? path).getD "."
  { options := file.options.getD {}
    roots := match file.inputs with
      | some inputs => inputs.map (Path.join base)
      | none => [base]
    exclude := (file.exclude.getD []).map (Path.join base)
    outDir := file.outDir.map (Path.join base) }

/-- Carries out all annotations. -/
def weave (program : Program) : Program × List Diagnostic :=
  let (units, diagnostics) := weaveAll program.options program.units
  ({ program with units }, diagnostics)

end Program

/-- Whether a path is that of a source file: not a project file and not a tree that was written. -/
def isUnitFile (path : String) : Bool :=
  match Path.fileName? path with
  | none => false
  | some name =>
    Path.extension? path == some "json" && name != ProjectFile.name && !Text.endsWith name ".ast.json"

/-- Reads a source file. One that does not say its name is named after the path. -/
def parseUnit (path text : String) : Except Failure CompilationUnit :=
  match (Json.scan? text).bind Decode.unit with
  | none => .error (.notUnit path)
  | some unit =>
    .ok (if unit.fileName.isEmpty then { unit with fileName := Path.withoutExtension path } else unit)

/-- More directories cannot be nested in a path that a system takes. -/
def nestingLimit : Nat := 4096

section

variable {m : Type → Type} [Monad m] (files : FileSystem m)

/-- The steps of a run. -/
abbrev Run (m : Type → Type) := ExceptT Failure m

/-- The nearest project file at a path or above it. -/
def findProjectFile (path : String) : m (Option String) :=
  ((Path.ancestors path).map fun directory => Path.join directory ProjectFile.name).findM? files.isFile

/-- Reads a project file. -/
def openProject (path : String) : Run m Program := do
  match ← files.read path with
  | none => throw (.optionsUnreadable path)
  | some text =>
    match ProjectFile.parse text with
    | .error fault => throw (.options fault)
    | .ok file => return .ofProjectFile path file

/-- The source files in a directory, in the order of their names. -/
def collect (exclude : List String) : Nat → String → Run m (List String)
  | 0, directory => throw (.unreadable directory)
  | depth + 1, directory => do
    match ← files.list directory with
    | none => throw (.unreadable directory)
    | some names =>
      let paths := (names.mergeSort fun a b => decide (a ≤ b)).map (Path.join directory)
      let found ← (paths.filter fun path => !exclude.any (Path.startsWith path)).mapM fun path => do
        if ← files.isDirectory path then collect exclude depth path
        else return if isUnitFile path then [path] else []
      return found.flatten

/-- The source files of all roots. A root that is no directory is a source file, whatever its name. -/
def rootFiles (program : Program) : Run m (List String) := do
  let found ← program.roots.mapM fun root => do
    if ← files.isDirectory root then collect files program.exclude nestingLimit root
    else return [root]
  return found.flatten

def loadUnit (path : String) : Run m CompilationUnit := do
  match ← files.read path with
  | none => throw (.unreadable path)
  | some text =>
    match parseUnit path text with
    | .error failure => throw failure
    | .ok unit => return unit

/-- Reads all source files. -/
def load (program : Program) : Run m Program := do
  let units ← (← rootFiles files program).mapM (loadUnit files)
  return { program with units := program.units ++ units }

/-- Writes the files of one source file. A problem is reported under the first of them. -/
def writeUnit (emission : Emission) (unit : CompilationUnit) : Run m (List String) := do
  let outputs := emission.outputs unit
  let first := (outputs.head?.map (·.path)).getD ""
  for output in outputs do
    unless ← files.write output.path output.text do throw (.unwritable first)
  return outputs.map (·.path)

/-- Writes everything and says what was written. -/
def write (emission : Emission) (program : Program) : Run m (List String) := do
  return (← program.units.mapM (writeUnit files emission)).flatten

end

end JavaWeave.Project
