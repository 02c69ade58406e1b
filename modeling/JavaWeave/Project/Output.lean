import JavaWeave.Json.Writer
import JavaWeave.Layout.Source
import JavaWeave.Project.Path
import JavaWeave.Syntax.Encode

namespace JavaWeave.Project

open Syntax

/-- How source files are written. -/
structure Emission where
  /-- The directory that stands for the root of packages; without one, files go next to their source. -/
  outDir : Option String := none
  indent : Nat := 4
  /-- The tree is written too. -/
  withTree : Bool := false

structure OutputFile where
  path : String
  text : String
  deriving DecidableEq, Repr

/-- The name of the written file: that of the source, or that of its first type. -/
def outputStem (unit : CompilationUnit) : String :=
  let stem := (Path.stem? unit.fileName).getD ""
  let stem := (Text.dropEnd? stem ".java").getD stem
  if stem.isEmpty then (unit.types.head?.map (·.name)).getD "Unnamed" else stem

namespace Emission

/-- The directory that a source file is written to. -/
def directory (emission : Emission) (unit : CompilationUnit) : String :=
  match emission.outDir, unit.package with
  | some outDir, some package => (Text.split '.' package).foldl Path.join outDir
  | some outDir, none => outDir
  | none, _ => (Path.parent? unit.fileName).getD "."

def outputPath (emission : Emission) (unit : CompilationUnit) (ending : String) : String :=
  Path.join (emission.directory unit) (outputStem unit ++ ending)

/-- The text of a source file. -/
def sourceText (emission : Emission) (unit : CompilationUnit) : String :=
  Layout.printUnit (.withIndent emission.indent) unit

/-- The files written for a source file. -/
def outputs (emission : Emission) (unit : CompilationUnit) : List OutputFile :=
  ⟨emission.outputPath unit ".java", emission.sourceText unit⟩
    :: if emission.withTree then
        [⟨emission.outputPath unit ".ast.json", (Encode.unit unit).pretty ++ "\n"⟩]
      else []

end Emission

end JavaWeave.Project
