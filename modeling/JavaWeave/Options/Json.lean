import JavaWeave.Json.Reader
import JavaWeave.Options.Basic
import JavaWeave.Syntax.Decode

namespace JavaWeave.Options

open Syntax.Decode (optional object list choice below)

def decodeStyle : Json → Option SingletonStyle := choice [("ENUM", .enum), ("HOLDER", .holder)]

def decodeBuilder (json : Json) : Option BuilderOptions := do
  object json
  return {
    entryMethod := ← optional Json.str? json "entryMethod"
    leading := ← optional Json.str? json "prefix"
    convenientMethods := ← optional Json.bool? json "convenientMethods"
    allowReset := ← optional Json.bool? json "allowReset" }

def decodeGenerator (json : Json) : Option GeneratorOptions := do
  object json
  return { optimizeStates := ← optional Json.bool? json "optimizeStates" }

def decodeSingleton (json : Json) : Option SingletonOptions := do
  object json
  return { style := ← optional decodeStyle json "style" }

def decodeLocks (json : Json) : Option LockOptions := do
  object json
  return {
    readWriteLockName := ← optional Json.str? json "readWriteLockName"
    lockName := ← optional Json.str? json "lockName" }

def decodePage (json : Json) : Option PageOptions := do
  object json
  return { indent := ← optional (below (Nat.pow 2 64)) json "indent" }

def decode (json : Json) : Option Options := do
  object json
  return {
    disabled := ← optional (list Json.str?) json "disabledHandlers"
    builder := ← optional decodeBuilder json "builder"
    generator := ← optional decodeGenerator json "yield"
    singleton := ← optional decodeSingleton json "singleton"
    locks := ← optional decodeLocks json "locks"
    page := ← optional decodePage json "printer" }

def encodeStyle : SingletonStyle → Json
  | .enum => .str "ENUM"
  | .holder => .str "HOLDER"

private def text : Option String → Json := .ofOption .str
private def flag : Option Bool → Json := .ofOption .bool

def encode (options : Options) : Json :=
  .obj [("disabledHandlers", .ofOption (.ofList .str) options.disabled),
    ("builder", .ofOption (fun b => .obj [("entryMethod", text b.entryMethod), ("prefix", text b.leading),
      ("convenientMethods", flag b.convenientMethods), ("allowReset", flag b.allowReset)]) options.builder),
    ("yield", .ofOption (fun g => .obj [("optimizeStates", flag g.optimizeStates)]) options.generator),
    ("singleton", .ofOption (fun s => .obj [("style", .ofOption encodeStyle s.style)]) options.singleton),
    ("locks", .ofOption (fun l => .obj [("readWriteLockName", text l.readWriteLockName),
      ("lockName", text l.lockName)]) options.locks),
    ("printer", .ofOption (fun p => .obj [("indent", .ofOption .nat p.indent)]) options.page)]

end JavaWeave.Options

namespace JavaWeave.ProjectFile

open Syntax.Decode (optional object list)

def decode (json : Json) : Option ProjectFile := do
  object json
  return {
    options := ← optional Options.decode json "transformOptions"
    inputs := ← optional (list Json.str?) json "include"
    exclude := ← optional (list Json.str?) json "exclude"
    outDir := ← optional Json.str? json "outDir" }

def encode (file : ProjectFile) : Json :=
  .obj [("transformOptions", .ofOption Options.encode file.options),
    ("include", .ofOption (.ofList .str) file.inputs), ("exclude", .ofOption (.ofList .str) file.exclude),
    ("outDir", .ofOption .str file.outDir)]

/-- Reads a project file and checks its settings. -/
def parse (text : String) : Except Fault ProjectFile :=
  match (Json.scan? text).bind decode with
  | none => .error .malformed
  | some file =>
    match file.options.bind Options.invalid? with
    | some (setting, value) => .error (.notIdentifier setting value)
    | none => .ok file

end JavaWeave.ProjectFile
