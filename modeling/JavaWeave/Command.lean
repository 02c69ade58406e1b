import JavaWeave.Project.Program

namespace JavaWeave.Command

open Project

/-- What a command line asks for. -/
structure Request where
  files : List String := []
  /-- The project file. -/
  project : Option String := none
  outDir : Option String := none
  /-- Texts are printed and not written. -/
  printing : Bool := false
  noEmit : Bool := false
  emitTree : Bool := false
  disabled : List String := []
  indent : Option Nat := none
  listHandlers : Bool := false
  listFiles : Bool := false
  /-- Reports are never coloured. -/
  plain : Bool := false
  init : Bool := false
  version : Bool := false
  help : Bool := false
  deriving DecidableEq, Repr

/-- An option of the command line: it takes no value, or what a value does to the request. -/
inductive Action where
  | switch (apply : Request → Request)
  | value (apply : String → Request → Option Request)

/-- What a run prints, and the status it ends with. -/
structure Outcome where
  status : Nat := 0
  out : String := ""
  err : String := ""
  deriving DecidableEq, Repr

/-- A number as it is given on the command line. -/
def number? (text : String) : Option Nat :=
  let digits := (Text.dropStart? text "+").getD text
  if !digits.isEmpty && digits.toList.all Char.isDigit then digits.toNat?.filter (· < Nat.pow 2 64) else none

/-- A place in the file system as it is given on the command line. -/
def place? (text : String) : Option String := if text.isEmpty then none else some text

/-- A value that is given once. -/
def once (given : Option α) (value : Option α) : Option α := if given.isSome then none else value

/-- The options by their long names. An option that takes one value may be given once. -/
def longOptions : List (String × Action) :=
  [("project", .value fun text request => do
      return { request with project := ← once request.project (place? text) }),
   ("out-dir", .value fun text request => do
      return { request with outDir := ← once request.outDir (place? text) }),
   ("print", .switch fun request => { request with printing := true }),
   ("no-emit", .switch fun request => { request with noEmit := true }),
   ("emit-ast", .switch fun request => { request with emitTree := true }),
   ("disable", .value fun name request => some { request with disabled := request.disabled ++ [name] }),
   ("indent", .value fun text request => do
      return { request with indent := ← once request.indent (number? text) }),
   ("list-handlers", .switch fun request => { request with listHandlers := true }),
   ("list-files", .switch fun request => { request with listFiles := true }),
   ("no-pretty", .switch fun request => { request with plain := true }),
   ("init", .switch fun request => { request with init := true }),
   ("version", .switch fun request => { request with version := true }),
   ("help", .switch fun request => { request with help := true })]

/-- The long names of options that may be given by one letter. -/
def shortNames : List (Char × String) := [('p', "project"), ('v', "version"), ('h', "help")]

/-- Turns a switch on, which may be done once. -/
def turnOn (apply : Request → Request) (request : Request) : Option Request :=
  if apply request = request then none else some (apply request)

/-- Whether an argument is an option and not a value. -/
def looksLikeOption (argument : String) : Bool := Text.startsWith argument "-" && argument != "-"

/-- Applies an option. A value stands in the argument itself or is the next argument. -/
def applyOption (name : String) (given : Option String) (rest : List String) (request : Request) :
    Option (Request × List String) :=
  match longOptions.lookup name, given, rest with
  | some (.switch apply), none, rest => (turnOn apply request).map (·, rest)
  | some (.value apply), some value, rest => (apply value request).map (·, rest)
  | some (.value apply), none, value :: rest =>
    if looksLikeOption value then none else (apply value request).map (·, rest)
  | _, _, _ => none

/-- Applies options that are given by letters. What follows a letter that takes a value is the value, and a wish
for help ends the reading. -/
def applyLetters (rest : List String) (request : Request) : List Char → Option (Request × List String)
  | [] => some (request, rest)
  | letter :: more => do
    let name ← shortNames.lookup letter
    match longOptions.lookup name with
    | some (.switch apply) =>
      let request ← turnOn apply request
      if request.help then return (request, rest) else applyLetters rest request more
    | _ =>
      let value := String.ofList more
      applyOption name (if more.isEmpty then none else some ((Text.dropStart? value "=").getD value)) rest
        request

/-- Takes a file or directory to read. -/
def applyFile (request : Request) (argument : String) : Option Request := do
  return { request with files := request.files ++ [← place? argument] }

/-- Applies the first argument, and more of them if it wants a value. -/
def applyArgument (argument : String) (rest : List String) (request : Request) :
    Option (Request × List String) :=
  match Text.dropStart? argument "--", argument.toList with
  | some body, _ =>
    match Text.split '=' body with
    | name :: first :: more => applyOption name (some ("=".intercalate (first :: more))) rest request
    | _ => applyOption body none rest request
  | none, '-' :: letter :: more => applyLetters rest request (letter :: more)
  | none, _ => (applyFile request argument).map (·, rest)

/-- Reads arguments; each step takes one at least. A wish for help ends the reading. -/
def readArguments : Nat → List String → Request → Option Request
  | _, [], request => some request
  | 0, _, _ => none
  | fuel + 1, argument :: rest, request =>
    if argument == "--" then rest.foldlM applyFile request
    else do
      let (request, rest) ← applyArgument argument rest request
      if request.help then return request else readArguments fuel rest request

/-- The request that arguments spell. -/
def Request.parse? (arguments : List String) : Option Request :=
  readArguments arguments.length arguments {}

def usage : String := "Usage: lpgc [OPTIONS] [FILE]..."

def helpText : String :=
  "lpgc - Java AST synthesis from annotations\n\n" ++ usage ++ "\n\n" ++
  "Arguments:\n" ++
  "  [FILE]...  Compilation units (JSON) or directories holding them\n\n" ++
  "Options:\n" ++
  "  -p, --project <PROJECT>  Path to lpg.json\n" ++
  "      --out-dir <OUT_DIR>  Redirect output to the directory\n" ++
  "      --print              Print transformed Java to stdout instead of writing files\n" ++
  "      --no-emit            Do not emit outputs\n" ++
  "      --emit-ast           Also write each transformed tree as `<name>.ast.json`\n" ++
  "      --disable <HANDLER>  Skip a handler by name (repeatable)\n" ++
  "      --indent <INDENT>    Spaces per indentation level in printed Java\n" ++
  "      --list-handlers      List the handlers that would run\n" ++
  "      --list-files         List all units that are part of the run\n" ++
  "      --no-pretty          Plain diagnostics even on a terminal\n" ++
  "      --init               Write a default lpg.json into the current directory\n" ++
  "  -v, --version            Print the version\n" ++
  "  -h, --help               Print help\n"

/-- The project file that is written on request. -/
def defaultProject : String :=
  "\x7b\n" ++
  "  \"transformOptions\": \x7b\n" ++
  "    \"builder\": \x7b \"entryMethod\": \"create\", \"convenientMethods\": true \x7d,\n" ++
  "    \"yield\": \x7b \"optimizeStates\": true \x7d,\n" ++
  "    \"singleton\": \x7b \"style\": \"ENUM\" \x7d\n" ++
  "  \x7d,\n" ++
  "  \"include\": [\"src\"],\n" ++
  "  \"outDir\": \"generated\"\n" ++
  "\x7d\n"

/-- Lines of text. -/
def lines (texts : List String) : String := String.join (texts.map (· ++ "\n"))

/-- What the command line changes about the options. -/
def Request.override (request : Request) (options : Options) : Options :=
  let options :=
    if request.disabled.isEmpty then options
    else { options with disabled := some (options.disabled.getD [] ++ request.disabled) }
  match request.indent with
  | none => options
  | some indent => { options with page := some { indent := some indent } }

/-- What is printed when a run ends early. -/
def failed (message : String) : Outcome := { status := 1, err := "Error: " ++ message ++ "\n" }

/-- How many errors there were. -/
def summary (diagnostics : List Diagnostic) : String :=
  let count := diagnostics.countP (·.isError)
  "\nFound " ++ toString count ++ " error" ++ (if count = 1 then "" else "s") ++ ".\n"

section

variable {m : Type → Type} [Monad m] (files : FileSystem m)

/-- Writes a project file unless there is one. -/
def runInit : m Outcome := do
  if (← files.isFile ProjectFile.name) || (← files.isDirectory ProjectFile.name) then
    return failed ("An " ++ ProjectFile.name ++ " file already exists in the current directory.")
  if ← files.write ProjectFile.name defaultProject then
    return { out := "Successfully created an " ++ ProjectFile.name ++ " file.\n" }
  return failed ("Failed to create " ++ ProjectFile.name)

/-- The program that is asked for: a project file that is named, else the files that are named, else the
nearest project file. -/
def openProgram (directory : String) (request : Request) : Run m Program := do
  match request.project with
  | some path => openProject files path
  | none =>
    if !request.files.isEmpty then return { roots := request.files }
    match ← (findProjectFile files directory : m (Option String)) with
    | some path => openProject files path
    | none => return {}

/-- Carries out the annotations of a program that is loaded, and prints or writes the results. -/
def finish (request : Request) (program : Program) : Run m Outcome := do
  let listed := if request.listFiles then lines (program.units.map (·.fileName)) else ""
  let (program, diagnostics) := program.weave
  let reports := lines (diagnostics.map (·.line))
  if Diagnostic.hasErrors diagnostics then
    return { status := 2, out := listed, err := reports ++ summary diagnostics }
  let emission : Emission :=
    { outDir := request.outDir.or program.outDir
      indent := program.options.indent
      withTree := request.emitTree }
  if request.noEmit then return { out := listed, err := reports }
  if request.printing then
    return { out := listed ++ String.join (program.units.map emission.sourceText), err := reports }
  try
    discard (write files emission program)
    return { out := listed, err := reports }
  catch failure =>
    return { status := 1, out := listed, err := reports ++ (failed failure.message).err }

/-- Carries out a request in the given directory. -/
def runRequest (directory : String) (request : Request) : Run m Outcome := do
  let program ← openProgram files directory request
  let options := request.override program.options
  if let some (setting, value) := options.invalid? then
    throw (.options (.notIdentifier setting value))
  if request.listHandlers then
    return { out := lines ((Weave.enabledHandlers options).map (·.name)) }
  if program.roots.isEmpty then return { status := 1, err := "error: No input files found.\n" }
  finish files request (← load files { program with options })

/-- Carries out a command line. -/
def run (directory : String) (arguments : List String) : m Outcome := do
  match Request.parse? arguments with
  | none => return { status := 2, err := "error: invalid arguments\n\n" ++ usage ++ "\n" }
  | some request =>
    if request.help then return { out := helpText }
    else if request.version then return { out := "lpgc Version 0.1.0\n" }
    else if request.init then runInit files
    else match ← (runRequest files directory request).run with
      | .ok outcome => return outcome
      | .error failure => return failed failure.message

end

end JavaWeave.Command
