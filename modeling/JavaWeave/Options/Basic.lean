import JavaWeave.Names

namespace JavaWeave

/-- How a class with one instance is built. -/
inductive SingletonStyle where
  /-- An enum with one constant. -/
  | enum
  /-- A nested class that holds the instance. -/
  | holder
  deriving DecidableEq, Repr

/-- The style that a possibly qualified constant names. -/
def SingletonStyle.ofConstant? (name : String) : Option SingletonStyle :=
  match Names.simple name with
  | "ENUM" => some .enum
  | "HOLDER" => some .holder
  | _ => none

structure BuilderOptions where
  entryMethod : Option String := none
  leading : Option String := none
  convenientMethods : Option Bool := none
  allowReset : Option Bool := none
  deriving DecidableEq, Repr

structure GeneratorOptions where
  optimizeStates : Option Bool := none
  deriving DecidableEq, Repr

structure SingletonOptions where
  style : Option SingletonStyle := none
  deriving DecidableEq, Repr

structure LockOptions where
  readWriteLockName : Option String := none
  lockName : Option String := none
  deriving DecidableEq, Repr

structure PageOptions where
  indent : Option Nat := none
  deriving DecidableEq, Repr

/-- The settings of the weaver. -/
structure Options where
  disabled : Option (List String) := none
  builder : Option BuilderOptions := none
  generator : Option GeneratorOptions := none
  singleton : Option SingletonOptions := none
  locks : Option LockOptions := none
  page : Option PageOptions := none
  deriving DecidableEq, Repr

namespace Options

/-- Whether two names agree up to the case of ASCII letters. -/
def sameIgnoringCase (a b : String) : Bool :=
  a.toList.map Char.toLower == b.toList.map Char.toLower

/-- Whether a handler is switched off. -/
def isDisabled (options : Options) (handler : String) : Bool :=
  (options.disabled.getD []).any (sameIgnoringCase · handler)

def entryMethod (options : Options) : String :=
  (options.builder.bind (·.entryMethod)).getD "create"

/-- What the names of builder methods start with. -/
def builderLeading (options : Options) : String :=
  (options.builder.bind (·.leading)).getD ""

def convenientMethods (options : Options) : Bool :=
  (options.builder.bind (·.convenientMethods)).getD true

def allowReset (options : Options) : Bool :=
  (options.builder.bind (·.allowReset)).getD false

def optimizeStates (options : Options) : Bool :=
  (options.generator.bind (·.optimizeStates)).getD true

def singletonStyle (options : Options) : SingletonStyle :=
  (options.singleton.bind (·.style)).getD .enum

def readWriteLockName (options : Options) : String :=
  (options.locks.bind (·.readWriteLockName)).getD "$readWriteLock"

def lockName (options : Options) : String :=
  (options.locks.bind (·.lockName)).getD "$lock"

def indent (options : Options) : Nat :=
  (options.page.bind (·.indent)).getD 4

/-- The settings that must be identifiers, by their names in a project file. An empty leading word asks for
nothing. -/
def identifiers (options : Options) : List (String × String) :=
  [("builder.entryMethod", options.entryMethod),
   ("locks.readWriteLockName", options.readWriteLockName),
   ("locks.lockName", options.lockName)]
    ++ if options.builderLeading.isEmpty then [] else [("builder.prefix", options.builderLeading)]

/-- The first setting that should be an identifier and is not, with its value. -/
def invalid? (options : Options) : Option (String × String) :=
  options.identifiers.find? fun (_, value) => !Names.isIdentifier value

end Options

/-- A project file. -/
structure ProjectFile where
  options : Option Options := none
  /-- Files and directories to read, relative to the project file. -/
  inputs : Option (List String) := none
  exclude : Option (List String) := none
  outDir : Option String := none
  deriving DecidableEq, Repr

/-- Why a project file cannot be used. -/
inductive ProjectFile.Fault where
  | malformed
  | notIdentifier (setting value : String)
  deriving DecidableEq, Repr

/-- The name under which project files are looked for. -/
def ProjectFile.name : String := "lpg.json"

/-- The wording of a fault, where it has one of its own. -/
def ProjectFile.Fault.message : Fault → Option String
  | .malformed => none
  | .notIdentifier setting value =>
    some ("option '" ++ setting ++ "' must be a Java identifier, got '" ++ value ++ "'")

end JavaWeave
