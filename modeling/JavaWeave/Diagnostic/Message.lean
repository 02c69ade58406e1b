import JavaWeave.Text.Search

namespace JavaWeave.Diagnostic

inductive Severity where
  | warning
  | error
  deriving DecidableEq, Repr

/-- The word for a severity in reports. -/
def Severity.word : Severity → String
  | .warning => "warning"
  | .error => "error"

/-- Everything the weaver has to say about its input. -/
inductive Message where
  | classOnly
  | classOrFieldOnly
  | methodOnly
  | enumFieldOnly
  | concreteMethodOnly
  | voidMethodOnly
  | invalidValue
  | finalField
  | staticField
  | notOnInterfaces
  | methodExists
  | fieldExists
  | typeExists
  | extensionWithoutBuilder
  | extensionNotPrivateVoid
  | extensionIncomplete
  | cannotForward
  | excludedFieldMissing
  | emptyLockName
  | emptyConditionName
  | conditionMethodMissing
  | lockFieldType
  | yieldReturnType
  | yieldParameterNotFinal
  | yieldReturnsValue
  | yieldInSynchronized
  | yieldNotStatement
  | yieldInNestedClass
  | yieldArgumentCount
  | singletonExtends
  | listenerUnresolved
  | listenerNotInterface
  | listenerTypeMissing
  | requiresMethod
  | methodsOnly
  | instanceFieldOnly
  | rethrowUnknownParameter
  | notOnLocalClasses
  | internalFailure
  deriving DecidableEq, Repr

/-- The mark of the `n`th argument in a template. -/
def slot (n : Nat) : String := "\x7b" ++ toString n ++ "\x7d"

/-- Fills the slots from the `n`th on, one argument after the other; a slot that an earlier argument
brought in is filled as well. -/
def fillFrom (n : Nat) (template : String) : List String → String
  | [] => template
  | argument :: rest => fillFrom (n + 1) (Text.replace (slot n) argument template) rest

/-- Fills the slots of a template with the arguments. -/
def fill (template : String) (arguments : List String) : String :=
  fillFrom 0 template arguments

namespace Message

/-- The stable number of a message. -/
def code : Message → Nat
  | .classOnly => 1001
  | .classOrFieldOnly => 1002
  | .methodOnly => 1003
  | .enumFieldOnly => 1004
  | .concreteMethodOnly => 1006
  | .voidMethodOnly => 1007
  | .invalidValue => 1008
  | .finalField => 1009
  | .staticField => 1010
  | .notOnInterfaces => 1011
  | .methodExists => 1101
  | .fieldExists => 1102
  | .typeExists => 1103
  | .extensionWithoutBuilder => 2001
  | .extensionNotPrivateVoid => 2002
  | .extensionIncomplete => 2003
  | .cannotForward => 2004
  | .excludedFieldMissing => 2005
  | .emptyLockName => 2101
  | .emptyConditionName => 2102
  | .conditionMethodMissing => 2103
  | .lockFieldType => 2104
  | .yieldReturnType => 2201
  | .yieldParameterNotFinal => 2202
  | .yieldReturnsValue => 2203
  | .yieldInSynchronized => 2204
  | .yieldNotStatement => 2205
  | .yieldInNestedClass => 2206
  | .yieldArgumentCount => 2207
  | .singletonExtends => 2301
  | .listenerUnresolved => 2302
  | .listenerNotInterface => 2303
  | .listenerTypeMissing => 2304
  | .requiresMethod => 2305
  | .methodsOnly => 2306
  | .instanceFieldOnly => 2307
  | .rethrowUnknownParameter => 2308
  | .notOnLocalClasses => 2309
  | .internalFailure => 9001

/-- Most messages are errors. -/
def severity : Message → Severity
  | .methodExists | .fieldExists | .typeExists | .extensionNotPrivateVoid
  | .extensionIncomplete | .cannotForward | .excludedFieldMissing | .rethrowUnknownParameter => .warning
  | _ => .error

/-- The text of a message with its slots open. -/
def template : Message → String
  | .classOnly => "@" ++ slot 0 ++ " is only supported on a class."
  | .classOrFieldOnly => "@" ++ slot 0 ++ " is only supported on a class or a field."
  | .methodOnly => "@" ++ slot 0 ++ " is only supported on a method."
  | .enumFieldOnly => "@" ++ slot 0 ++ " is only supported on a field of an enum."
  | .concreteMethodOnly => "@" ++ slot 0 ++ " can only be used on concrete methods."
  | .voidMethodOnly => "@" ++ slot 0 ++ " can only be used on methods returning void."
  | .invalidValue => "Invalid value for '" ++ slot 0 ++ "': " ++ slot 1 ++ "."
  | .finalField => "@" ++ slot 0 ++ " cannot be used on final field '" ++ slot 1 ++ "'."
  | .staticField => "@" ++ slot 0 ++ " cannot be used on static field '" ++ slot 1 ++ "'."
  | .notOnInterfaces => "@" ++ slot 0 ++ " is not supported on interfaces."
  | .methodExists => "Not generating '" ++ slot 0 ++ "()': a method with that name already exists."
  | .fieldExists => "Not generating field '" ++ slot 0 ++ "': a field with that name already exists."
  | .typeExists => "Not generating type '" ++ slot 0 ++ "': a type with that name already exists."
  | .extensionWithoutBuilder => "@Builder.Extension requires @Builder on the enclosing type."
  | .extensionNotPrivateVoid =>
    "@Builder.Extension method '" ++ slot 0 ++ "' must be a private, non-static method returning void."
  | .extensionIncomplete =>
    "@Builder.Extension method '" ++ slot 0 ++ "' assigns some but not all required fields; missing: " ++ slot 1 ++ "."
  | .cannotForward =>
    "Cannot forward '" ++ slot 0 ++ "': the type declares no zero-argument method with that name."
  | .excludedFieldMissing => "Excluded field '" ++ slot 0 ++ "' does not exist."
  | .emptyLockName => "@" ++ slot 0 ++ " requires a non-empty lock name."
  | .emptyConditionName => "@" ++ slot 0 ++ " requires a non-empty condition name."
  | .conditionMethodMissing => "Condition method '" ++ slot 0 ++ "()' not found."
  | .lockFieldType => "Field '" ++ slot 0 ++ "' must be of type " ++ slot 1 ++ " to be used as a lock."
  | .yieldReturnType =>
    "Method '" ++ slot 0 ++ "' uses yield() and must return java.util.Iterator or java.lang.Iterable."
  | .yieldParameterNotFinal =>
    "Parameter '" ++ slot 0 ++ "' must be final to be used in a generator method."
  | .yieldReturnsValue => "Generator methods cannot return a value; use 'return;' to end iteration."
  | .yieldInSynchronized => "yield() cannot be used inside a synchronized block."
  | .yieldNotStatement => "yield() must be used as a statement."
  | .yieldInNestedClass => "yield() cannot be used inside a nested class."
  | .yieldArgumentCount => "yield() takes exactly one argument."
  | .singletonExtends =>
    "@Singleton(style=ENUM) cannot be used on a type that extends '" ++ slot 0 ++ "'."
  | .listenerUnresolved => "Listener type '" ++ slot 0 ++ "' cannot be resolved."
  | .listenerNotInterface => "Listener type '" ++ slot 0 ++ "' must be an interface."
  | .listenerTypeMissing => "@ListenerSupport requires at least one listener interface."
  | .requiresMethod => "@" ++ slot 0 ++ " requires the type to declare '" ++ slot 1 ++ "'."
  | .methodsOnly => "@" ++ slot 0 ++ " can only be used on methods " ++ slot 1 ++ "."
  | .instanceFieldOnly => "@" ++ slot 0 ++ " can only be used on a non-static field."
  | .rethrowUnknownParameter =>
    "'$" ++ slot 0 ++ "' in the rethrow message is not a parameter of the method."
  | .notOnLocalClasses => "@" ++ slot 0 ++ " cannot be used on a local or anonymous class."
  | .internalFailure => "Internal error while handling @" ++ slot 0 ++ ": " ++ slot 1

/-- The text of a message for the given arguments. -/
def text (message : Message) (arguments : List String) : String :=
  fill message.template arguments

end Message

end JavaWeave.Diagnostic
