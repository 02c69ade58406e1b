import JavaWeave.Syntax.Tree

namespace JavaWeave.Syntax

namespace Expression

def null : Expression := .literal .null
def bool (value : Bool) : Expression := .literal (.bool value)
def int (value : Int32) : Expression := .literal (.int value)
def string (value : String) : Expression := .literal (.string value)

/-- The current object. -/
def self : Expression := .this none

/-- A field of the current object. -/
def ofSelf (name : String) : Expression := .field self name

/-- An unqualified call. -/
def callOwn (name : String) (arguments : List Expression) : Expression := .call none name [] arguments

/-- A call on a receiver. -/
def callOn (receiver : Expression) (name : String) (arguments : List Expression) : Expression :=
  .call (some receiver) name [] arguments

/-- An object creation without class body. -/
def make (type : JavaType) (arguments : List Expression) : Expression := .create type arguments none

/-- The creation of an instance of an anonymous class. -/
def makeAnonymous (type : JavaType) (arguments : List Expression) (body : TypeDecl) : Expression :=
  .create type arguments (some { body with isAnonymous := true })

def not (operand : Expression) : Expression := .unary .not operand

/-- The plain assignment. -/
def set (target value : Expression) : Expression := .assign none target value

def asName? : Expression → Option String
  | .name text => some text
  | _ => none

def asLiteral? : Expression → Option Literal
  | .literal value => some value
  | _ => none

/-- Whether the expression may stand as a statement. -/
def isStatementLike : Expression → Bool
  | .call .. | .create .. | .assign .. | .verbatim _ => true
  | .unary op _ => op.steps
  | _ => false

end Expression

/-- The value that a field of a type holds before its first assignment. -/
def JavaType.zero (type : JavaType) : Expression :=
  if type.isPrimitive then
    match type.name with
    | "boolean" => .bool false
    | "char" => .literal (.char (Char.ofNat 0))
    | "long" => .literal (.long 0)
    | "float" | "double" => .literal (.double 0.0)
    | _ => .int 0
  else .null

namespace Statement

/-- An assignment as a statement. -/
def set (target value : Expression) : Statement := .expression (.set target value)

def callOwn (name : String) (arguments : List Expression) : Statement :=
  .expression (.callOwn name arguments)

def callOn (receiver : Expression) (name : String) (arguments : List Expression) : Statement :=
  .expression (.callOn receiver name arguments)

/-- A conditional without alternative. -/
def whenever (condition : Expression) (body : Statement) : Statement := .ifElse condition body none

/-- Whether control never continues behind the statement. Of a block the last statement decides. -/
def isTerminal : Statement → Bool
  | .returns _ | .returnsDefault | .throws _ | .breaks _ | .continues _ => true
  | .block body => lastIsTerminal body
  | _ => false
where
  lastIsTerminal : List Statement → Bool
    | [] => false
    | [last] => last.isTerminal
    | _ :: rest => lastIsTerminal rest

end Statement

namespace Annotation

/-- The value of the first member with the given name. -/
def get? (note : Annotation) (name : String) : Option Expression :=
  (note.members.find? (·.name == name)).map (·.value)

/-- Whether the annotation's type has the given name, plainly or qualified. -/
def denotes (note : Annotation) (name : String) : Bool := note.type.isNamed name

end Annotation

/-- Whether a list of annotations has one of the given name. -/
def annotated (annotations : List Annotation) (name : String) : Bool :=
  annotations.any (·.denotes name)

namespace Parameter

/-- A parameter that is never assigned. -/
def final (type : JavaType) (name : String) : Parameter :=
  { type, name, modifiers := .ofList [.final] }

def isFinal (parameter : Parameter) : Bool := parameter.modifiers.has .final

end Parameter

/-- A local variable that is assigned once, at its declaration. -/
def LocalVariable.final (type : JavaType) (name : String) (initial : Expression) : LocalVariable :=
  { type, name, modifiers := .ofList [.final], initial := some initial }

namespace Field

def isStatic (field : Field) : Bool := field.modifiers.has .static

def isFinal (field : Field) : Bool := field.modifiers.has .final

end Field

namespace Method

def isStatic (method : Method) : Bool := method.modifiers.has .static

/-- Whether the method has nothing to run. -/
def isAbstract (method : Method) : Bool := method.bodiless || method.modifiers.has .abstract

def arity (method : Method) : Nat := method.parameters.length

end Method

namespace TypeDecl

def isInterface (type : TypeDecl) : Bool := type.kind == .interface

def isEnum (type : TypeDecl) : Bool := type.kind == .enum

def isStatic (type : TypeDecl) : Bool := type.modifiers.has .static

/-- The type of the current object inside the declaration: its name applied to its own parameters. -/
def selfType (type : TypeDecl) : JavaType :=
  (JavaType.named type.name).apply (type.typeParameters.map fun parameter => .named parameter.name)

def field? (type : TypeDecl) (name : String) : Option Field :=
  type.fields.find? (·.name == name)

def hasField (type : TypeDecl) (name : String) : Bool := (type.field? name).isSome

/-- Whether a method has a name and, if one is given, a number of parameters. -/
def answers (name : String) (arity : Option Nat) (method : Method) : Bool :=
  method.name == name && (match arity with | some n => method.arity == n | none => true)

def method? (type : TypeDecl) (name : String) (arity : Option Nat) : Option Method :=
  type.methods.find? (answers name arity)

def hasMethod (type : TypeDecl) (name : String) (arity : Option Nat) : Bool :=
  (type.method? name arity).isSome

def memberType? (type : TypeDecl) (name : String) : Option TypeDecl :=
  type.memberTypes.find? (·.name == name)

end TypeDecl

namespace CompilationUnit

/-- The type of a dotted path of simple names. -/
def findType? (unit : CompilationUnit) (name : String) : Option TypeDecl :=
  match Text.split '.' name with
  | [] => none
  | first :: rest =>
    rest.foldl (fun found segment => found.bind (·.memberType? segment))
      (unit.types.find? (·.name == first))

end CompilationUnit

end JavaWeave.Syntax
