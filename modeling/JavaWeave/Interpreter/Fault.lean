import JavaWeave.Syntax.Operator

namespace JavaWeave.Interpreter

open Syntax

/-- What is written but cannot be run. -/
inductive Limit where
  | binary (op : BinaryOp) (left right : String)
  | unary (op : UnaryOp) (operand : String)
  | thisInStatic
  | superInStatic
  /-- A call of another constructor that is not the first statement of one. -/
  | constructorCall (name : String)
  | instanceMethodInStatic (name : String)
  | annotationValue (name : String)
  | verbatimExpression (text : String)
  | verbatimStatement (text : String)
  | assignedNonVariable
  | assignedLibraryField (type name : String)
  | superOfLibraryObject (kind name : String)
  deriving DecidableEq, Repr

def Limit.text : Limit → String
  | .binary op left right => "'" ++ op.symbol ++ "' on " ++ left ++ " and " ++ right
  | .unary op operand => "'" ++ op.symbol ++ "' on " ++ operand
  | .thisInStatic => "`this` in a static context"
  | .superInStatic => "`super` in a static context"
  | .constructorCall name => name ++ "(...) outside a constructor's first statement"
  | .instanceMethodInStatic name => "instance method " ++ name ++ "() from a static context"
  | .annotationValue name => "annotation @" ++ name ++ " as a value"
  | .verbatimExpression text => "verbatim expression `" ++ text ++ "`"
  | .verbatimStatement text => "verbatim statement `" ++ text ++ "`"
  | .assignedNonVariable => "assignment to a non-variable"
  | .assignedLibraryField type name => "assignment to " ++ type ++ "." ++ name
  | .superOfLibraryObject kind name => kind ++ "." ++ name ++ "()"

inductive Fault where
  | unknownType (name : String)
  | unknownName (name : String)
  | unknownMethod (owner name : String) (arity : Nat)
  | unknownField (owner name : String)
  | unknownConstructor (type : String) (arity : Nat)
  | notInstantiable (type : String)
  | mismatch (expected found : String)
  | strayJump (word : String)
  | unsupported (limit : Limit)
  | wouldBlock
  /-- An exception that nothing catches. -/
  | uncaught (type : String) (message : Option String)
  /-- The run was given too few steps to end. -/
  | outOfFuel
  deriving DecidableEq, Repr

def Fault.message : Fault → String
  | .unknownType name => "unknown type '" ++ name ++ "'"
  | .unknownName name => "unknown name '" ++ name ++ "'"
  | .unknownMethod owner name arity =>
    owner ++ " has no method " ++ name ++ " taking " ++ toString arity ++ " arguments"
  | .unknownField owner name => owner ++ " has no field '" ++ name ++ "'"
  | .unknownConstructor type arity =>
    type ++ " has no constructor taking " ++ toString arity ++ " arguments"
  | .notInstantiable type => "cannot instantiate " ++ type
  | .mismatch expected found => "expected " ++ expected ++ ", found " ++ found
  | .strayJump word => "'" ++ word ++ "' outside of a loop or switch"
  | .unsupported limit => limit.text ++ " is not supported by the interpreter"
  | .wouldBlock => "await() would block forever on a single thread"
  | .uncaught type message => "uncaught " ++ type ++ (message.map (": " ++ ·)).getD ""
  | .outOfFuel => "out of steps"

end JavaWeave.Interpreter
