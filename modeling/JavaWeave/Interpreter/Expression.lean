import JavaWeave.Interpreter.Number
import JavaWeave.Interpreter.Scope

namespace JavaWeave.Interpreter

open Syntax

/-- A nested array, given its sizes and what its innermost elements hold. -/
def makeArray (leaf : Value) : List Nat → Run Value
  | [] => pure leaf
  | size :: rest => do
    let items ← (List.replicate size ()).mapM fun _ => makeArray leaf rest
    allocate (.array items)

/-- The size of a dimension. -/
def arraySize (value : Value) : Run Nat := do
  let size ← needed "int" value Value.int?
  if size < 0 then raiseWith "NegativeArraySizeException" (toString size)
  return size.toInt.toNat

/-- The place of an element. -/
def elementPlace (array index : Value) : Run (Address × Nat) := do
  let index ← needed "int" index Value.int?
  match array with
  | .null => raiseBare "NullPointerException"
  | .ref address =>
    match (← heap).get? address with
    | some (.array items) =>
      if 0 ≤ index.toInt && index.toInt < items.length then return (address, index.toInt.toNat)
      raiseWith "ArrayIndexOutOfBoundsException"
        ("Index " ++ toString index ++ " out of bounds for length " ++ toString items.length)
    | _ => mismatch "array" array
  | other => mismatch "array" other

/-- Whether a condition holds. -/
def truth (condition : Code Value) : Code Bool := do
  let value ← condition
  needed "boolean" value Value.bool?

section

variable (perform : Performer)

/-- The result of an operator. A sum with a text is a text. -/
def operate (op : BinaryOp) (left right : Value) : Run Value := do
  if op = .add && (left.str?.isSome || right.str?.isSome) then
    let front ← perform (.text left)
    return .str (front ++ (← perform (.text right)))
  match binaryResult op left right with
  | .ok value => return value
  | .error .divisionByZero => raiseWith "ArithmeticException" "/ by zero"
  | .error .operands =>
    let heap ← heap
    unsupported (.binary op (heap.kind left) (heap.kind right))

/-- The result of an operator on one value. -/
def operateOne (op : UnaryOp) (operand : Value) : Run Value := do
  match unaryResult op operand with
  | some value => return value
  | none => unsupported (.unary op ((← heap).kind operand))

/-- Changes a place by one. The operator tells which of the two values is the result. -/
def stepPlace (op : UnaryOp) (place : Place) : Code Value := do
  let current ← readPlace place
  let updated ← needed "number" current (stepped (op = .preInc || op = .postInc))
  writePlace place updated
  return if op = .preInc || op = .preDec then updated else current

/-- Assigns a place, whose value is read before that of the right side. -/
def assignPlace (op : Option BinaryOp) (place : Place) (right : Code Value) : Code Value := do
  let current ← readPlace place
  let value ← right
  let value ← match op with
    | none => pure value
    | some op => operate perform op current value
  let value := conform op.isSome current value
  writePlace place value
  return value

/-- A value that is said to be of a type. -/
def castTo (type : JavaType) (value : Value) : Code Value := do
  if type.isPrimitive then needed "primitive" value (convert type.name)
  else if value.isNull then return value
  else
    let world ← getThe World
    let checkable := type.dimensions > 0 || (resolveType world.classes (← frame) type.name).isSome
    if checkable && !world.isInstance value type then
      raiseWith "ClassCastException" (world.typeName value ++ " cannot be cast to " ++ type.name)
    else return value

/-- The class of a declaration inside of the running code. -/
def enterClass (decl : TypeDecl) (base : Option JavaType) : Code ClassId := do
  let (id, table) := (← classes).nested decl (← frame).type base
  modifyClasses fun _ => table
  return id

/-- Makes an object of a type, or one of an anonymous class. -/
def create (type : JavaType) (body : Option TypeDecl) (arguments : List Value) : Code Value := do
  match body with
  | some body =>
    let id ← enterClass body (some type)
    let frame ← frame
    let outers := (currentObjects (← heap) frame).map (·.1)
    perform (.construct id arguments { outers, captured := frame.visible })
  | none =>
    let frame ← frame
    let world ← getThe World
    match resolveType world.classes frame type.name with
    | some (.user id) => perform (.construct id arguments (creationFor world frame id))
    | some (.library name) =>
      if Library.isThrowable name then
        let state ← throwableState perform name arguments
        allocate (.throwable state)
      else (Library.construct? name arguments).getD (fail (.notInstantiable name))
    | none => fail (.unknownType type.name)

/-- Calls a method of what stands in front of the dot. -/
def callOn (receiver : Receiver) (name : String) (arguments : List Value) : Run Value :=
  match receiver with
  | .type (.user id) => invokeStatic perform id name arguments
  | .type (.library type) => callLibrary perform type name arguments
  | .value value => dispatch perform value name arguments

/-- A field of what stands in front of the dot. -/
def fieldOn (receiver : Receiver) (name : String) : Run Value :=
  match receiver with
  | .type type => staticMember perform type name
  | .value value => fieldOf perform value name

mutual

/-- The value of an expression. -/
def eval : Expression → Code Value
  | .name name => evalName perform name
  | .this qualifier => currentObject qualifier
  | .field receiver name => do fieldOn perform (← asReceiver perform receiver (eval receiver)) name
  | .element array index => do
    let array ← eval array
    let (address, index) ← elementPlace array (← eval index)
    readPlace (.element address index)
  | .call none name _ arguments => do callUnqualified perform name (← evalAll arguments)
  | .call (some receiver) name _ arguments => do
    if receiver.asName? == some "super" then callSuper perform name (← evalAll arguments)
    else
      let receiver ← asReceiver perform receiver (eval receiver)
      callOn perform receiver name (← evalAll arguments)
  | .create type arguments body => do create perform type body (← evalAll arguments)
  | .createArray _ _ _ (some elements) => do allocate (.array (← evalAll elements))
  | .createArray element sizes unsized none => do
    let sizes ← evalSizes sizes
    makeArray (if unsized > 0 then .null else .zero element) sizes
  | .arrayElements elements => do allocate (.array (← evalAll elements))
  | .binary .and left right => do
    if ← truth (eval left) then return .bool (← truth (eval right)) else return .bool false
  | .binary .or left right => do
    if ← truth (eval left) then return .bool true else return .bool (← truth (eval right))
  | .binary op left right => do
    let left ← eval left
    operate perform op left (← eval right)
  | .unary op operand => do
    if op.steps then stepPlace op (← evalPlace operand) else operateOne op (← eval operand)
  | .assign op target value => do assignPlace perform op (← evalPlace target) (eval value)
  | .instanceOf operand type => do
    let value ← eval operand
    return .bool ((← getThe World).isInstance value type)
  | .cast type operand => do castTo type (← eval operand)
  | .conditional condition whenTrue whenFalse => do
    if ← truth (eval condition) then eval whenTrue else eval whenFalse
  | .literal value => return .ofLiteral value
  | .classLiteral type => return .str type.name
  | .note note => unsupported (.annotationValue note.type.name)
  | .verbatim text => unsupported (.verbatimExpression text)

/-- The values of expressions, from the first on. -/
def evalAll : List Expression → Code (List Value)
  | [] => return []
  | expression :: rest => do
    let value ← eval expression
    return value :: (← evalAll rest)

/-- The sizes of dimensions; each is checked before the next is evaluated. -/
def evalSizes : List Expression → Code (List Nat)
  | [] => return []
  | expression :: rest => do
    let size ← arraySize (← eval expression)
    return size :: (← evalSizes rest)

/-- The place that an expression stands for. -/
def evalPlace : Expression → Code Place
  | .name name => do
    match (Text.split '.' name).reverse with
    | member :: first :: rest =>
      let receiver ← receiverNamed perform (".".intercalate (first :: rest).reverse)
      memberPlace perform receiver member
    | _ => placeNamed perform name
  | .field receiver name => do memberPlace perform (← asReceiver perform receiver (eval receiver)) name
  | .element array index => do
    let array ← eval array
    let (address, index) ← elementPlace array (← eval index)
    return .element address index
  | _ => unsupported .assignedNonVariable

end

end

end JavaWeave.Interpreter
