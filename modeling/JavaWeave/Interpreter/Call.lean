import JavaWeave.Interpreter.Request

namespace JavaWeave.Interpreter

open Syntax

/-- What stands for the identity of an object in its text and hash code. -/
def identityHash (address : Address) : Int32 := Int32.ofNat address.index

def identityText (name : String) (address : Address) : String :=
  name ++ "@" ++ String.ofList (Nat.toDigits 16 address.index)

section

variable (perform : Performer)

/-- The text of an object whose class belongs to the program. -/
def instanceText (address : Address) (state : Instance) : Run String := do
  let classes ← classes
  match classes.method? state.type "toString" 0 with
  | some (owner, method) =>
    match ← perform (.invoke owner method (some address) []) with
    | .str text => return text
    | other => perform (.text other)
  | none =>
    let name := (classes.get state.type).name
    match state.constant, state.base with
    | some (constant, _), _ => return constant
    | none, some base => return Throwable.text name base.message
    | none, none => return identityText name address

/-- The text of a value. -/
def textOf : Value → Run String
  | .null => return "null"
  | .bool value => return if value then "true" else "false"
  | .int value => return toString value
  | .long value => return toString value
  | .double value => return doubleText value
  | .char value => return value.toString
  | .str value => return value
  | .ref address => do
    match (← heap).get? address with
    | some (.ofClass state) => instanceText perform address state
    | some (.list items) | some (.array items) =>
      let texts ← items.mapM fun item => perform (.text item)
      return "[" ++ ", ".intercalate texts ++ "]"
    | some (.map entries) =>
      let texts ← entries.mapM fun (key, value) => do
        let key ← perform (.text key)
        return key ++ "=" ++ (← perform (.text value))
      return "\x7b" ++ ", ".intercalate texts ++ "\x7d"
    | some (.throwable state) => return Throwable.text state.type state.message
    | some object => return identityText object.kind address
    | none => return "null"

/-- The state of a new exception, from the arguments of its constructor. -/
def throwableState (type : String) : List Value → Run Throwable
  | [] | [.null] => return { type }
  | [.str message] => return { type, message := some message }
  | [cause] => do return { type, message := some (← perform (.text cause)), cause }
  | [message, cause] => return { type, message := message.str?, cause }
  | arguments => fail (.unknownConstructor type arguments.length)

/-- A static field of a class of the program or of its superclasses. -/
def staticField (id : ClassId) (name : String) : Run Value := do
  match (← classes).staticOwner? id name with
  | some owner =>
    perform (.prepare owner)
    return ((← classInfo owner).state.statics.lookup name).getD .null
  | none => fail (.unknownField (← classInfo id).qualifiedName name)

/-- A static field of a type. -/
def staticMember (type : ClassRef) (name : String) : Run Value :=
  match type with
  | .user id => staticField perform id name
  | .library type => (Library.field? type name).getD (fail (.unknownField type name))

/-- A field of a value, its own or a static one of its class. -/
def fieldOf (target : Value) (name : String) : Run Value := do
  if target.isNull then
    raiseWith "NullPointerException" ("Cannot read field \"" ++ name ++ "\" on null")
  let heap ← heap
  match heap.object? target with
  | some (.ofClass state) =>
    match state.fields.lookup name with
    | some value => return value
    | none => staticField perform state.type name
  | some (.array items) =>
    if name == "length" then return .int (Int32.ofNat items.length)
    else fail (.unknownField (heap.kind target) name)
  | _ => fail (.unknownField (heap.kind target) name)

/-- The constant of an enum that has a name. -/
def constantNamed (heap : Heap) (constants : List Value) (name : String) : Option Value :=
  constants.find? fun constant => (heap.constant? constant).any fun (other, _) => other == name

/-- The two static methods that every enum has. -/
def enumMethod? (info : ClassInfo) (id : ClassId) (name : String) (arguments : List Value) :
    Option (Run Value) :=
  if !info.decl.isEnum then none
  else match name, arguments with
    | "values", [] => some do
      perform (.prepare id)
      allocate (.array (← classInfo id).state.constants)
    | "valueOf", [.str wanted] => some do
      perform (.prepare id)
      match constantNamed (← heap) (← classInfo id).state.constants wanted with
      | some constant => return constant
      | none =>
        raiseWith "IllegalArgumentException" ("No enum constant " ++ info.qualifiedName ++ "." ++ wanted)
    | _, _ => none

/-- Calls a static method of a class of the program. -/
def invokeStatic (id : ClassId) (name : String) (arguments : List Value) : Run Value := do
  let info ← classInfo id
  match enumMethod? perform info id name arguments with
  | some answer => answer
  | none =>
    match (← classes).method? id name arguments.length with
    | some (owner, method) => perform (.invoke owner method none arguments)
    | none => unknownMethod info.qualifiedName name arguments.length

/-- Calls a method that an object has without declaring it. -/
def callInherited (address : Address) (state : Instance) (name : String) (arguments : List Value) :
    Run Value := do
  match name, arguments, state.constant, state.base with
  | "toString", [], _, _ => return .str (← perform (.text (.ref address)))
  | "equals", [other], _, _ => return .bool (Value.same (.ref address) other)
  | "hashCode", [], _, _ => return .int (identityHash address)
  | "name", [], some (constant, _), _ => return .str constant
  | "ordinal", [], some (_, ordinal), _ => return .int ordinal
  | "compareTo", [other], some (_, ordinal), _ =>
    return .int (ordinal - (((← heap).constant? other).map (·.2)).getD 0)
  | "getMessage", [], _, some base | "getLocalizedMessage", [], _, some base =>
    return (base.message.map Value.str).getD .null
  | "getCause", [], _, some base => return base.cause
  | name, arguments, _, _ =>
    unknownMethod (← classInfo state.type).qualifiedName name arguments.length

/-- Calls a method of an object of the library. -/
def callLibraryObject (address : Address) (object : Object) (name : String) (arguments : List Value) :
    Run Value := do
  match object, name, arguments with
  | .plain .printer, "println", arguments => printed arguments "\n"
  | .plain .printer, "print", arguments => printed arguments ""
  | _, "toString", [] => return .str (← perform (.text (.ref address)))
  | _, "equals", [other] => return .bool (Value.same (.ref address) other)
  | _, "hashCode", [] => return .int (identityHash address)
  | object, name, arguments => callObject address object name arguments
where
  /-- Prints the first argument. -/
  printed (arguments : List Value) (ending : String) : Run Value := do
    let text ← match arguments.head? with
      | some value => perform (.text value)
      | none => pure ""
    print (text ++ ending)
    return .null

/-- Calls a method of a value. -/
def dispatch (receiver : Value) (name : String) (arguments : List Value) : Run Value := do
  match receiver with
  | .null => raiseWith "NullPointerException" ("Cannot invoke \"" ++ name ++ "()\" on null")
  | .str text => callText text name arguments
  | .ref address =>
    match (← heap).get? address with
    | some (.ofClass state) =>
      match (← classes).method? state.type name arguments.length with
      | some (owner, method) => perform (.invoke owner method (some address) arguments)
      | none => callInherited perform address state name arguments
    | some object => callLibraryObject perform address object name arguments
    | none => unknownMethod "object" name arguments.length
  | value =>
    match name, arguments with
    | "toString", [] => return .str (← perform (.text value))
    | name, arguments => callBoxed value name arguments

/-- Runs an action. A thrown value that has to be declared comes out as the cause of another. -/
def privileged (action : Value) : Run Value :=
  tryCatch (dispatch perform action "run" []) fun
    | .thrown thrown => do
      if (← get).isChecked thrown then
        raise "PrivilegedActionException" (some (← perform (.text thrown))) thrown
      else throw (.thrown thrown)
    | unwind => throw unwind

/-- Fills a format with the texts of values. -/
def formatted (template : Value) (values : List Value) : Run Value := do
  let template ← needed "String" template Value.str?
  let texts ← values.mapM fun value => perform (.text value)
  match fillSlots template.toList texts with
  | .ok text => return .str (String.ofList text)
  | .error sign =>
    raiseWith "MissingFormatArgumentException" ("Format specifier '%" ++ sign.toString ++ "'")

/-- Calls a static method of a library class. -/
def callLibrary (type name : String) (arguments : List Value) : Run Value := do
  match type, name, arguments with
  | "String", "valueOf", [value] | "Integer", "toString", [value] | "Long", "toString", [value]
  | "Double", "toString", [value] | "Boolean", "toString", [value] | "Character", "toString", [value]
  | "Objects", "toString", [value] => return .str (← perform (.text value))
  | "String", "format", template :: values => formatted perform template values
  | "EventQueue", "invokeLater", [task] | "EventQueue", "invokeAndWait", [task]
  | "SwingUtilities", "invokeLater", [task] | "SwingUtilities", "invokeAndWait", [task] =>
    discard (dispatch perform task "run" [])
    return .null
  | "AccessController", "doPrivileged", action :: _ => privileged perform action
  | type, name, arguments =>
    (Library.method? type name arguments).getD (unknownMethod type name arguments.length)

end

end JavaWeave.Interpreter
