import JavaWeave.Interpreter.Call

namespace JavaWeave.Interpreter

open Syntax

/-- What stands left of a dot. -/
inductive Receiver where
  | value (value : Value)
  | type (type : ClassRef)

/-- What can be assigned. -/
inductive Place where
  | slot (name : String)
  | field (object : Address) (name : String)
  | static (owner : ClassId) (name : String)
  | element (array : Address) (index : Nat)

/-- The current object and the objects around it, from the nearest on. -/
def currentObjects (heap : Heap) (frame : Frame) : List (Address × Instance) :=
  let withState (address : Address) : Option (Address × Instance) :=
    (heap.instance? (.ref address)).map (address, ·)
  match frame.self.bind withState with
  | none => []
  | some (address, state) => (address, state) :: state.outers.filterMap withState

/-- The nearest current object that is of a class. -/
def currentOf? (world : World) (frame : Frame) (id : ClassId) : Option Address :=
  ((currentObjects world.heap frame).find? fun (_, state) => world.classes.isSubclass state.type id).map (·.1)

/-- What the name of a type stands for; types that a block declares come first. -/
def resolveType (classes : ClassTable) (frame : Frame) (name : String) : Option ClassRef :=
  match Text.split '.' name with
  | [] => none
  | first :: rest =>
    match frame.type? first with
    | some id => (rest.foldlM classes.member? id).map .user
    | none => classes.resolve (some frame.type) name

/-- The class that declares a static field which code may name without its class. -/
def staticInScope? (classes : ClassTable) (frame : Frame) (name : String) : Option ClassId :=
  (classes.lexical frame.type).findSome? fun id => classes.staticOwner? id name

/-- Where a new object of a class belongs. -/
def creationFor (world : World) (frame : Frame) (id : ClassId) : Creation :=
  let info := world.classes.get id
  let here := currentObjects world.heap frame
  let addresses (objects : List (Address × Instance)) : List Address := objects.map (·.1)
  match info.nesting with
  | .topLevel => {}
  | .member =>
    match info.enclosing.head? with
    | some outer =>
      if info.isInner then
        { outers := addresses (here.dropWhile fun (_, state) => !world.classes.isSubclass state.type outer) }
      else {}
    | none => {}
  | .inCode | .anonymous =>
    if frame.type? info.name == some id then { outers := addresses here, captured := frame.visible }
    else match here.find? fun (_, state) => state.type == id with
      -- Made by code of its own class: what one object sees the other sees too.
      | some (_, state) => { outers := state.outers, captured := state.captured }
      | none => { outers := addresses here }

section

variable (perform : Performer)

/-- What a simple name stands for: a variable, a field or captured variable of a current object, or a static
field of a class around the code. -/
def lookup (name : String) : Code (Option Value) := do
  let frame ← frame
  if let some value := frame.get? name then return some value
  let found := (currentObjects (← heap) frame).findSome? fun (_, state) =>
    (state.fields.lookup name).or (state.captured.lookup name)
  if let some value := found then return some value
  match staticInScope? (← classes) frame name with
  | some owner =>
    perform (.prepare owner)
    return (← classInfo owner).state.statics.lookup name
  | none => return none

/-- Reads fields one after the other. -/
def readFields (start : Value) (names : List String) : Run Value := names.foldlM (fieldOf perform) start

/-- The longest part of a dotted name that is the name of a type, and what follows it. -/
def typeInFront? (classes : ClassTable) (frame : Frame) (segments : List String) :
    Option (ClassRef × List String) :=
  ((List.range segments.length).drop 1).reverse.findSome? fun count =>
    (resolveType classes frame (".".intercalate (segments.take count))).map (·, segments.drop count)

/-- The value of a simple or dotted name. -/
def evalName (name : String) : Code Value := do
  if let some value ← lookup perform name then return value
  match Text.split '.' name with
  | first :: second :: rest =>
    if let some value ← lookup perform first then return ← readFields perform value (second :: rest)
    match typeInFront? (← classes) (← frame) (first :: second :: rest) with
    | some (type, member :: rest) => readFields perform (← staticMember perform type member) rest
    | _ => fail (.unknownName name)
  | _ => fail (.unknownName name)

/-- A name in front of a dot: a type unless its first part is a variable or field. -/
def receiverNamed (name : String) : Code Receiver := do
  let first := (Text.split '.' name).headD name
  if (← lookup perform first).isNone then
    if let some type := resolveType (← classes) (← frame) name then return .type type
  return .value (← evalName perform name)

/-- What an expression in front of a dot is, given how to evaluate it. -/
def asReceiver (expression : Expression) (evaluated : Code Value) : Code Receiver :=
  match expression with
  | .name name => receiverNamed perform name
  | _ => Receiver.value <$> evaluated

/-- The current object, or the one of the class that is named. -/
def currentObject (qualifier : Option String) : Code Value := do
  let frame ← frame
  match frame.self, qualifier with
  | none, _ => unsupported .thisInStatic
  | some self, none => return .ref self
  | some _, some qualifier =>
    let world ← getThe World
    match resolveType world.classes frame qualifier with
    | some (.user id) =>
      match currentOf? world frame id with
      | some address => return .ref address
      | none => fail (.unknownName (qualifier ++ ".this"))
    | _ => fail (.unknownName (qualifier ++ ".this"))

/-- The first class around the code that answers an unqualified call. -/
def callInClass? (name : String) (arguments : List Value) (world : World) (frame : Frame) (id : ClassId) :
    Option (Run Value) :=
  (enumMethod? perform (world.classes.get id) id name arguments).or do
    let (owner, method) ← world.classes.method? id name arguments.length
    if method.isStatic then return perform (.invoke owner method none arguments)
    else match currentOf? world frame id with
      | some address => return dispatch perform (.ref address) name arguments
      | none => return unsupported (.instanceMethodInStatic name)

/-- Calls a method without receiver. The innermost class around the code that has the method decides, and
its current object is the receiver. -/
def callUnqualified (name : String) (arguments : List Value) : Code Value := do
  if name == "this" || name == "super" then unsupported (.constructorCall name)
  let world ← getThe World
  let frame ← frame
  match (world.classes.lexical frame.type).findSome? (callInClass? perform name arguments world frame) with
  | some answer => answer
  | none =>
    match frame.self with
    | some self => dispatch perform (.ref self) name arguments
    | none => unknownMethod (world.classes.get frame.type).qualifiedName name arguments.length

/-- Calls a method of the superclass on the current object. -/
def callSuper (name : String) (arguments : List Value) : Code Value := do
  let frame ← frame
  let world ← getThe World
  match frame.self with
  | none => unsupported .superInStatic
  | some self =>
    let method := match (world.classes.get frame.type).superclass with
      | some (.user above) => world.classes.method? above name arguments.length
      | _ => none
    match method, world.heap.get? self with
    | some (owner, method), _ => perform (.invoke owner method (some self) arguments)
    | none, some (.ofClass state) => callInherited perform self state name arguments
    | none, _ => unsupported (.superOfLibraryObject (world.heap.kind (.ref self)) name)

/-- The place of a simple name. -/
def placeNamed (name : String) : Code Place := do
  let frame ← frame
  if (frame.get? name).isSome then return .slot name
  match (currentObjects (← heap) frame).find? fun (_, state) => state.fields.has name with
  | some (address, _) => return .field address name
  | none =>
    match staticInScope? (← classes) frame name with
    | some owner =>
      perform (.prepare owner)
      return .static owner name
    | none => fail (.unknownName name)

/-- The place of a static field. -/
def staticPlace (id : ClassId) (name : String) : Run Place := do
  match (← classes).staticOwner? id name with
  | some owner =>
    perform (.prepare owner)
    return .static owner name
  | none => fail (.unknownField (← classInfo id).qualifiedName name)

/-- The place of a member. -/
def memberPlace (receiver : Receiver) (name : String) : Run Place := do
  match receiver with
  | .type (.user id) => staticPlace perform id name
  | .type (.library type) => unsupported (.assignedLibraryField type name)
  | .value (.ref address) =>
    match (← heap).get? address with
    | some (.ofClass state) =>
      if state.fields.has name then return .field address name else staticPlace perform state.type name
    | _ => fail (.unknownField ((← heap).kind (.ref address)) name)
  | .value .null =>
    raiseWith "NullPointerException" ("Cannot assign field \"" ++ name ++ "\" on null")
  | .value other => mismatch "object" other

end

/-- What a place holds. -/
def readPlace : Place → Code Value
  | .slot name => return ((← frame).get? name).getD .null
  | .field object name => return (((← heap).instance? (.ref object)).bind (·.fields.lookup name)).getD .null
  | .static owner name => return ((← classInfo owner).state.statics.lookup name).getD .null
  | .element array index =>
    return (((← heap).items? (.ref array)).bind fun items => items[index]?).getD .null

def setStatic (owner : ClassId) (name : String) (value : Value) : Run Unit :=
  modifyClasses (·.modifyState owner fun state => { state with statics := state.statics.put name value })

def setField (object : Address) (name : String) (value : Value) : Run Unit :=
  modifyInstance object fun state => { state with fields := state.fields.put name value }

/-- Makes a place hold a value. -/
def writePlace (place : Place) (value : Value) : Code Unit := do
  match place with
  | .slot name => modifyFrame (.assign name value)
  | .field object name => setField object name value
  | .static owner name => setStatic owner name value
  | .element array index =>
    if let some (.array items) := (← heap).get? array then store array (.array (items.set index value))

end JavaWeave.Interpreter
