import JavaWeave.Interpreter.Statement

namespace JavaWeave.Interpreter

open Syntax

/-- Calls that are nested deeper end in an exception. -/
def depthLimit : Nat := 200

/-- The meaning of expressions and calls, given how requests are answered. -/
def Meaning.ofPerformer (perform : Performer) : Meaning where
  eval := Interpreter.eval perform
  call receiver name arguments := dispatch perform receiver name arguments

/-- Gives parameters their values. -/
def bindParameters (parameters : List Parameter) (arguments : List Value) : Code Unit :=
  (parameters.zip arguments).forM fun (parameter, value) =>
    modifyFrame (.declare parameter.name (coerce parameter.type value))

/-- What a body that ends in a given way returns. No jump may leave it. -/
def returned : Flow → Run (Option Value)
  | .normal => return none
  | .returns value => return some value
  | .breaks _ => fail (.strayJump "break")
  | .continues _ => fail (.strayJump "continue")

def setStage (id : ClassId) (stage : Stage) : Run Unit :=
  modifyClasses (·.modifyState id fun state => { state with stage })

/-- Adds a constant to those of an enum. -/
def addConstant (id : ClassId) (name : String) (value : Value) : Run Unit :=
  modifyClasses (·.modifyState id fun state =>
    { state with statics := state.statics.put name value, constants := state.constants ++ [value] })

section

variable (perform : Performer) (fuel : Nat)

/-- Runs statements of the program. -/
def runAll (statements : List Statement) : Code Flow :=
  execAll (.ofPerformer perform) fuel statements

/-- Makes the constants of an enum. -/
def makeConstants (id : ClassId) (constants : List EnumConstant) : Code Unit :=
  constants.zipIdx.forM fun (constant, ordinal) => do
    let arguments ← evalAll perform constant.arguments
    let value ← perform (.construct id arguments { constant := some (constant.name, Int32.ofNat ordinal) })
    addConstant id constant.name value

/-- Evaluates the initializers of fields and stores what they give. -/
def evalFields (fields : List Field) (assign : String → Value → Run Unit) : Code Unit :=
  fields.forM fun field => do
    if let some initial := field.initial then
      assign field.name (coerce field.type (← eval perform initial))

/-- Runs initializer blocks. -/
def runInitializers (initializers : List Initializer) : Code Unit :=
  initializers.forM fun initializer => discard (runAll perform fuel initializer.body)

/-- Initializes the static part of a class unless that was begun before: the superclass first, then
constants, fields and blocks in their order. -/
def prepare (id : ClassId) : Run Unit := do
  let info ← classInfo id
  if info.state.stage != .pending then return
  setStage id .running
  if let some (.user above) := info.superclass then perform (.prepare above)
  let fields := staticFields info.decl
  fields.forM fun field => setStatic id field.name (.zero field.type)
  Code.within { type := id } do
    makeConstants perform id info.decl.constants
    evalFields perform fields (setStatic id)
    runInitializers perform fuel (info.decl.initializers.filter (·.isStatic))
  setStage id .done

/-- The fields of a new object; a field of a subclass hides one of the same name above. -/
def initialFields (classes : ClassTable) (id : ClassId) : Bindings Value :=
  ((classes.chain id).flatMap fun type => instanceFields (classes.get type).decl).foldl
    (fun fields field => if fields.has field.name then fields else fields ++ [(field.name, .zero field.type)])
    []

/-- Makes an object and runs its constructor. -/
def construct (id : ClassId) (arguments : List Value) (creation : Creation) : Run Value := do
  let info ← classInfo id
  if info.decl.isInterface || info.decl.modifiers.has .abstract then
    fail (.notInstantiable info.qualifiedName)
  perform (.prepare id)
  let address ← allocateAt (.ofClass
    { type := id
      fields := initialFields (← classes) id
      outers := creation.outers
      captured := creation.captured
      constant := creation.constant })
  perform (.runConstructor id address arguments)
  return .ref address

/-- Runs the constructor of the superclass. -/
def runSuper (superclass : Option ClassRef) (self : Address) (arguments : List Value) : Run Unit := do
  match superclass with
  | some (.user above) => perform (.runConstructor above self arguments)
  | some (.library name) =>
    if Library.isThrowable name then
      let base ← throwableState perform name arguments
      modifyInstance self fun state => { state with base := some base }
  | none => return

/-- Runs what initializes the fields of an object that a class declares. -/
def initFields (id : ClassId) (decl : TypeDecl) (self : Address) : Run Unit :=
  Code.within { type := id, self := some self } do
    evalFields perform (instanceFields decl) (setField self)
    runInitializers perform fuel (decl.initializers.filter fun initializer => !initializer.isStatic)

/-- Runs what comes before the body of a constructor: another constructor of the class, or one of the
superclass and the initializers. What is left is the body. -/
def beginConstructor (id : ClassId) (info : ClassInfo) (self : Address) (body : List Statement) :
    Code (List Statement) := do
  match body with
  | .expression (.call none "this" _ arguments) :: rest =>
    perform (.runConstructor id self (← evalAll perform arguments))
    return rest
  | .expression (.call none "super" _ arguments) :: rest =>
    runSuper perform info.superclass self (← evalAll perform arguments)
    initFields perform fuel id info.decl self
    return rest
  | body =>
    runSuper perform info.superclass self []
    initFields perform fuel id info.decl self
    return body

/-- Runs the constructor that takes as many arguments. A class without constructors has one that takes none;
an anonymous class hands its arguments on. -/
def runConstructor (id : ClassId) (self : Address) (arguments : List Value) : Run Unit := do
  let info ← classInfo id
  match info.decl.constructors.find? fun candidate => candidate.parameters.length == arguments.length with
  | some chosen =>
    Code.within { type := id, self := some self } do
      bindParameters chosen.parameters arguments
      let body ← beginConstructor perform fuel id info self chosen.body
      discard (returned (← runAll perform fuel body))
  | none =>
    if info.decl.constructors.isEmpty && (arguments.isEmpty || info.nesting == .anonymous) then
      runSuper perform info.superclass self arguments
      initFields perform fuel id info.decl self
    else fail (.unknownConstructor info.qualifiedName arguments.length)

/-- Runs the body of a method. -/
def runMethod (owner : ClassId) (method : Method) (self : Option Address) (arguments : List Value) :
    Run Value :=
  Code.within
    { type := owner
      self := if method.isStatic then none else self
      returnType := method.returnType } do
    bindParameters method.parameters arguments
    let result ← returned (← runAll perform fuel method.body)
    return (result.map (coerce method.returnType)).getD .null

/-- Counts a call while it runs, however it ends. -/
def counted (action : Run α) : Run α := do
  modify fun world => { world with depth := world.depth + 1 }
  let result ← ExceptT.mk (Except.ok <$> action.run)
  modify fun world => { world with depth := world.depth - 1 }
  ExceptT.mk (pure result)

/-- Runs a method. -/
def invoke (owner : ClassId) (method : Method) (self : Option Address) (arguments : List Value) :
    Run Value := do
  if method.isStatic then perform (.prepare owner)
  if (← get).depth ≥ depthLimit then raiseBare "StackOverflowError"
  counted (runMethod perform fuel owner method self arguments)

/-- Answers a request, given how further requests are answered. -/
def answer : Performer
  | .invoke owner method self arguments => invoke perform fuel owner method self arguments
  | .construct id arguments creation => construct perform id arguments creation
  | .runConstructor id self arguments => runConstructor perform fuel id self arguments
  | .prepare id => prepare perform fuel id
  | .text value => textOf perform value

end

/-- Answers requests that are nested at most as deep as there is fuel. -/
def performer : Nat → Performer
  | 0, _ => throw .outOfFuel
  | fuel + 1, request => answer (performer fuel) fuel request

end JavaWeave.Interpreter
