import JavaWeave.Generator.Completion
import JavaWeave.Generator.Machine
import JavaWeave.Generator.Yield

/-! From the body of a generator to its machine. The body is cut at every yield and wherever control flow that
contains one meets; statements without yield are carried over whole, together with the places their jumps go
to. -/

namespace JavaWeave.Generator

open Syntax

/-- A statement that jumps can leave. -/
structure Frame where
  label : Option String
  onBreak : Nat
  onContinue : Option Nat
  /-- A plain `break` leaves the statement. -/
  breakable : Bool
  /-- How many finalizers stand around the statement. -/
  depth : Nat
  deriving DecidableEq, Repr

/-- What is known about the names that a body does not declare. -/
structure Surroundings where
  parameters : List (String × JavaType) := []
  fields : List (String × JavaType) := []

/-- A machine in the making. -/
structure Compilation where
  states : List State := [{}]
  layout : List Nat := [0]
  regions : List Region := []
  /-- The state that operations are added to. -/
  current : Nat := 0
  /-- The current state ends in a transfer. -/
  closed : Bool := false
  context : Context := []
  /-- The statements around, the innermost first. -/
  frames : List Frame := []
  /-- The regions around that have finalizers and the states these begin with, the outermost first. -/
  finalizers : List (Nat × Nat) := []
  lifted : List (String × JavaType) := []
  /-- How many loops over elements there have been. -/
  loops : Nat := 0

namespace Compilation

/-- The transfer to a target out of the finalizers beyond a depth: each goes on with the one around it, the
outermost with the target. -/
def route (compilation : Compilation) (target : Target) (depth : Nat) : Route :=
  (compilation.finalizers.drop depth).foldl
    (fun route (region, entry) =>
      { continuations := route.continuations ++ [(region, route.target)], target := .state entry })
    (.direct target)

/-- Where jumps go from here. -/
def exits (compilation : Compilation) : Exits :=
  let leave (frame : Frame) := compilation.route (.state frame.onBreak) frame.depth
  let again (frame : Frame) := frame.onContinue.map fun state => compilation.route (.state state) frame.depth
  { onBreak := (compilation.frames.find? (·.breakable)).map leave
    onContinue := compilation.frames.findSome? again
    labels := compilation.frames.reverse.filterMap fun frame =>
      frame.label.map fun label => { label, onBreak := leave frame, onContinue := again frame }
    onReturn := compilation.route .done 0 }

end Compilation

/-- The steps of a compilation. -/
abbrev Compiling := ReaderT Surroundings (StateM Compilation)

/-- A new state in the current context. -/
def newState : Compiling Nat := do
  let c ← get
  set ({ c with states := c.states ++ [{ context := c.context }] } : Compilation)
  return c.states.length

/-- Goes on in a state. -/
def startState (id : Nat) : Compiling Unit :=
  modify fun c => { c with current := id, closed := false, layout := c.layout ++ [id] }

/-- Adds an operation to the current state. Behind a transfer it starts a state that nothing leads to. -/
def emit (op : Op) : Compiling Unit := do
  if (← get).closed then startState (← newState)
  modify fun c =>
    { c with states := c.states.modify c.current fun state => { state with ops := state.ops ++ [op] } }

/-- Ends the current state. -/
def close : Compiling Unit := modify fun c => { c with closed := true }

/-- Ends the current state with a transfer. -/
def terminate (op : Op) : Compiling Unit := do
  emit op
  close

/-- Transfers control unless it has been transferred already. -/
def jumpBy (route : Route) : Compiling Unit := do
  unless (← get).closed do terminate (.jump route)

def jumpTo (id : Nat) : Compiling Unit := jumpBy (.direct (.state id))

/-- Goes on in a state, and lets the current one lead to it. -/
def enter (id : Nat) : Compiling Unit := do
  jumpTo id
  startState id

/-- Makes a variable one that lives across states. -/
def liftVariable (name : String) (type : JavaType) : Compiling Unit :=
  modify fun c => { c with lifted := lift c.lifted name type }

/-- Compiles a part that jumps can leave. -/
def withinFrame (label : Option String) (onBreak : Nat) (onContinue : Option Nat) (breakable : Bool)
    (part : Compiling Unit) : Compiling Unit := do
  let frames := (← get).frames
  modify fun c =>
    let frame := { label, onBreak, onContinue, breakable, depth := c.finalizers.length }
    { c with frames := frame :: c.frames }
  part
  modify fun c => { c with frames }

/-- Compiles a part of a try statement. -/
def withinPart (region : Nat) (kind : Part) (part : Compiling α) : Compiling α := do
  let context := (← get).context
  modify fun c => { c with context := c.context ++ [(region, kind)] }
  let result ← part
  modify fun c => { c with context }
  return result

/-- Compiles a part of a try statement that is left for its end, in a state of its own. -/
def guarded (region : Nat) (kind : Part) (exit depth : Nat) (announce : Nat → Compiling Unit)
    (part : Compiling Unit) : Compiling Unit :=
  withinPart region kind do
    let entry ← newState
    enter entry
    announce entry
    part
    jumpBy ((← get).route (.state exit) depth)

/-- Changes what is known about a region. -/
def updateRegion (region : Nat) (change : Region → Region) : Compiling Unit :=
  modify fun c => { c with regions := c.regions.modify region change }

/-- Makes a state the one that handles exceptions of the parameter's type. -/
def addCatch (region : Nat) (parameter : Parameter) (entry : Nat) : Compiling Unit :=
  updateRegion region fun r =>
    { r with catches := r.catches ++ [⟨parameter.type, parameter.name, .state entry⟩] }

/-- The initial value of a variable as one that can be assigned later. -/
def assignableValue (type : JavaType) : Expression → Expression
  | .arrayElements elements => .createArray (type.element?.getD type) [] 1 (some elements)
  | e => e

/-- Carries a statement over. A declaration becomes an assignment. -/
def carryOver (statement : Statement) : Compiling Unit := do
  match statement with
  | .declare decl =>
    liftVariable decl.name decl.type
    if let some initial := decl.initial then
      emit (.code (assignName decl.name (assignableValue decl.type initial)))
  | .empty => pure ()
  | s =>
    let exits := (← get).exits
    emit (if hasJumps s then .leaving s exits else .code s)
  unless canComplete statement do close

/-- Leaves for a state unless a condition holds. -/
def leaveUnless (condition : Expression) (id : Nat) : Compiling Unit :=
  emit (.branch (.not condition) [.jump (.direct (.state id))])

/-- Leaves a loop unless its condition holds; one that always holds is not looked at. -/
def exitUnless (condition : Expression) (id : Nat) : Compiling Unit := do
  unless isTrue condition do leaveUnless condition id

/-- Ends a loop: goes back to its head, and on behind it by jumps alone. -/
def endLoop (head exit : Nat) : Compiling Unit := do
  jumpTo head
  startState exit

/-- The type that an expression is known to have. Of two declarations of a name the last counts. -/
def knownType? (surroundings : Surroundings) (lifted : List (String × JavaType)) :
    Expression → Option JavaType
  | .name text =>
    lifted.lookup text <|> surroundings.parameters.reverse.lookup text
      <|> surroundings.fields.reverse.lookup text
  | .field (.this _) name => surroundings.fields.reverse.lookup name
  | .cast type _ => some type
  | .createArray element sizes unsized _ =>
    some { element with dimensions := element.dimensions + sizes.length + unsized }
  | _ => none

/-- The type of an array that a loop goes over, if it is known to be one. -/
def arrayType? (e : Expression) : Compiling (Option JavaType) := do
  return (knownType? (← read) (← get).lifted e).filter fun type => decide (type.dimensions > 0)

/-- The next element of a loop over an array. -/
def enterArrayLoop (number : Nat) (item : LocalVariable) (iterable : Expression) (type : JavaType)
    (head exit : Nat) : Compiling Unit := do
  let array := "$array" ++ toString number
  let index := "$index" ++ toString number
  liftVariable array type
  liftVariable index (.named "int")
  emit (.code (assignName array iterable))
  emit (.code (assignName index (.int 0)))
  enter head
  leaveUnless (.binary .lt (.name index) (.field (.name array) "length")) exit
  emit (.code (assignName item.name (.element (.name array) (.name index))))
  emit (.code (.expression (.unary .postInc (.name index))))

/-- The next element of a loop over an iterable. -/
def enterIteratorLoop (number : Nat) (item : LocalVariable) (iterable : Expression)
    (head exit : Nat) : Compiling Unit := do
  let iterator := "$iterator" ++ toString number
  liftVariable iterator ((JavaType.named "java.util.Iterator").apply [.extending item.type.boxed])
  emit (.code (assignName iterator (.callOn iterable "iterator" [])))
  enter head
  leaveUnless (.callOn (.name iterator) "hasNext" []) exit
  emit (.code (assignName item.name (.callOn (.name iterator) "next" [])))

/-- Whether a label in front of the statement is that of a loop or switch. -/
def takesLabel : Statement → Bool
  | .whileLoop .. | .doWhile .. | .forLoop .. | .forEach .. | .switch .. => true
  | _ => false

/-- One new state for each item. -/
def newStates (items : List α) : Compiling (List Nat) := items.mapM fun _ => newState

mutual

/-- Compiles a statement; the label is that of a loop or switch. -/
def compile (label : Option String) (statement : Statement) : Compiling Unit := do
  if !statement.yields then carryOver statement
  else match statement.yielded? with
  | some arguments =>
    let resume ← newState
    terminate (.yield (arguments.head?.getD .null) (.state resume))
    startState resume
  | none =>
    match statement with
    | .block body => compileAll body
    | .ifElse condition whenTrue whenFalse =>
      let exit ← newState
      match whenFalse with
      | none =>
        leaveUnless condition exit
        compile none whenTrue
      | some whenFalse =>
        let otherwise ← newState
        leaveUnless condition otherwise
        compile none whenTrue
        jumpTo exit
        enter otherwise
        compile none whenFalse
      enter exit
    | .labeled label body =>
      if takesLabel body then compile (some label) body
      else
        let exit ← newState
        withinFrame (some label) exit none false (compile none body)
        enter exit
    | .whileLoop condition body =>
      let head ← newState
      let exit ← newState
      enter head
      exitUnless condition exit
      withinFrame label exit (some head) true (compile none body)
      endLoop head exit
    | .doWhile body condition =>
      let head ← newState
      let test ← newState
      let exit ← newState
      enter head
      withinFrame label exit (some test) true (compile none body)
      enter test
      emit (.branch condition [.jump (.direct (.state head))])
      enter exit
    | .forLoop start condition update body =>
      compileAll start
      let head ← newState
      let step ← newState
      let exit ← newState
      enter head
      if let some condition := condition then exitUnless condition exit
      withinFrame label exit (some step) true (compile none body)
      enter step
      for e in update do emit (.code (.expression e))
      endLoop head exit
    | .forEach item iterable body =>
      modify fun c => { c with loops := c.loops + 1 }
      let number := (← get).loops
      let head ← newState
      let exit ← newState
      match ← arrayType? iterable with
      | some type => enterArrayLoop number item iterable type head exit
      | none => enterIteratorLoop number item iterable head exit
      liftVariable item.name item.type
      withinFrame label exit (some head) true (compile none body)
      endLoop head exit
    | .switch selector cases =>
      let exit ← newState
      let entries ← newStates cases
      let arms := (cases.map (·.label)).zip (entries.map Target.state)
      let isTotal := cases.any (·.label.isNone)
      terminate (.dispatch selector (if isTotal then arms else arms ++ [(none, .state exit)]))
      withinFrame label exit none true (compileCases entries cases)
      enter exit
    | .tryCatch body catches finalizer =>
      let exit ← newState
      let region := (← get).regions.length
      modify fun c => { c with regions := c.regions ++ [{}] }
      let depth := (← get).finalizers.length
      match finalizer with
      | none =>
        guarded region .body exit depth (fun _ => pure ()) (compileAll body)
        compileCatches region exit depth catches
      | some finalizer =>
        let entry ← withinPart region .finalizer newState
        liftVariable (continuationName region) (.named "int")
        liftVariable (pendingName region) (.named "java.lang.Throwable")
        modify fun c => { c with finalizers := c.finalizers ++ [(region, entry)] }
        updateRegion region fun r => { r with finalizer := some (.state entry) }
        guarded region .body exit depth (fun _ => pure ()) (compileAll body)
        compileCatches region exit depth catches
        modify fun c => { c with finalizers := c.finalizers.take depth }
        withinPart region .finalizer do
          enter entry
          compileAll finalizer
          unless (← get).closed do terminate (.endFinalizer region)
      enter exit
    | other => carryOver other

def compileAll : List Statement → Compiling Unit
  | [] => pure ()
  | s :: rest => do
    compile none s
    compileAll rest

def compileCases (entries : List Nat) : List SwitchCase → Compiling Unit
  | [] => pure ()
  | ⟨_, body⟩ :: rest => do
    if let some entry := entries.head? then enter entry
    compileAll body
    compileCases entries.tail rest

def compileCatches (region exit depth : Nat) : List CatchClause → Compiling Unit
  | [] => pure ()
  | ⟨parameter, body⟩ :: rest => do
    liftVariable parameter.name parameter.type
    guarded region .handler exit depth (addCatch region parameter) (compileAll body)
    compileCatches region exit depth rest

end

/-- Compiles a whole body. -/
def compileBody (surroundings : Surroundings) (body : List Statement) : Machine :=
  let steps : Compiling Unit := do
    compileAll body
    jumpBy (.direct .done)
  let (_, c) := (steps.run surroundings).run {}
  { states := c.states, layout := c.layout, regions := c.regions, lifted := c.lifted }

end JavaWeave.Generator
