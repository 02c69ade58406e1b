import JavaWeave.Generator.Optimize
import JavaWeave.Syntax.Revision

/-! From a machine to the methods that run it. One method switches over the number of the current state until
an element is found or the end is reached; the other says where an exception is handled. -/

namespace JavaWeave.Generator

open Syntax

def stateName : String := "$state"

/-- The variable that holds the element that was found. -/
def elementName : String := "$next"

/-- The label of the loop over states. -/
def loopLabel : String := "$yieldLoop"

/-- The parameter that holds an exception. -/
def caughtName : String := "$e"

/-- The numbers of states in the written machine. -/
structure Numbering where
  layout : List Nat
  first : Nat

/-- States are numbered in their order; the end, and any state that is not written, is `-1`. -/
def Numbering.number (numbering : Numbering) : Target → Int32
  | .done => -1
  | .state id =>
    match numbering.layout.idxOf? id with
    | some place => Int32.ofNat (numbering.first + place)
    | none => -1

def Numbering.literal (numbering : Numbering) (target : Target) : Expression :=
  .int (numbering.number target)

/-- The steps of writing a machine; the flag says whether a jump needs the label of the loop. -/
abbrev Lowering := StateM Bool

/-- Sets the state. -/
def setState (numbering : Numbering) (target : Target) : Statement :=
  assignName stateName (numbering.literal target)

/-- Sets the variables of a transfer. -/
def followRoute (numbering : Numbering) (route : Route) : List Statement :=
  route.continuations.map (fun (region, target) =>
      assignName (continuationName region) (numbering.literal target))
    ++ [setState numbering route.target]

/-- A transfer from inside a carried statement; inside a loop of its own it names the loop over states. -/
def leaveBy (numbering : Numbering) (route : Route) (insideLoop : Bool) : Lowering Statement := do
  if insideLoop then set true
  let again : Statement := .continues (if insideLoop then some loopLabel else none)
  return .block (followRoute numbering route ++ [again])

/-- What stands between a jump and the carried statement around it. -/
structure Nesting where
  loops : Bool := false
  switches : Bool := false
  labels : List String := []

/-- Where a jump goes if it leaves the carried statement. -/
def exitRoute? (exits : Exits) (nesting : Nesting) : Statement → Option Route
  | .breaks none => if nesting.loops || nesting.switches then none else exits.onBreak
  | .continues none => if nesting.loops then none else exits.onContinue
  | .breaks (some label) =>
    if nesting.labels.contains label then none
    else (exits.labels.find? (·.label == label)).map (·.onBreak)
  | .continues (some label) =>
    if nesting.labels.contains label then none
    else (exits.labels.find? (·.label == label)).bind (·.onContinue)
  | .returns none => some exits.onReturn
  | _ => none

/-- Replaces the jumps that leave a carried statement by transfers. -/
def exitReviser (numbering : Numbering) (exits : Exits) : Reviser Nesting Lowering where
  expression _ e := pure e
  statement nesting s :=
    match exitRoute? exits nesting s with
    | some route => leaveBy numbering route nesting.loops
    | none => pure s
  withinLoop nesting := { nesting with loops := true }
  withinSwitch nesting := { nesting with switches := true }
  withinLabel nesting label := { nesting with labels := label :: nesting.labels }
  entersTypes := false

/-- Throws what is pending at the end of a finalizer, or goes on where a jump said. -/
def lowerEndFinalizer (region : Nat) : List Statement :=
  let pending := pendingName region
  [.whenever (.binary .ne (.name pending) .null) (.block [
      .declare (.final (.named "java.lang.Throwable") "$t" (.name pending)),
      assignName pending .null,
      .throws (.name "$t")]),
   assignName stateName (.name (continuationName region)),
   .continues none]

mutual

/-- Writes an operation. The last argument is the state that control may run on into. -/
def lowerOp (numbering : Numbering) (next : Option Nat) : Op → Lowering (List Statement)
  | .code statement => return [statement]
  | .leaving statement exits => do
    return [← (exitReviser numbering exits).onStatement {} statement]
  | .branch condition ops => do
    return [.whenever condition (.block (← lowerOps numbering none ops))]
  | .jump route =>
    let runsOn := next.map Target.state == some route.target
    return followRoute numbering route ++ if runsOn then [] else [.continues none]
  | .yield value resume =>
    return [assignName elementName value, setState numbering resume, .returns (some (.bool true))]
  | .dispatch selector arms =>
    return [.switch selector (arms.map fun (label, target) =>
      ⟨label, [setState numbering target, .continues none]⟩)]
  | .endFinalizer region => return lowerEndFinalizer region

/-- Writes operations; only the last one may run on. -/
def lowerOps (numbering : Numbering) (next : Option Nat) : List Op → Lowering (List Statement)
  | [] => return []
  | op :: rest => do
    let first ← lowerOp numbering (if rest.isEmpty then next else none) op
    return first ++ (← lowerOps numbering next rest)

end

/-- The groups of the switch over states. -/
def lowerStates (machine : Machine) (numbering : Numbering) : List Nat → Lowering (List SwitchCase)
  | [] => return []
  | id :: rest => do
    let next := if machine.fallsThrough then rest.head? else none
    let body ← lowerOps numbering next (machine.state id).ops
    return ⟨some (numbering.literal (.state id)), body⟩ :: (← lowerStates machine numbering rest)

/-- The method that looks for the next element and says whether there is one. -/
def advanceMethod (machine : Machine) (numbering : Numbering) : Method :=
  let (cases, labeled) := (lowerStates machine numbering machine.layout).run false
  let dispatch : Statement :=
    .switch (.name stateName) (cases ++ [⟨none, [.returns (some (.bool false))]⟩])
  let spin : Statement := .whileLoop (.bool true) (.block [
    .tryCatch [dispatch]
      [⟨.final (.named "java.lang.Throwable") caughtName,
        [assignName stateName (.callOwn "getErrorHandler" [.name caughtName])]⟩]
      none])
  { modifiers := .ofList [.privateAccess]
    returnType := .named "boolean"
    name := "getNext"
    body := [if labeled then .labeled loopLabel spin else spin] }

/-- Hands an exception of the right type to a handler. -/
def offerTo (numbering : Numbering) (entry : CatchEntry) : Statement :=
  .whenever (.instanceOf (.name caughtName) entry.type) (.block [
    assignName entry.parameter (.cast entry.type (.name caughtName)),
    .returns (some (numbering.literal entry.entry))])

/-- Looks for the state that handles an exception, from the innermost try statement outwards. A finalizer ends
the search: it runs first and throws the exception again. -/
def handlerSearch (machine : Machine) (numbering : Numbering) : Context → List Statement
  | [] => []
  | (index, part) :: outer =>
    let region := machine.region index
    let offers := if part = .body then region.catches.map (offerTo numbering) else []
    match part, region.finalizer with
    | .finalizer, _ | _, none => offers ++ handlerSearch machine numbering outer
    | _, some entry =>
      offers ++ [assignName (pendingName index) (.name caughtName),
        .returns (some (numbering.literal entry))]

/-- The items of a list by a key, keys in the order of their first item. -/
def groupBy [BEq κ] (key : α → κ) (items : List α) : List (κ × List α) :=
  items.foldl
    (fun groups item =>
      if groups.any (·.1 == key item) then
        groups.map fun (k, members) => if k == key item then (k, members ++ [item]) else (k, members)
      else groups ++ [(key item, [item])])
    []

/-- Whether the last statement of a search returns. -/
def endsInReturn (body : List Statement) : Bool :=
  match body.getLast? with
  | some (.returns _) => true
  | _ => false

/-- The groups for the states of one context: they share one search. -/
def handlerCases (machine : Machine) (numbering : Numbering) (context : Context) (ids : List Nat) :
    List SwitchCase :=
  let search := handlerSearch machine numbering context.reverse
  if search.isEmpty then []
  else
    let body := if endsInReturn search then search else search ++ [.breaks none]
    let group (body : List Statement) (id : Nat) : SwitchCase :=
      ⟨some (numbering.literal (.state id)), body⟩
    ids.dropLast.map (group []) ++ ids.getLast?.toList.map (group body)

/-- The method that gives the state that handles an exception. Where there is none the generator ends. -/
def handlerMethod (machine : Machine) (numbering : Numbering) : Method :=
  let guardedStates := machine.layout.filter fun id => !(machine.state id).context.isEmpty
  let groups := groupBy (fun id => (machine.state id).context) guardedStates
  let cases := groups.flatMap fun (context, ids) => handlerCases machine numbering context ids
  let dispatch : List Statement := if cases.isEmpty then [] else [.switch (.name stateName) cases]
  { modifiers := .ofList [.privateAccess]
    returnType := .named "int"
    name := "getErrorHandler"
    parameters := [.final (.named "java.lang.Throwable") caughtName]
    body := dispatch ++ [
      assignName stateName (.int (-1)),
      .throws (.make (.named "java.util.ConcurrentModificationException") [.name caughtName])] }

end JavaWeave.Generator
