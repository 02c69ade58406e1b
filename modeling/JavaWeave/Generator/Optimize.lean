import JavaWeave.Generator.Machine

namespace JavaWeave.Generator

open Syntax

def Route.map (f : Target → Target) (route : Route) : Route where
  continuations := route.continuations.map fun (region, target) => (region, f target)
  target := f route.target

def Route.targets (route : Route) : List Target := route.continuations.map (·.2) ++ [route.target]

namespace Exits

def map (f : Target → Target) (exits : Exits) : Exits where
  onBreak := exits.onBreak.map (·.map f)
  onContinue := exits.onContinue.map (·.map f)
  labels := exits.labels.map fun exit =>
    { exit with onBreak := exit.onBreak.map f, onContinue := exit.onContinue.map (·.map f) }
  onReturn := exits.onReturn.map f

def routes (exits : Exits) : List Route :=
  exits.onBreak.toList ++ exits.onContinue.toList
    ++ exits.labels.flatMap (fun exit => exit.onBreak :: exit.onContinue.toList) ++ [exits.onReturn]

end Exits

namespace Op

mutual

/-- The operation with other targets. -/
def map (f : Target → Target) : Op → Op
  | .code statement => .code statement
  | .leaving statement exits => .leaving statement (exits.map f)
  | .branch condition ops => .branch condition (mapAll f ops)
  | .jump route => .jump (route.map f)
  | .yield value resume => .yield value (f resume)
  | .dispatch selector arms => .dispatch selector (arms.map fun (label, target) => (label, f target))
  | .endFinalizer region => .endFinalizer region

def mapAll (f : Target → Target) : List Op → List Op
  | [] => []
  | op :: rest => map f op :: mapAll f rest

end

mutual

/-- Every target that an operation mentions. -/
def targets : Op → List Target
  | .code _ | .endFinalizer _ => []
  | .leaving _ exits => exits.routes.flatMap Route.targets
  | .branch _ ops => allTargets ops
  | .jump route => route.targets
  | .yield _ resume => [resume]
  | .dispatch _ arms => arms.map (·.2)

def allTargets : List Op → List Target
  | [] => []
  | op :: rest => targets op ++ allTargets rest

end

end Op

/-- The states that are bypassed and where control goes instead. -/
abbrev Aliases := List (Nat × Target)

/-- Follows aliases; the fuel bounds the steps. -/
def Aliases.follow (aliases : Aliases) : Nat → Target → Target
  | _, .done => .done
  | 0, target => target
  | fuel + 1, .state id =>
    match aliases.lookup id with
    | none => .state id
    | some target => follow aliases fuel target

/-- The target that aliases lead to. Aliases have no cycle, so each is followed once at most. -/
def Aliases.resolve (aliases : Aliases) (target : Target) : Target :=
  aliases.follow aliases.length target

/-- The target of a state that only leads to another one, running no finalizer. -/
def forwardTarget? (state : State) : Option Target :=
  match state.ops with
  | [.jump ⟨[], target⟩] => some target
  | _ => none

/-- The states to bypass. One that leads back to itself is kept. -/
def Machine.aliases (machine : Machine) : Aliases :=
  machine.layout.foldl
    (fun aliases id =>
      match forwardTarget? (machine.state id) with
      | none => aliases
      | some target =>
        let target := aliases.resolve target
        if target = .state id then aliases else (id, target) :: aliases)
    []

/-- The targets that control may reach from a state at once, by its operations or by an exception. -/
def Machine.successors (machine : Machine) (id : Nat) : List Target :=
  let state := machine.state id
  Op.allTargets state.ops ++ state.context.flatMap fun (index, part) =>
    let region := machine.region index
    (if part = .body then region.catches.map (·.entry) else [])
      ++ (if part = .finalizer then [] else region.finalizer.toList)

/-- Collects the states that the pending targets lead to; the fuel bounds the steps. -/
def Machine.reach (machine : Machine) : Nat → List Target → List Nat → List Nat
  | 0, _, live => live
  | _, [], live => live
  | fuel + 1, .done :: pending, live => reach machine fuel pending live
  | fuel + 1, .state id :: pending, live =>
    if live.contains id then reach machine fuel pending live
    else reach machine fuel (machine.successors id ++ pending) (id :: live)

/-- The states that a target leads to. Every step takes one target, and a state adds its successors once. -/
def Machine.reachable (machine : Machine) (start : Target) : List Nat :=
  let edges := ((List.range machine.states.length).flatMap machine.successors).length
  machine.reach (edges + 2) [start] []

/-- The machine with other targets. -/
def Machine.mapTargets (machine : Machine) (f : Target → Target) : Machine :=
  { machine with
    states := machine.states.map fun state => { state with ops := Op.mapAll f state.ops }
    regions := machine.regions.map fun region =>
      { catches := region.catches.map fun entry => { entry with entry := f entry.entry }
        finalizer := region.finalizer.map f } }

/-- The list with an item moved to the front, if it is in the list. -/
def moveFirst [BEq α] (item : α) (items : List α) : List α :=
  if items.contains item then item :: items.erase item else items

def Machine.optimize (machine : Machine) : Machine :=
  let aliases := machine.aliases
  let start := aliases.resolve (.state (machine.layout.head?.getD 0))
  let machine := machine.mapTargets aliases.resolve
  let live := machine.reachable start
  let layout := machine.layout.filter live.contains
  { machine with
    layout := match start with
      | .done => layout
      | .state id => moveFirst id layout
    fallsThrough := true }

end JavaWeave.Generator
