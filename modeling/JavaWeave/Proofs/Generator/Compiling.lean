import JavaWeave.Generator.Compile
import JavaWeave.Proofs.Generator.Writing

namespace JavaWeave.Generator

open Syntax

mutual

/-- How many try statements of a statement become regions. -/
def regionsIn (s : Statement) : Nat :=
  if s.yields then
    match s with
    | .block body => regionsInAll body
    | .ifElse _ whenTrue whenFalse =>
      regionsIn whenTrue + (match whenFalse with | some s => regionsIn s | none => 0)
    | .labeled _ body | .whileLoop _ body | .doWhile body _ | .forEach _ _ body => regionsIn body
    | .forLoop start _ _ body => regionsInAll start + regionsIn body
    | .switch _ cases => regionsInCases cases
    | .tryCatch body catches finalizer =>
      1 + regionsInAll body + regionsInCatches catches
        + (match finalizer with | some ss => regionsInAll ss | none => 0)
    | _ => 0
  else 0

def regionsInAll : List Statement → Nat
  | [] => 0
  | s :: rest => regionsIn s + regionsInAll rest

def regionsInCases : List SwitchCase → Nat
  | [] => 0
  | ⟨_, body⟩ :: rest => regionsInAll body + regionsInCases rest

def regionsInCatches : List CatchClause → Nat
  | [] => 0
  | ⟨_, body⟩ :: rest => regionsInAll body + regionsInCatches rest

end

/-- What becomes of an expression that is a statement. -/
theorem compile_expression {label : Option String} {e : Expression} :
    compile label (.expression e) =
      if !(Statement.expression e).yields then carryOver (.expression e)
      else match (Statement.expression e).yielded? with
        | some arguments => do
          let resume ← newState
          terminate (.yield (arguments.head?.getD .null) (.state resume))
          startState resume
        | none => carryOver (.expression e) := by
  delta compile
  rfl

section

variable {s : Statement} (quiet : s.yields = false)

include quiet

theorem regionsIn_quiet : regionsIn s = 0 := by
  have none (regions : Nat) : (if s.yields then regions else 0) = 0 := if_neg (by simp [quiet])
  cases s with
  | ifElse _ _ whenFalse => cases whenFalse <;> exact none _
  | tryCatch _ _ finalizer => cases finalizer <;> exact none _
  | _ => exact none _

theorem compile_quiet {label : Option String} : compile label s = carryOver s := by
  have carried (steps : Compiling Unit) : (if !s.yields then carryOver s else steps) = carryOver s :=
    if_pos (by simp [quiet])
  cases s with
  | expression e => exact compile_expression.trans (carried _)
  | ifElse _ _ whenFalse => cases whenFalse <;> exact carried _
  | tryCatch _ _ finalizer => cases finalizer <;> exact carried _
  | _ => exact carried _

end

/-- Steps that take one compilation to another. -/
def Compiles (known : Surroundings) (steps : Compiling α) (c : Compilation) (result : α) (c' : Compilation) : Prop :=
  steps known c = (result, c')

section

variable {known : Surroundings} {c c' : Compilation}

theorem Compiles.bind {first : Compiling α} {next : α → Compiling β} {result : β}
    (run : Compiles known (first >>= next) c result c') :
    ∃ value middle, Compiles known first c value middle ∧ Compiles known (next value) middle result c' :=
  ⟨_, _, rfl, run⟩

theorem Compiles.pure {value result : α} (run : Compiles known (pure value) c result c') :
    value = result ∧ c = c' := by
  cases run
  exact ⟨rfl, rfl⟩

theorem Compiles.get {result : Compilation} (run : Compiles known get c result c') : c = result ∧ c = c' := by
  cases run
  exact ⟨rfl, rfl⟩

theorem Compiles.modify {change : Compilation → Compilation} {result : Unit}
    (run : Compiles known (modify change) c result c') : change c = c' := by
  cases run
  rfl

end

/-- The compilation has grown: states keep their contexts, and nothing is taken away. -/
structure Compilation.Grows (c c' : Compilation) : Prop where
  states : ∀ (id : Nat) (state : State), c.states[id]? = some state → ∃ state', c'.states[id]? = some state' ∧
    state'.context = state.context
  lifted : ∀ name, (c.lifted.lookup name).isSome → (c'.lifted.lookup name).isSome

namespace Compilation.Grows

variable {c c' c'' : Compilation}

theorem refl (c : Compilation) : c.Grows c := ⟨fun _ state found => ⟨state, found, rfl⟩, fun _ h => h⟩

theorem trans (first : c.Grows c') (second : c'.Grows c'') : c.Grows c'' where
  states id state found := by
    obtain ⟨middle, found, same⟩ := first.states id state found
    obtain ⟨last, found, same'⟩ := second.states id middle found
    exact ⟨last, found, same'.trans same⟩
  lifted name declared := second.lifted name (first.lifted name declared)

theorem made (grows : c.Grows c') {id : Nat} (made : id < c.states.length) : id < c'.states.length := by
  obtain ⟨_, found, _⟩ := grows.states id _ (List.getElem?_eq_getElem made)
  exact (List.getElem?_eq_some_iff.mp found).1

end Compilation.Grows

/-- The compilation has gone on: it stands in the same statements as before. The count is that of the regions that
have been made. -/
structure Compilation.Advances (c : Compilation) (count : Nat) (c' : Compilation) : Prop extends c.Grows c' where
  regions : c'.regions.length = c.regions.length + count
  context : c'.context = c.context
  frames : c'.frames = c.frames
  finalizers : c'.finalizers = c.finalizers

namespace Compilation.Advances

variable {c c' c'' : Compilation} {count count' : Nat}

theorem refl (c : Compilation) : c.Advances 0 c :=
  { Grows.refl c with regions := rfl, context := rfl, frames := rfl, finalizers := rfl }

end Compilation.Advances

/-- The variables of the machine that are there. -/
def Compilation.Declares (c : Compilation) (name : String) : Prop := (c.lifted.lookup name).isSome

/-- A target that is the end or a state that has been made. -/
def Compilation.Knows (c : Compilation) (target : Target) : Prop := ∀ id, target = .state id → id < c.states.length

/-- Jumps out of the statements around lead to states that have been made. -/
structure Compilation.Grounded (c : Compilation) : Prop where
  onBreak : ∀ frame ∈ c.frames, frame.onBreak < c.states.length
  onContinue : ∀ frame ∈ c.frames, ∀ id ∈ frame.onContinue, id < c.states.length
  finalizers : ∀ entry ∈ c.finalizers, entry.2 < c.states.length ∧ c.Declares (continuationName entry.1)

namespace Compilation

section

variable {c c' : Compilation}

theorem Knows.grow {target : Target} (knows : c.Knows target) (grows : c.Grows c') : c'.Knows target :=
  fun id same => grows.made (knows id same)

theorem Grounded.advance {count : Nat} (grounded : c.Grounded) (advances : c.Advances count c') : c'.Grounded where
  onBreak frame member := advances.made (grounded.onBreak frame (advances.frames ▸ member))
  onContinue frame member id continues :=
    advances.made (grounded.onContinue frame (advances.frames ▸ member) id continues)
  finalizers entry member := by
    obtain ⟨made, declared⟩ := grounded.finalizers entry (advances.finalizers ▸ member)
    exact ⟨advances.made made, advances.lifted _ declared⟩

end

section

variable {carries : Context → Statement → Prop} {debts : List (Nat × Context)} {known : Surroundings}
  {c c' : Compilation}

/-- The compilation with one more operation in the state that is open. -/
def added (c : Compilation) (op : Op) : Compilation :=
  { c with states := c.states.modify c.current fun state => { state with ops := state.ops ++ [op] } }

theorem getElem?_added {op : Op} {id : Nat} {state : State} (found : c.states[id]? = some state) :
    (c.added op).states[id]? = some { state with ops := state.ops ++ if c.current = id then [op] else [] } := by
  rw [added, List.getElem?_modify, found]
  split <;> simp

theorem of_getElem?_added {op : Op} {id : Nat} {state : State} (written : (c.added op).states[id]? = some state) :
    ∃ before, c.states[id]? = some before ∧
      state = { before with ops := before.ops ++ if c.current = id then [op] else [] } := by
  rw [added, List.getElem?_modify] at written
  cases before : c.states[id]? with
  | none => simp [before] at written
  | some state' =>
    refine ⟨state', rfl, ?_⟩
    rw [before] at written
    split at written <;> simp_all

theorem advances_added (op : Op) : c.Advances 0 (c.added op) where
  states _ _ found := ⟨_, getElem?_added found, rfl⟩
  lifted _ declared := declared
  regions := rfl
  context := rfl
  frames := rfl
  finalizers := rfl

theorem isSome_lookup_lift (lifted : List (String × JavaType)) (name : String) (type : JavaType) :
    ((lift lifted name type).lookup name).isSome ∧
      ∀ other, (lifted.lookup other).isSome → ((lift lifted name type).lookup other).isSome := by
  unfold lift
  split
  · next there => exact ⟨there, fun _ h => h⟩
  · refine ⟨?_, fun other there => ?_⟩
    · rw [List.lookup_append]
      simp
    · rw [List.lookup_append, Option.isSome_or, there, Bool.true_or]

end

end Compilation

namespace Compilation

variable {c : Compilation}

private theorem fold_finalizers (finalizers : List (Nat × Nat)) (start : Route) :
    let route := finalizers.foldl (fun (route : Route) (region, entry) =>
      { continuations := route.continuations ++ [(region, route.target)], target := .state entry }) start
    (∀ target ∈ route.targets, target ∈ start.targets ∨ ∃ finalizer ∈ finalizers, target = .state finalizer.2) ∧
      ∀ continuation ∈ route.continuations, continuation ∈ start.continuations ∨
        ∃ finalizer ∈ finalizers, continuation.1 = finalizer.1 := by
  induction finalizers generalizing start with
  | nil => exact ⟨fun _ member => Or.inl member, fun _ member => Or.inl member⟩
  | cons finalizer rest ih =>
    obtain ⟨region, entry⟩ := finalizer
    obtain ⟨targets, continuations⟩ := ih
      { continuations := start.continuations ++ [(region, start.target)], target := .state entry }
    refine ⟨fun target member => ?_, fun continuation member => ?_⟩
    · rcases targets target member with here | ⟨finalizer, inside, same⟩
      · simp only [Route.targets, List.map_append, List.map_cons, List.map_nil, List.mem_append, List.mem_cons,
          List.not_mem_nil, or_false] at here ⊢
        rcases here with (here | rfl) | rfl
        · exact Or.inl (Or.inl here)
        · exact Or.inl (Or.inr rfl)
        · exact Or.inr ⟨(region, entry), Or.inl rfl, rfl⟩
      · exact Or.inr ⟨finalizer, List.mem_cons_of_mem _ inside, same⟩
    · rcases continuations continuation member with here | ⟨finalizer, inside, same⟩
      · rcases List.mem_append.mp here with here | here
        · exact Or.inl here
        · obtain rfl := List.mem_singleton.mp here
          exact Or.inr ⟨(region, entry), List.mem_cons_self, rfl⟩
      · exact Or.inr ⟨finalizer, List.mem_cons_of_mem _ inside, same⟩

/-- A route sets variables of the finalizers around. -/
theorem route_continuations {target : Target} {depth : Nat} {continuation : Nat × Target}
    (member : continuation ∈ (c.route target depth).continuations) :
    ∃ finalizer ∈ c.finalizers, continuation.1 = finalizer.1 := by
  rcases (fold_finalizers (c.finalizers.drop depth) (.direct target)).2 continuation member with here | later
  · cases here
  · exact later.imp fun _ => And.imp_left List.mem_of_mem_drop

/-- A route leads to finalizers around and to its target. -/
theorem Grounded.route (grounded : c.Grounded) {target : Target} (knows : c.Knows target) (depth : Nat) :
    (∀ next ∈ (c.route target depth).targets, c.Knows next) ∧
      ∀ continuation ∈ (c.route target depth).continuations, c.Declares (continuationName continuation.1) := by
  refine ⟨fun next member => ?_, fun continuation member => ?_⟩
  · rcases (fold_finalizers (c.finalizers.drop depth) (.direct target)).1 next member with here | ⟨finalizer, inside, rfl⟩
    · obtain rfl : next = target := by simpa [Route.targets, Route.direct] using here
      exact knows
    · rintro _ ⟨⟩
      exact (grounded.finalizers finalizer (List.mem_of_mem_drop inside)).1
  · obtain ⟨finalizer, inside, same⟩ := route_continuations member
    rw [same]
    exact (grounded.finalizers finalizer inside).2

/-- Jumps out of the statements around go by routes to the states that these statements name, or to the end. -/
theorem mem_exits {route : Route} (member : route ∈ c.exits.routes) :
    ∃ target depth, route = c.route target depth ∧ ∀ id, target = .state id →
      ∃ frame ∈ c.frames, id = frame.onBreak ∨ id ∈ frame.onContinue := by
  have leaves {frame : Frame} (inside : frame ∈ c.frames) :
      ∃ target depth, c.route (.state frame.onBreak) frame.depth = c.route target depth ∧ ∀ id, target = .state id →
        ∃ frame ∈ c.frames, id = frame.onBreak ∨ id ∈ frame.onContinue :=
    ⟨_, _, rfl, by rintro _ ⟨⟩; exact ⟨frame, inside, Or.inl rfl⟩⟩
  have continues {frame : Frame} (inside : frame ∈ c.frames) {route : Route}
      (again : (frame.onContinue.map fun state => c.route (.state state) frame.depth) = some route) :
      ∃ target depth, route = c.route target depth ∧ ∀ id, target = .state id →
        ∃ frame ∈ c.frames, id = frame.onBreak ∨ id ∈ frame.onContinue := by
    obtain ⟨id, goes, rfl⟩ := Option.map_eq_some_iff.mp again
    exact ⟨_, _, rfl, by rintro _ ⟨⟩; exact ⟨frame, inside, Or.inr goes⟩⟩
  simp only [Exits.routes, Compilation.exits, List.mem_append, Option.mem_toList, List.mem_flatMap, List.mem_cons,
    List.mem_filterMap, List.mem_reverse, List.not_mem_nil, or_false] at member
  rcases member with ((onBreak | onContinue) | ⟨exit, ⟨frame, inside, labeled⟩, goes⟩) | rfl
  · obtain ⟨frame, found, rfl⟩ := Option.map_eq_some_iff.mp onBreak
    exact leaves (List.mem_of_find?_eq_some found)
  · obtain ⟨frame, inside, found⟩ := List.exists_of_findSome?_eq_some onContinue
    exact continues inside found
  · obtain ⟨label, _, rfl⟩ := Option.map_eq_some_iff.mp labeled
    rcases goes with rfl | goes
    · exact leaves inside
    · exact continues inside goes
  · exact ⟨.done, 0, rfl, nofun⟩

/-- Jumps out of the statements around lead to states that have been made. -/
theorem Grounded.exits (grounded : c.Grounded) {route : Route} (member : route ∈ c.exits.routes) :
    ∃ target depth, route = c.route target depth ∧ c.Knows target := by
  obtain ⟨target, depth, same, leads⟩ := mem_exits member
  refine ⟨target, depth, same, fun id stands => ?_⟩
  obtain ⟨frame, inside, rfl | again⟩ := leads id stands
  · exact grounded.onBreak frame inside
  · exact grounded.onContinue frame inside id again

end Compilation

/-- The compilation that a machine is read off. -/
def Compilation.machine (c : Compilation) : Machine where
  states := c.states
  layout := c.layout
  regions := c.regions
  lifted := c.lifted

/-- The arms of a switch are its labels with the states of their groups, and one that leads behind it. -/
theorem mem_arms {cases : List SwitchCase} {entries : List Nat} {exit : Nat}
    {arm : Option Expression × Target}
    (inside : arm ∈ (let arms := (cases.map (·.label)).zip (entries.map Target.state)
      if cases.any (·.label.isNone) then arms else arms ++ [(none, .state exit)])) :
    (∃ group ∈ cases, ∃ id ∈ entries, arm = (group.label, .state id)) ∨ arm = (none, .state exit) := by
  have zipped (member : arm ∈ (cases.map (·.label)).zip (entries.map Target.state)) :
      ∃ group ∈ cases, ∃ id ∈ entries, arm = (group.label, .state id) := by
    obtain ⟨first, second⟩ := List.of_mem_zip (a := arm.1) (b := arm.2) member
    obtain ⟨group, among, label⟩ := List.mem_map.mp first
    obtain ⟨id, given, target⟩ := List.mem_map.mp second
    exact ⟨group, among, id, given, Prod.ext label.symm target.symm⟩
  simp only at inside
  split at inside
  · exact Or.inl (zipped inside)
  · exact (List.mem_append.mp inside).imp zipped List.mem_singleton.mp

theorem carryOver_eq {s : Statement} (placed : isDeclaration s = false) (something : s ≠ .empty) :
    carryOver s = (do
      let c ← get
      emit (if hasJumps s then .leaving s c.exits else .code s)
      unless canComplete s do close) := by
  cases s <;> first | rfl | exact absurd rfl something | cases placed

end JavaWeave.Generator
