import JavaWeave.Proofs.Generator.HandlerTable
import JavaWeave.Proofs.Generator.Ledger

/-! The machine of any body is closed: what its states lead to is written or is the end, so that no number stands for
the end by accident. The smaller machine is closed as well, although states are bypassed and dropped. -/

namespace JavaWeave.Generator

open Syntax

/-- A transfer goes to a target, or has a finalizer on its way go on there. -/
def Route.Sets (route : Route) (target : Target) : Prop :=
  target = route.target ∨ ∃ region, (region, target) ∈ route.continuations

/-- An operation goes on at a target or stores it for a finalizer. A carried statement does so by its jumps. -/
inductive Op.LeadsTo : Op → Target → Prop
  | leaving {s jump : Statement} {exits : Exits} {nesting : Nesting} {route : Route} {target : Target}
    (leaves : exitRoute? exits nesting jump = some route) (sets : route.Sets target) : LeadsTo (.leaving s exits) target
  | branch {condition : Expression} {ops : List Op} {op : Op} {target : Target} (inside : op ∈ ops)
    (leads : LeadsTo op target) : LeadsTo (.branch condition ops) target
  | jump {route : Route} {target : Target} (sets : route.Sets target) : LeadsTo (.jump route) target
  | yield {value : Expression} {target : Target} : LeadsTo (.yield value target) target
  | dispatch {selector : Expression} {arms : List (Option Expression × Target)} {label : Option Expression}
    {target : Target} (inside : (label, target) ∈ arms) : LeadsTo (.dispatch selector arms) target

/-- A target that control can go to or that is stored for later: by an operation of a written state, or by an
exception that a state meets. -/
inductive Machine.LeadsTo (machine : Machine) : Target → Prop
  | op {id : Nat} {op : Op} {target : Target} (written : id ∈ machine.layout) (inside : op ∈ (machine.state id).ops)
    (leads : op.LeadsTo target) : LeadsTo machine target
  | taker {id : Nat} {taker : Taker} (written : id ∈ machine.layout)
    (inside : taker ∈ machine.takers (machine.state id).context) : LeadsTo machine taker.entry

/-- A machine in which each state is written once and what is led to is the end or written. -/
structure Machine.Closed (machine : Machine) : Prop where
  distinct : machine.layout.Nodup
  leads : ∀ target, machine.LeadsTo target → target = .done ∨ ∃ id ∈ machine.layout, target = .state id

/-- The numbers of written states differ, and what is led to has the number of the end only if it is the end. -/
structure Machine.Numbered (machine : Machine) (first : Nat) : Prop where
  apart : ∀ id ∈ machine.layout, ∀ other ∈ machine.layout,
    (machine.numberedFrom first).number (.state id) = (machine.numberedFrom first).number (.state other) → id = other
  live : ∀ target, machine.LeadsTo target → (machine.numberedFrom first).number target = -1 → target = .done

/-- The first written state is a target; a machine that begins at the end has no states. -/
def Machine.BeginsAt (machine : Machine) : Target → Prop
  | .done => machine.layout = []
  | .state id => machine.layout.head? = some id

theorem Route.Sets.mem_targets {route : Route} {target : Target} (sets : route.Sets target) :
    target ∈ route.targets := by
  rcases sets with rfl | ⟨region, inside⟩
  · exact List.mem_append_right _ List.mem_cons_self
  · exact List.mem_append_left _ (List.mem_map.mpr ⟨_, inside, rfl⟩)

theorem Op.mem_allTargets {ops : List Op} {target : Target} :
    target ∈ Op.allTargets ops ↔ ∃ op ∈ ops, target ∈ op.targets := by
  induction ops with
  | nil => simp [Op.allTargets]
  | cons op rest ih => simp [Op.allTargets, ih]

/-- What an operation leads to is mentioned in it. -/
theorem Op.LeadsTo.mem_targets {op : Op} {target : Target} (leads : op.LeadsTo target) : target ∈ op.targets := by
  induction leads with
  | leaving leaves sets => exact List.mem_flatMap.mpr ⟨_, mem_routes_of_exitRoute? leaves, sets.mem_targets⟩
  | branch inside _ ih => exact Op.mem_allTargets.mpr ⟨_, inside, ih⟩
  | jump sets => exact sets.mem_targets
  | yield => exact List.mem_cons_self
  | dispatch inside => exact List.mem_map.mpr ⟨_, inside, rfl⟩

theorem Region.part_of_mem_takers {region : Region} {index : Nat} {part : Part} {taker : Taker}
    (member : taker ∈ region.takers index part) :
    (part = .body ∧ ∃ entry ∈ region.catches, taker = .clause entry) ∨
      part ≠ .finalizer ∧ ∃ entry, region.finalizer = some entry ∧ taker = .finalizer index entry := by
  cases part with
  | finalizer => cases member
  | handler =>
    obtain ⟨entry, given, rfl⟩ := Option.map_eq_some_iff.mp (Option.mem_toList.mp member)
    exact Or.inr ⟨nofun, entry, given, rfl⟩
  | body =>
    rcases Region.mem_takers member with clause | last
    · exact Or.inl ⟨rfl, clause⟩
    · exact Or.inr ⟨nofun, last⟩

theorem moveFirst_perm (item : Nat) (items : List Nat) : (moveFirst item items).Perm items := by
  unfold moveFirst
  split
  · next inside => exact (List.perm_cons_erase (List.contains_iff_mem.mp inside)).symm
  · exact .refl items

namespace Machine

variable {machine : Machine} {first : Nat}

/-- The smaller machine needs no more numbers. -/
theorem optimize_fits (fits : (machine.numberedFrom first).Fits) :
    (machine.optimize.numberedFrom first).Fits := by
  have shorter := @length_optimize_layout machine
  unfold Numbering.Fits at fits ⊢
  simp only [Machine.numberedFrom] at fits ⊢
  omega

/-- Closed machines with enough numbers are numbered. -/
theorem Closed.numbered (closed : machine.Closed) (fits : (machine.numberedFrom first).Fits) :
    machine.Numbered first where
  apart _ written _ written' same := Numbering.number_injective fits written written' same
  live target leads ends := by
    rcases closed.leads target leads with rfl | ⟨id, written, rfl⟩
    · rfl
    · exact absurd ends (Numbering.number_ne_end fits written)

/-- A machine whose states are all written, in which operations, handlers and finalizers lead to its states. -/
structure Whole (machine : Machine) : Prop where
  laid : machine.layout.Perm (List.range machine.states.length)
  begins : machine.layout.head? = some 0
  targets : ∀ id ∈ machine.layout, ∀ target ∈ Op.allTargets (machine.state id).ops, ∀ next, target = .state next →
    next ∈ machine.layout
  catches : ∀ index, ∀ entry ∈ (machine.region index).catches, ∀ next, entry.entry = .state next →
    next ∈ machine.layout
  finalizer : ∀ index, ∀ entry ∈ (machine.region index).finalizer, ∀ next, entry = .state next → next ∈ machine.layout

namespace Whole

variable (whole : machine.Whole)

include whole

theorem distinct : machine.layout.Nodup := whole.laid.nodup_iff.mpr List.nodup_range

theorem taker {context : Context} {taker : Taker} (inside : taker ∈ machine.takers context) (next : Nat)
    (leads : taker.entry = .state next) : next ∈ machine.layout := by
  obtain ⟨⟨index, part⟩, _, among⟩ := List.mem_flatMap.mp inside
  rcases Region.mem_takers among with ⟨entry, clause, rfl⟩ | ⟨entry, given, rfl⟩
  · exact whole.catches index entry clause next leads
  · exact whole.finalizer index entry given next leads

theorem closed : machine.Closed where
  distinct := whole.distinct
  leads target leads := by
    cases same : target with
    | done => exact Or.inl rfl
    | state next =>
      refine Or.inr ⟨next, ?_, rfl⟩
      cases leads with
      | op written inside leads =>
        exact whole.targets _ written target (Op.mem_allTargets.mpr ⟨_, inside, leads.mem_targets⟩) next same
      | taker written inside => exact whole.taker inside next same

/-- What written states lead to, bypassing states on the way, is written. -/
theorem forwards {aliases : Aliases} {target last : Target} (way : machine.Forwards aliases target last)
    (laid : ∀ id, target = .state id → id ∈ machine.layout) : ∀ id, last = .state id → id ∈ machine.layout := by
  induction way with
  | refl target => exact laid
  | step _ forwards _ ih =>
    refine ih fun next same => ?_
    have written := laid _ rfl
    unfold forwardTarget? at forwards
    split at forwards
    · next ops =>
      cases forwards
      refine whole.targets _ written _ ?_ next same
      rw [ops]
      simp [Op.allTargets, Op.targets, Route.targets]
    · cases forwards

theorem resolve {target : Target} (laid : ∀ id, target = .state id → id ∈ machine.layout) :
    ∀ id, machine.aliases.resolve target = .state id → id ∈ machine.layout :=
  whole.forwards (machine.bypasses_aliases.leads target) laid

theorem start : machine.start = machine.aliases.resolve (.state 0) := by
  rw [Machine.start, whole.begins, Option.getD_some]

/-- The smaller machine is closed. -/
theorem optimize_closed : machine.optimize.Closed where
  distinct := by
    have kept (live : List Nat) : (machine.layout.filter live.contains).Nodup := whole.distinct.filter _
    rw [optimize_layout]
    cases machine.start with
    | done => exact kept _
    | state id => exact (moveFirst_perm id _).nodup_iff.mpr (kept _)
  leads target leads := by
    cases same : target with
    | done => exact Or.inl rfl
    | state next =>
      refine Or.inr ⟨next, ?_, rfl⟩
      cases leads with
      | @op id op _ written inside leads =>
        have laid := ((mem_optimize_layout id).mp written).1
        rw [optimize_state] at inside
        have mentioned := Op.mem_allTargets.mpr ⟨_, inside, leads.mem_targets⟩
        rw [Op.allTargets_mapAll] at mentioned
        obtain ⟨before, led, resolved⟩ := List.mem_map.mp mentioned
        rw [same] at resolved
        exact written_of_target written led resolved
          (whole.resolve (whole.targets id laid before led) next resolved)
      | @taker id taker written inside =>
        rw [optimize_state] at inside
        obtain ⟨⟨index, part⟩, around, among⟩ := List.mem_flatMap.mp inside
        rcases Region.part_of_mem_takers among with ⟨rfl, entry, clause, rfl⟩ | ⟨outside, entry, given, rfl⟩
        · rw [optimize_region] at clause
          obtain ⟨before, led, rfl⟩ := List.mem_map.mp clause
          exact written_of_catch written around led same
            (whole.resolve (whole.catches index before led) next same)
        · rw [optimize_region] at given
          obtain ⟨before, led, rfl⟩ := Option.map_eq_some_iff.mp given
          exact written_of_finalizer written around outside led same
            (whole.resolve (whole.finalizer index before led) next same)

/-- The smaller machine begins where the first state leads. -/
theorem optimize_begins : machine.optimize.BeginsAt (machine.aliases.resolve (.state 0)) := by
  have laid : ∀ id, machine.aliases.resolve (.state 0) = .state id → id ∈ machine.layout :=
    whole.resolve fun id same => by
      cases same
      exact List.mem_of_mem_head? whole.begins
  cases ends : machine.aliases.resolve (.state 0) with
  | done =>
    change machine.optimize.layout = []
    rw [optimize_layout, whole.start.trans ends]
    exact List.filter_eq_nil_iff.mpr fun id _ => by simp [Machine.reachable, Machine.reach]
  | state id => exact head_optimize_layout (whole.start.trans ends) (laid id ends)

end Whole

end Machine

/-- All states of the machine of a body are written, and its operations, handlers and finalizers lead to them. -/
theorem compileBody_whole (surroundings : Surroundings) (body : List Statement) :
    (compileBody surroundings body).Whole := by
  obtain ⟨c, balanced, compiled, -⟩ := @compileBody_balanced False surroundings body False.elim
  have laid : c.layout.Perm (List.range c.states.length) := by simpa using balanced.laid
  have written {target : Target} (knows : c.Knows target) (next : Nat) (same : target = .state next) :
      next ∈ c.layout := laid.mem_iff.mpr (List.mem_range.mpr (knows next same))
  have ops (id : Nat) (target : Target) (mentioned : target ∈ Op.allTargets (c.machine.state id).ops) :
      c.Knows target := by
    rw [Machine.state, Compilation.machine] at mentioned
    cases found : c.states[id]? with
    | none => simp [found, Op.allTargets] at mentioned
    | some state =>
      rw [found] at mentioned
      obtain ⟨op, inside, mentioned⟩ := Op.mem_allTargets.mp mentioned
      exact (balanced.ops id state found op inside).1 target mentioned
  have regions (index : Nat) : (∀ entry ∈ (c.machine.region index).catches, c.Knows entry.entry) ∧
      ∀ entry ∈ (c.machine.region index).finalizer, c.Knows entry := by
    rw [Machine.region, Compilation.machine]
    cases found : c.regions[index]? with
    | none => exact ⟨by simp, by simp⟩
    | some region =>
      have inside := List.mem_of_getElem? found
      exact ⟨balanced.catches region inside, balanced.finalizer region inside⟩
  rw [compiled]
  exact
    { laid := laid
      begins := balanced.first
      targets := fun id _ target mentioned => written (ops id target mentioned)
      catches := fun index entry inside => written ((regions index).1 entry inside)
      finalizer := fun index entry given => written ((regions index).2 entry given) }

/-- The machine of any body is closed and begins with its initial state, and so is the smaller machine, which begins
with the state that the initial one leads to. If there are numbers for the states, they are told apart by them, and
nothing but the end has the number of the end. -/
theorem compileBody_closed (surroundings : Surroundings) (body : List Statement) :
    let machine := compileBody surroundings body
    (machine.Closed ∧ machine.BeginsAt (.state 0)) ∧
      (machine.optimize.Closed ∧ machine.optimize.BeginsAt (machine.aliases.resolve (.state 0))) ∧
      (machine.states.length < 2 ^ 31 - 1 → ∀ first ≤ 1, machine.Numbered first ∧ machine.optimize.Numbered first) := by
  intro machine
  have whole : machine.Whole := compileBody_whole surroundings body
  refine ⟨⟨whole.closed, whole.begins⟩, ⟨whole.optimize_closed, whole.optimize_begins⟩, fun few first near => ?_⟩
  have fits : (machine.numberedFrom first).Fits := by
    have laid := whole.laid.length_eq
    rw [List.length_range] at laid
    change first + machine.layout.length < 2147483648
    omega
  exact ⟨whole.closed.numbered fits, whole.optimize_closed.numbered (Machine.optimize_fits fits)⟩

/-- A loop that is not left: the state in front of it is bypassed, and the one behind it is dropped. -/
theorem compileBody_closed_loop :
    let machine := compileBody {} [.whileLoop (.bool true) (.expression (.callOwn yieldName [.int 1]))]
    machine.layout = [0, 1, 3, 2] ∧ machine.optimize.layout = [1] ∧ machine.optimize.Closed ∧
      machine.optimize.BeginsAt (machine.aliases.resolve (.state 0)) ∧ machine.optimize.Numbered 1 := by
  intro machine
  have closed := compileBody_closed {} [.whileLoop (.bool true) (.expression (.callOwn yieldName [.int 1]))]
  have few : machine.states.length < 2 ^ 31 - 1 := by decide +kernel
  exact ⟨by decide +kernel, by decide +kernel, closed.2.1.1, closed.2.1.2, (closed.2.2 few 1 le_rfl).2⟩

end JavaWeave.Generator
