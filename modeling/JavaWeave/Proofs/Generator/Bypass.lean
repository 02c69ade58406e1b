import JavaWeave.Generator.Optimize
import Mathlib

namespace JavaWeave.Generator

/-- A target that is not bypassed. -/
def Aliases.Keeps (aliases : Aliases) (target : Target) : Prop :=
  ∀ id, target = .state id → aliases.lookup id = none

namespace Aliases

theorem Keeps.follow {aliases : Aliases} {target : Target} (kept : aliases.Keeps target) (fuel : Nat) :
    aliases.follow fuel target = target := by
  cases target with
  | done => cases fuel <;> rfl
  | state id =>
    cases fuel with
    | zero => rfl
    | succ fuel => simp [Aliases.follow, kept id rfl]

theorem Keeps.resolve {aliases : Aliases} {target : Target} (kept : aliases.Keeps target) :
    aliases.resolve target = target := kept.follow _

private theorem lookup_cons_ne {aliases : Aliases} {id other : Nat} {target : Target} (different : other ≠ id) :
    List.lookup other ((id, target) :: aliases) = aliases.lookup other := by
  have unequal : (other == id) = false := by simpa using different
  rw [List.lookup_cons, unequal]

theorem Keeps.cons {aliases : Aliases} {id : Nat} {target other : Target} (kept : aliases.Keeps other)
    (different : other ≠ .state id) : Aliases.Keeps ((id, target) :: aliases) other := by
  intro place same
  subst same
  have elsewhere : place ≠ id := fun equal => different (equal ▸ rfl)
  rw [lookup_cons_ne elsewhere]
  exact kept place rfl

/-- The loop that follows aliases, without a bound. It ends where there is no alias. -/
inductive Follows (aliases : Aliases) : Target → Target → Prop
  | stop {target : Target} (kept : aliases.Keeps target) : Follows aliases target target
  | step {id : Nat} {next last : Target} (bound : aliases.lookup id = some next)
      (onward : Follows aliases next last) : Follows aliases (.state id) last

theorem Keeps.next_ne {aliases : Aliases} {id : Nat} {next : Target} (kept : aliases.Keeps (.state id))
    (bound : aliases.lookup id = some next) : False := by
  rw [kept id rfl] at bound
  cases bound

/-- The loop has one end. -/
theorem Follows.unique {aliases : Aliases} {start last last' : Target} (follows : aliases.Follows start last)
    (follows' : aliases.Follows start last') : last = last' := by
  induction follows with
  | stop kept =>
    cases follows' with
    | stop => rfl
    | step bound => exact (kept.next_ne bound).elim
  | step bound _ ih =>
    cases follows' with
    | stop kept => exact (kept.next_ne bound).elim
    | step bound' onward =>
      cases bound.symm.trans bound'
      exact ih onward

/-- Fuel that leads to a target without an alias was enough for the loop. -/
theorem follows_follow {aliases : Aliases} {fuel : Nat} {start : Target}
    (ends : aliases.Keeps (aliases.follow fuel start)) : aliases.Follows start (aliases.follow fuel start) := by
  induction fuel generalizing start with
  | zero => cases start <;> exact .stop ends
  | succ fuel ih =>
    cases start with
    | done => exact .stop ends
    | state id =>
      cases found : aliases.lookup id with
      | none => simpa [Aliases.follow, found] using Follows.stop fun _ same => by cases same; exact found
      | some next =>
        simp only [Aliases.follow, found] at ends ⊢
        exact .step found (ih ends)

/-- One more alias changes only what leads to its state. A state that has an alias already gets another one with the
same end. -/
private theorem follow_cons {aliases : Aliases} {id : Nat} {target : Target} (kept : aliases.Keeps target)
    (different : target ≠ .state id) (agrees : aliases.lookup id = none ∨ aliases.Follows (.state id) target)
    (fuel : Nat) (start : Target) (ends : aliases.Keeps (aliases.follow fuel start)) :
    Aliases.follow ((id, target) :: aliases) (fuel + 1) start =
      if aliases.follow fuel start = .state id then target else aliases.follow fuel start := by
  have keptAfter : Aliases.Keeps ((id, target) :: aliases) target := kept.cons different
  induction fuel generalizing start with
  | zero =>
    cases start with
    | done => rfl
    | state place =>
      have unbound : aliases.lookup place = none := ends place rfl
      by_cases same : place = id
      · subst same
        simp [Aliases.follow, keptAfter.follow]
      · simp [Aliases.follow, lookup_cons_ne same, unbound, same]
  | succ fuel ih =>
    cases start with
    | done => rfl
    | state place =>
      by_cases same : place = id
      · subst same
        rcases agrees with new | follows
        · simp [Aliases.follow, new, keptAfter.follow]
        · rw [(follows_follow ends).unique follows, if_neg different]
          simp [Aliases.follow, keptAfter.follow]
      · cases found : aliases.lookup place with
        | none => simp [Aliases.follow, lookup_cons_ne same, found, same]
        | some next =>
          have onward : aliases.Keeps (aliases.follow fuel next) := by
            simpa [Aliases.follow, found] using ends
          rw [Aliases.follow, lookup_cons_ne same, found]
          simpa [Aliases.follow, found] using ih next onward

theorem resolve_cons {aliases : Aliases} {id : Nat} {target : Target} (kept : aliases.Keeps target)
    (different : target ≠ .state id) (agrees : aliases.lookup id = none ∨ aliases.Follows (.state id) target)
    (start : Target) (ends : aliases.Keeps (aliases.resolve start)) :
    Aliases.resolve ((id, target) :: aliases) start =
      if aliases.resolve start = .state id then target else aliases.resolve start :=
  follow_cons kept different agrees aliases.length start ends

end Aliases

/-- A way through bypassed states. -/
inductive Machine.Forwards (machine : Machine) (aliases : Aliases) : Target → Target → Prop
  | refl (target : Target) : machine.Forwards aliases target target
  | step {id : Nat} {next last : Target} (bypassed : (aliases.lookup id).isSome)
      (forwards : forwardTarget? (machine.state id) = some next) (onward : machine.Forwards aliases next last) :
      machine.Forwards aliases (.state id) last

theorem Machine.Forwards.trans {machine : Machine} {aliases : Aliases} {first second third : Target}
    (before : machine.Forwards aliases first second) (after : machine.Forwards aliases second third) :
    machine.Forwards aliases first third := by
  induction before with
  | refl target => exact after
  | step bypassed forwards _ ih => exact .step bypassed forwards (ih after)

theorem Machine.Forwards.cons {machine : Machine} {aliases : Aliases} {first second target : Target} {id : Nat}
    (way : machine.Forwards aliases first second) :
    machine.Forwards ((id, target) :: aliases) first second := by
  induction way with
  | refl target => exact .refl target
  | step bypassed forwards _ ih =>
    refine .step ?_ forwards ih
    rw [List.lookup_cons]
    split
    · rfl
    · exact bypassed

/-- Aliases that bypass states which only lead on, each as far as it goes. -/
structure Machine.Bypasses (machine : Machine) (aliases : Aliases) : Prop where
  keeps : ∀ target, aliases.Keeps (aliases.resolve target)
  forwards : ∀ id, (aliases.lookup id).isSome → ∃ next, forwardTarget? (machine.state id) = some next ∧
    aliases.resolve (.state id) = aliases.resolve next
  leads : ∀ target, machine.Forwards aliases target (aliases.resolve target)

namespace Machine

variable {machine : Machine}

/-- One state of the layout is looked at. -/
def bypass (machine : Machine) (aliases : Aliases) (id : Nat) : Aliases :=
  match forwardTarget? (machine.state id) with
  | none => aliases
  | some target =>
    if aliases.resolve target = .state id then aliases else (id, aliases.resolve target) :: aliases

theorem aliases_eq (machine : Machine) : machine.aliases = machine.layout.foldl machine.bypass [] := rfl

theorem Bypasses.nil : machine.Bypasses [] where
  keeps target id _ := rfl
  forwards id bound := nomatch bound
  leads target := by
    have same : Aliases.resolve [] target = target := Aliases.Keeps.resolve fun _ _ => rfl
    rw [same]
    exact .refl target

/-- The loop that follows aliases ends where they lead to. -/
theorem Bypasses.follows {aliases : Aliases} (bypasses : machine.Bypasses aliases) (target : Target) :
    aliases.Follows target (aliases.resolve target) := Aliases.follows_follow (bypasses.keeps target)

/-- A state without an alias, or one that is looked at again. -/
private theorem Bypasses.agrees {aliases : Aliases} (bypasses : machine.Bypasses aliases) {id : Nat} {next : Target}
    (forwards : forwardTarget? (machine.state id) = some next) :
    aliases.lookup id = none ∨ aliases.resolve (.state id) = aliases.resolve next := by
  cases bound : aliases.lookup id with
  | none => exact .inl rfl
  | some target =>
    obtain ⟨onward, forwards', equal⟩ := bypasses.forwards id (by simp [bound])
    cases forwards.symm.trans forwards'
    exact .inr equal

theorem Bypasses.bypass {aliases : Aliases} (bypasses : machine.Bypasses aliases) (id : Nat) :
    machine.Bypasses (machine.bypass aliases id) := by
  unfold Machine.bypass
  split
  · exact bypasses
  · next next forwards =>
    split
    · exact bypasses
    · next different =>
      have agrees := bypasses.agrees forwards
      have follows : aliases.lookup id = none ∨ aliases.Follows (.state id) (aliases.resolve next) :=
        agrees.imp_right fun (equal : aliases.resolve (.state id) = aliases.resolve next) =>
          equal ▸ bypasses.follows (.state id)
      have updated (start : Target) := Aliases.resolve_cons (bypasses.keeps next) different follows start
        (bypasses.keeps start)
      exact
        { keeps := fun target => by
            rw [updated]
            split
            · exact (bypasses.keeps next).cons different
            · next elsewhere => exact (bypasses.keeps target).cons elsewhere
          forwards := fun place bound => by
            by_cases same : place = id
            · subst same
              refine ⟨next, forwards, ?_⟩
              rw [updated, updated, if_neg different]
              rcases agrees with new | equal
              · have kept : aliases.Keeps (.state place) := fun _ same => by cases same; exact new
                rw [if_pos kept.resolve]
              · rw [equal, if_neg different]
            · rw [Aliases.lookup_cons_ne same] at bound
              obtain ⟨onward, found, equal⟩ := bypasses.forwards place bound
              exact ⟨onward, found, by rw [updated, updated, equal]⟩
          leads := fun target => by
            rw [updated]
            split
            · next here =>
              have before := bypasses.leads target
              rw [here] at before
              refine before.cons.trans (.step ?_ forwards (bypasses.leads next).cons)
              rw [List.lookup_cons, beq_self_eq_true]
              rfl
            · exact (bypasses.leads target).cons }

private theorem bypasses_foldl (ids : List Nat) {aliases : Aliases} (bypasses : machine.Bypasses aliases) :
    machine.Bypasses (ids.foldl machine.bypass aliases) := by
  induction ids generalizing aliases with
  | nil => exact bypasses
  | cons id rest ih => exact ih (bypasses.bypass id)

theorem bypasses_aliases (machine : Machine) : machine.Bypasses machine.aliases := by
  rw [aliases_eq]
  exact bypasses_foldl machine.layout .nil

/-- The number of targets that states outside a list lead to at once. -/
private def cost (machine : Machine) (ids live : List Nat) : Nat :=
  ((ids.filter (!live.contains ·)).map fun id => (machine.successors id).length).sum

private theorem cost_cons {ids live : List Nat} (distinct : ids.Nodup) {id : Nat} (new : id ∉ live) :
    cost machine ids (id :: live) + (if id ∈ ids then (machine.successors id).length else 0) =
      cost machine ids live := by
  induction ids with
  | nil => rfl
  | cons other rest ih =>
    rw [List.nodup_cons] at distinct
    have onward := ih distinct.2
    simp only [cost] at onward ⊢
    by_cases same : other = id
    · subst same
      rw [if_neg distinct.1] at onward
      simp [new] at onward ⊢
      omega
    · by_cases inside : other ∈ live
      · simpa [same, inside, Ne.symm same] using onward
      · simp [same, inside, Ne.symm same] at onward ⊢
        omega

private theorem successors_of_le {id : Nat} (outside : machine.states.length ≤ id) : machine.successors id = [] := by
  simp [Machine.successors, Machine.state, List.getElem?_eq_none outside, Op.allTargets]

/-- With enough fuel the states that are collected are closed under what they lead to. -/
private theorem reach_closed (fuel : Nat) (pending : List Target) (live : List Nat)
    (enough : pending.length + cost machine (List.range machine.states.length) live ≤ fuel) :
    (∀ id ∈ live, id ∈ machine.reach fuel pending live) ∧
      (∀ id, .state id ∈ pending → id ∈ machine.reach fuel pending live) ∧
      ∀ id ∈ machine.reach fuel pending live, id ∉ live →
        ∀ next, .state next ∈ machine.successors id → next ∈ machine.reach fuel pending live := by
  induction fuel generalizing pending live with
  | zero =>
    cases pending with
    | nil => exact ⟨fun _ member => member, fun _ member => by simp at member, fun _ member new => absurd member new⟩
    | cons _ _ => simp at enough
  | succ fuel ih =>
    match pending with
    | [] => exact ⟨fun _ member => member, fun _ member => by simp at member, fun _ member new => absurd member new⟩
    | .done :: pending =>
      obtain ⟨old, queued, closed⟩ := ih pending live (by simp at enough; omega)
      simp only [Machine.reach]
      exact ⟨old, fun id member => queued id (by simpa using member), closed⟩
    | .state place :: pending =>
      simp only [Machine.reach]
      by_cases inside : place ∈ live
      · obtain ⟨old, queued, closed⟩ := ih pending live (by simp at enough; omega)
        simp only [List.contains_iff_mem.mpr inside, if_true]
        refine ⟨old, fun id member => ?_, closed⟩
        rcases List.mem_cons.mp member with same | later
        · cases same
          exact old _ inside
        · exact queued id later
      · have fewer := @cost_cons machine (List.range machine.states.length) live List.nodup_range place inside
        have added : (machine.successors place ++ pending).length +
            cost machine (List.range machine.states.length) (place :: live) ≤ fuel := by
          simp only [List.length_append, List.length_cons] at enough ⊢
          split at fewer
          · omega
          · next outside =>
            rw [successors_of_le (by simpa using outside)]
            simp only [List.length_nil]
            omega
        obtain ⟨old, queued, closed⟩ := ih _ _ added
        have absent : live.contains place = false := by simpa using inside
        simp only [absent, Bool.false_eq_true, if_false]
        have reached := old place List.mem_cons_self
        refine ⟨fun id member => old id (List.mem_cons_of_mem _ member), fun id member => ?_, ?_⟩
        · rcases List.mem_cons.mp member with same | later
          · cases same
            exact reached
          · exact queued id (List.mem_append_right _ later)
        · intro id member new next leads
          by_cases same : id = place
          · subst same
            exact queued next (List.mem_append_left _ leads)
          · exact closed id member (by simp [same, new]) next leads

private theorem cost_range (count : Nat) :
    cost machine (List.range count) [] = ((List.range count).flatMap machine.successors).length := by
  simp [cost, List.length_flatMap]

theorem mem_reachable_start {machine : Machine} {id : Nat} : id ∈ machine.reachable (.state id) := by
  refine (reach_closed _ _ [] ?_).2.1 id List.mem_cons_self
  rw [cost_range]
  simp
  omega

/-- What a reachable state leads to is reachable. -/
theorem mem_reachable_of_successors {machine : Machine} {start : Target} {id next : Nat}
    (reached : id ∈ machine.reachable start) (leads : .state next ∈ machine.successors id) :
    next ∈ machine.reachable start := by
  refine (reach_closed _ _ [] ?_).2.2 id reached (by simp) next leads
  rw [cost_range]
  simp
  omega

end Machine

namespace Op

theorem routes_map (exits : Exits) (f : Target → Target) : (exits.map f).routes = exits.routes.map (·.map f) := by
  obtain ⟨onBreak, onContinue, labels, onReturn⟩ := exits
  have toList (route : Option Route) : (route.map (·.map f)).toList = route.toList.map (·.map f) := by
    cases route <;> rfl
  simp only [Exits.routes, Exits.map, List.map_append, List.flatMap_map, List.map_flatMap, toList, List.map_cons,
    List.map_nil]

theorem targets_routeMap (route : Route) (f : Target → Target) : (route.map f).targets = route.targets.map f := by
  simp [Route.targets, Route.map]

mutual

theorem targets_map (f : Target → Target) : (op : Op) → (op.map f).targets = op.targets.map f
  | .code _ => rfl
  | .leaving _ exits => by
    simp only [Op.map, targets, routes_map, List.flatMap_map, List.map_flatMap, targets_routeMap]
  | .branch _ ops => by
    simp only [Op.map, targets]
    exact allTargets_mapAll f ops
  | .jump route => targets_routeMap route f
  | .yield _ _ => rfl
  | .dispatch _ arms => by simp [Op.map, targets]
  | .endFinalizer _ => rfl

/-- Other targets are mentioned in the same places. -/
theorem allTargets_mapAll (f : Target → Target) : (ops : List Op) →
    allTargets (mapAll f ops) = (allTargets ops).map f
  | [] => rfl
  | op :: rest => by
    simp only [mapAll, allTargets, List.map_append]
    rw [targets_map f op, allTargets_mapAll f rest]

end

end Op

namespace Machine

variable {machine : Machine}

theorem state_mapTargets (f : Target → Target) (id : Nat) :
    (machine.mapTargets f).state id =
      { machine.state id with ops := Op.mapAll f (machine.state id).ops } := by
  simp only [Machine.state, Machine.mapTargets, List.getElem?_map]
  cases machine.states[id]? <;> rfl

theorem region_mapTargets (f : Target → Target) (index : Nat) :
    (machine.mapTargets f).region index =
      { catches := (machine.region index).catches.map fun entry => { entry with entry := f entry.entry }
        finalizer := (machine.region index).finalizer.map f } := by
  simp only [Machine.region, Machine.mapTargets, List.getElem?_map]
  cases machine.regions[index]? <;> rfl

theorem mem_moveFirst [BEq α] [LawfulBEq α] (item : α) (items : List α) (x : α) :
    x ∈ moveFirst item items ↔ x ∈ items := by
  unfold moveFirst
  split
  · next inside =>
    have member := List.contains_iff_mem.mp inside
    by_cases same : x = item
    · subst same
      simp [member]
    · simp [same, List.mem_erase_of_ne]
  · rfl

/-- The first state of the optimized machine. -/
def start (machine : Machine) : Target := machine.aliases.resolve (.state (machine.layout.head?.getD 0))

@[simp] theorem optimize_state (id : Nat) :
    machine.optimize.state id =
      { machine.state id with ops := Op.mapAll machine.aliases.resolve (machine.state id).ops } :=
  state_mapTargets machine.aliases.resolve id

@[simp] theorem optimize_region (index : Nat) :
    machine.optimize.region index =
      { catches := (machine.region index).catches.map fun entry =>
          { entry with entry := machine.aliases.resolve entry.entry }
        finalizer := (machine.region index).finalizer.map machine.aliases.resolve } :=
  region_mapTargets machine.aliases.resolve index

theorem optimize_layout : machine.optimize.layout =
    match machine.start with
    | .done => machine.layout.filter ((machine.mapTargets machine.aliases.resolve).reachable machine.start).contains
    | .state id => moveFirst id
      (machine.layout.filter ((machine.mapTargets machine.aliases.resolve).reachable machine.start).contains) := rfl

/-- The states that are written are those that the first one leads to. -/
theorem mem_optimize_layout (id : Nat) : id ∈ machine.optimize.layout ↔
    id ∈ machine.layout ∧ id ∈ (machine.mapTargets machine.aliases.resolve).reachable machine.start := by
  rw [optimize_layout]
  cases machine.start with
  | done => simp
  | state first => simp [mem_moveFirst]

theorem length_moveFirst [BEq α] [LawfulBEq α] (item : α) (items : List α) :
    (moveFirst item items).length = items.length := by
  unfold moveFirst
  split
  · next inside =>
    have member := List.contains_iff_mem.mp inside
    have positive := List.length_pos_of_mem member
    rw [List.length_cons, List.length_erase_of_mem member]
    omega
  · rfl

theorem length_optimize_layout : machine.optimize.layout.length ≤ machine.layout.length := by
  rw [optimize_layout]
  cases machine.start with
  | done => exact List.length_filter_le _ _
  | state first =>
    rw [length_moveFirst]
    exact List.length_filter_le _ _

/-- The first state stays the first one. -/
theorem head_optimize_layout {first : Nat} (starts : machine.start = .state first)
    (member : first ∈ machine.layout) : machine.optimize.layout.head? = some first := by
  rw [optimize_layout, starts]
  have reached : first ∈ machine.layout.filter
      ((machine.mapTargets machine.aliases.resolve).reachable (.state first)).contains := by
    simp [member, mem_reachable_start]
  simp [moveFirst, reached]

/-- What the code of a written state leads to is written. -/
theorem written_of_target {id next : Nat} {target : Target} (written : id ∈ machine.optimize.layout)
    (leads : target ∈ Op.allTargets (machine.state id).ops) (resolved : machine.aliases.resolve target = .state next)
    (laid : next ∈ machine.layout) : next ∈ machine.optimize.layout := by
  refine (mem_optimize_layout next).mpr ⟨laid, ?_⟩
  refine mem_reachable_of_successors ((mem_optimize_layout id).mp written).2 (List.mem_append_left _ ?_)
  rw [state_mapTargets, Op.allTargets_mapAll]
  exact List.mem_map.mpr ⟨target, leads, resolved⟩

/-- The handlers of a written state are written. -/
theorem written_of_catch {id next index : Nat} {entry : CatchEntry} (written : id ∈ machine.optimize.layout)
    (around : (index, Part.body) ∈ (machine.state id).context)
    (leads : entry ∈ (machine.region index).catches)
    (resolved : machine.aliases.resolve entry.entry = .state next) (laid : next ∈ machine.layout) :
    next ∈ machine.optimize.layout := by
  refine (mem_optimize_layout next).mpr ⟨laid, ?_⟩
  refine mem_reachable_of_successors ((mem_optimize_layout id).mp written).2 (List.mem_append_right _ ?_)
  rw [state_mapTargets]
  refine List.mem_flatMap.mpr ⟨_, around, List.mem_append_left _ ?_⟩
  simp only [if_true, region_mapTargets, List.map_map, List.mem_map, Function.comp_apply]
  exact ⟨entry, leads, resolved⟩

/-- The finalizers of a written state are written. -/
theorem written_of_finalizer {id next index : Nat} {part : Part} {entry : Target}
    (written : id ∈ machine.optimize.layout) (around : (index, part) ∈ (machine.state id).context)
    (outside : part ≠ .finalizer) (leads : (machine.region index).finalizer = some entry)
    (resolved : machine.aliases.resolve entry = .state next) (laid : next ∈ machine.layout) :
    next ∈ machine.optimize.layout := by
  refine (mem_optimize_layout next).mpr ⟨laid, ?_⟩
  refine mem_reachable_of_successors ((mem_optimize_layout id).mp written).2 (List.mem_append_right _ ?_)
  rw [state_mapTargets]
  refine List.mem_flatMap.mpr ⟨_, around, List.mem_append_right _ ?_⟩
  simp [outside, region_mapTargets, leads, resolved]

end Machine

end JavaWeave.Generator
