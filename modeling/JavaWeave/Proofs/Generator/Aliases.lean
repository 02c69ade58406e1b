import JavaWeave.Proofs.Generator.Bypass
import Mathlib.Logic.Relation

/-! How the states to bypass are found. The loops that find them and that follow them are told without a bound; they
end for every machine, also where states lead back to themselves or to each other. What they find has no cycle, and
a target is replaced by one that control gets to from it through bypassed states alone. -/

namespace JavaWeave.Generator

/-- One alias is followed. -/
inductive Aliases.Step (aliases : Aliases) : Target → Target → Prop
  | mk {id : Nat} {next : Target} (bound : aliases.lookup id = some next) : Step aliases (.state id) next

/-- The loop over the states of a layout, from some aliases to those that it ends with. Each rule but the first is one
round; the loop that follows the aliases of before runs in it. -/
inductive Machine.Gathers (machine : Machine) : Aliases → List Nat → Aliases → Prop
  | finished {aliases : Aliases} : Gathers machine aliases [] aliases
  | acts {aliases last : Aliases} {id : Nat} {rest : List Nat} (acts : forwardTarget? (machine.state id) = none)
      (onward : Gathers machine aliases rest last) : Gathers machine aliases (id :: rest) last
  | returns {aliases last : Aliases} {id : Nat} {rest : List Nat} {next : Target}
      (forwards : forwardTarget? (machine.state id) = some next) (follows : aliases.Follows next (.state id))
      (onward : Gathers machine aliases rest last) : Gathers machine aliases (id :: rest) last
  | leaves {aliases last : Aliases} {id : Nat} {rest : List Nat} {next target : Target}
      (forwards : forwardTarget? (machine.state id) = some next) (follows : aliases.Follows next target)
      (different : target ≠ .state id) (onward : Gathers machine ((id, target) :: aliases) rest last) :
      Gathers machine aliases (id :: rest) last

namespace Aliases

variable {aliases : Aliases} {first next last : Target}

/-- Where the loop ends, no alias is left to follow. -/
theorem Follows.kept (follows : aliases.Follows first last) : aliases.Keeps last := by
  induction follows with
  | stop kept => exact kept
  | step _ _ ih => exact ih

/-- A target from which the loop ends is on no cycle. -/
theorem Follows.acyclic (follows : aliases.Follows first last) : ¬ Relation.TransGen aliases.Step first first := by
  induction follows with
  | stop kept =>
    intro cycle
    obtain ⟨_, ⟨bound⟩, _⟩ := Relation.TransGen.head'_iff.mp cycle
    exact kept.next_ne bound
  | step bound _ ih =>
    intro cycle
    obtain ⟨_, ⟨bound'⟩, back⟩ := Relation.TransGen.head'_iff.mp cycle
    cases bound.symm.trans bound'
    -- the cycle is also one of the target that comes next
    exact ih (Relation.TransGen.tail' back ⟨bound⟩)

theorem Keeps.done_or_unbound {target : Target} (kept : aliases.Keeps target) :
    target = .done ∨ ∃ id, target = .state id ∧ aliases.lookup id = none := by
  cases target with
  | done => exact .inl rfl
  | state id => exact .inr ⟨id, rfl, kept id rfl⟩

end Aliases

namespace Machine

variable {machine : Machine}

/-- The rounds over a list of states do what the loop does. -/
private theorem Bypasses.gathers {aliases : Aliases} (bypasses : machine.Bypasses aliases) (ids : List Nat) :
    machine.Gathers aliases ids (ids.foldl machine.bypass aliases) := by
  induction ids generalizing aliases with
  | nil => exact .finished
  | cons id rest ih =>
    have onward := ih (bypasses.bypass id)
    rw [List.foldl_cons]
    cases forwards : forwardTarget? (machine.state id) with
    | none =>
      have same : machine.bypass aliases id = aliases := by simp only [Machine.bypass, forwards]
      rw [same] at onward ⊢
      exact .acts forwards onward
    | some next =>
      have follows := bypasses.follows next
      by_cases back : aliases.resolve next = .state id
      · have same : machine.bypass aliases id = aliases := by simp only [Machine.bypass, forwards, if_pos back]
        rw [same] at onward ⊢
        exact .returns forwards (back ▸ follows) onward
      · have added : machine.bypass aliases id = (id, aliases.resolve next) :: aliases := by
          simp only [Machine.bypass, forwards, if_neg back]
        rw [added] at onward ⊢
        exact .leaves forwards follows back onward

/-- The loop over the layout has one end. -/
theorem Gathers.unique {aliases last last' : Aliases} {ids : List Nat} (gathers : machine.Gathers aliases ids last)
    (gathers' : machine.Gathers aliases ids last') : last = last' := by
  induction gathers with
  | finished => cases gathers'; rfl
  | acts acts _ ih =>
    cases gathers' with
    | acts _ onward => exact ih onward
    | returns forwards | leaves forwards => rw [acts] at forwards; cases forwards
  | returns forwards follows _ ih =>
    cases gathers' with
    | acts acts => rw [acts] at forwards; cases forwards
    | returns _ _ onward => exact ih onward
    | leaves forwards' follows' different =>
      cases forwards.symm.trans forwards'
      exact absurd (follows'.unique follows) different
  | leaves forwards follows different _ ih =>
    cases gathers' with
    | acts acts => rw [acts] at forwards; cases forwards
    | returns forwards' follows' =>
      cases forwards.symm.trans forwards'
      exact absurd (follows.unique follows') different
    | leaves forwards' follows' _ onward =>
      cases forwards.symm.trans forwards'
      cases follows.unique follows'
      exact ih onward

/-- Bypassing states ends and is faithful, for every machine. The loop over the layout ends, and with the aliases of
the machine; the loop that follows them ends, from each target, at what the target is replaced by; no alias is on a
cycle; what a target is replaced by is the end of the body or a state that is not bypassed; and it is one that the
jumps of bypassed states, which do nothing else, lead to from the target. -/
theorem aliases_faithful (machine : Machine) :
    (∀ aliases, machine.Gathers [] machine.layout aliases ↔ aliases = machine.aliases) ∧
      (∀ target last, machine.aliases.Follows target last ↔ last = machine.aliases.resolve target) ∧
      (∀ target, ¬ Relation.TransGen machine.aliases.Step target target) ∧
      (∀ target, machine.aliases.resolve target = .done ∨
        ∃ id, machine.aliases.resolve target = .state id ∧ machine.aliases.lookup id = none) ∧
      ∀ target, machine.Forwards machine.aliases target (machine.aliases.resolve target) := by
  have bypasses := machine.bypasses_aliases
  have gathers : machine.Gathers [] machine.layout machine.aliases := by
    rw [aliases_eq]
    exact Bypasses.nil.gathers machine.layout
  exact ⟨fun aliases => ⟨fun gathers' => gathers'.unique gathers, fun same => same ▸ gathers⟩,
    fun target last => ⟨fun follows => follows.unique (bypasses.follows target),
      fun same => same ▸ bypasses.follows target⟩,
    fun target => (bypasses.follows target).acyclic,
    fun target => (bypasses.follows target).kept.done_or_unbound, bypasses.leads⟩

/-- Three states lead to each other in a circle, one to itself; one of the circle is kept, and so is the fourth. One
state is looked at twice. -/
example :
    let forwarding (id : Nat) : State := { ops := [.jump (.direct (.state id))] }
    Machine.aliases { states := [1, 2, 0, 3].map forwarding, layout := [1, 0, 2, 3, 1] } =
      [(1, .state 2), (0, .state 2), (1, .state 2)] := by decide

end Machine

end JavaWeave.Generator
