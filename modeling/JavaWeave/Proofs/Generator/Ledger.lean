import JavaWeave.Proofs.Generator.Compiling
import Mathlib.Data.List.Basic
import Mathlib.Order.Nat
import JavaWeave.Proofs.Generator.Silence

/-! The books that the compilation of any body keeps: every state that is made is laid out once, operations lead to
states that have been made, and in a checked body each call of `yield` becomes one operation that hands out its
value. -/

namespace JavaWeave.Generator

open Syntax

mutual

/-- No call of `yield` stands in what an operation carries. -/
def Op.Silent : Op → Prop
  | .code s | .leaving s _ => Generator.Silent (.statement s)
  | .branch condition ops => Generator.Silent (.expression condition) ∧ Op.AllSilent ops
  | .yield value _ => Generator.Silent (.expression value)
  | .dispatch selector arms =>
    Generator.Silent (.expression selector) ∧ ∀ arm ∈ arms, ∀ label ∈ arm.1, Generator.Silent (.expression label)
  | .jump _ | .endFinalizer _ => True

def Op.AllSilent : List Op → Prop
  | [] => True
  | op :: rest => op.Silent ∧ Op.AllSilent rest

end

/-- The value that an operation hands out. -/
def Op.value? : Op → Option Expression
  | .yield value _ => some value
  | _ => none

/-- The values that the states of a machine hand out. -/
def valuesOf (states : List State) : List Expression := states.flatMap fun state => state.ops.filterMap Op.value?

/-- A compilation between two steps. The states that are owed have been made and are not laid out yet. Whether the
body has been checked is told by `accepted`. -/
structure Compilation.Balanced (accepted : Prop) (owed : List Nat) (c : Compilation) : Prop where
  grounded : c.Grounded
  laid : (c.layout ++ owed).Perm (List.range c.states.length)
  first : c.layout.head? = some 0
  current : c.current < c.states.length
  ops : ∀ (id : Nat) (state : State), c.states[id]? = some state → ∀ op ∈ state.ops,
    (∀ target ∈ op.targets, c.Knows target) ∧ (accepted → op.Silent)
  catches : ∀ region ∈ c.regions, ∀ entry ∈ region.catches, c.Knows entry.entry
  finalizer : ∀ region ∈ c.regions, ∀ entry ∈ region.finalizer, c.Knows entry

/-- One compilation has become another that is balanced, and has added operations that hand out the values. -/
structure Compilation.Settled (accepted : Prop) (left : List Nat) (values : List Expression) (c c' : Compilation) :
    Prop where
  balanced : c'.Balanced accepted left
  grows : c.Grows c'
  values : accepted → (valuesOf c'.states).Perm (valuesOf c.states ++ values)

/-- Steps that keep the books: from a compilation with so many states that owes the first states to one that owes the
others. -/
def Accounts (accepted : Prop) (size : Nat) (owed left : List Nat) (values : List Expression) (steps : Compiling α) :
    Prop :=
  ∀ ⦃known : Surroundings⦄ ⦃c c' : Compilation⦄ ⦃result : α⦄, c.Balanced accepted owed → size ≤ c.states.length →
    Compiles known steps c result c' → c.Settled accepted left values c'

namespace Compilation

theorem Grows.length_le {c c' : Compilation} (grows : c.Grows c') : c.states.length ≤ c'.states.length := by
  by_contra fewer
  have made := grows.made (show c'.states.length < c.states.length by omega)
  omega

variable {accepted : Prop} {owed middle left : List Nat} {values values' : List Expression} {c c' c'' : Compilation}

theorem Balanced.settled (balanced : c.Balanced accepted owed) : c.Settled accepted owed [] c :=
  ⟨balanced, .refl c, fun _ => by rw [List.append_nil]⟩

theorem Settled.trans (first : c.Settled accepted middle values c') (second : c'.Settled accepted left values' c'') :
    c.Settled accepted left (values ++ values') c'' where
  balanced := second.balanced
  grows := first.grows.trans second.grows
  values checked := by
    rw [← List.append_assoc]
    exact (second.values checked).trans ((first.values checked).append_right values')

/-- What stands around and what is declared may change without the states. -/
theorem Balanced.surround (balanced : c.Balanced accepted owed) (grounded : c'.Grounded) (states : c'.states = c.states)
    (layout : c'.layout = c.layout) (current : c'.current = c.current) (regions : c'.regions = c.regions)
    (lifted : ∀ name, c.Declares name → c'.Declares name) : Settled accepted owed [] c c' where
  balanced :=
    { grounded := grounded
      laid := by
        rw [layout, states]
        exact balanced.laid
      first := by
        rw [layout]
        exact balanced.first
      current := by
        rw [current, states]
        exact balanced.current
      ops := by
        simp only [Knows, states]
        exact balanced.ops
      catches := by
        simp only [Knows, states, regions]
        exact balanced.catches
      finalizer := by
        simp only [Knows, states, regions]
        exact balanced.finalizer }
  grows := ⟨by rw [states]; exact (Grows.refl c).states, lifted⟩
  values _ := by rw [states, List.append_nil]

/-- A new state is owed. -/
theorem Balanced.state (balanced : c.Balanced accepted owed) :
    Settled accepted (c.states.length :: owed) [] c { c with states := c.states ++ [{ context := c.context }] } := by
  have longer : c.states.length < (c.states ++ [({ context := c.context } : State)]).length := by simp
  have grows : c.Grows { c with states := c.states ++ [{ context := c.context }] } :=
    ⟨fun id state found => ⟨state, by rw [List.getElem?_append_left (List.getElem?_eq_some_iff.mp found).1, found], rfl⟩,
      fun _ declared => declared⟩
  have knows {target : Target} (knows : c.Knows target) :
      Knows { c with states := c.states ++ [{ context := c.context }] } target := knows.grow grows
  have advances : c.Advances 0 { c with states := c.states ++ [{ context := c.context }] } :=
    { grows with regions := rfl, context := rfl, frames := rfl, finalizers := rfl }
  refine ⟨?_, grows, fun _ => by simp [valuesOf]⟩
  exact
    { grounded := balanced.grounded.advance advances
      laid := by
        simp only [List.length_append, List.length_singleton, List.range_succ]
        exact List.perm_middle.trans ((balanced.laid.cons _).trans (List.perm_append_singleton _ _).symm)
      first := balanced.first
      current := balanced.current.trans longer
      ops := by
        intro id state found op member
        rw [List.getElem?_append] at found
        split at found
        · obtain ⟨targets, silent⟩ := balanced.ops id state found op member
          exact ⟨fun target inside => knows (targets target inside), silent⟩
        · obtain rfl := List.mem_singleton.mp (List.mem_of_getElem? found)
          cases member
      catches := fun region inside entry handler => knows (balanced.catches region inside entry handler)
      finalizer := fun region inside entry given => knows (balanced.finalizer region inside entry given) }

/-- A state that is owed is laid out. -/
theorem Balanced.start {id : Nat} (balanced : c.Balanced accepted owed) (paid : owed.Perm (id :: left)) :
    Settled accepted left [] c { c with current := id, closed := false, layout := c.layout ++ [id] } := by
  have laid : (c.layout ++ [id] ++ left).Perm (List.range c.states.length) := by
    rw [List.append_assoc]
    exact (List.Perm.append_left c.layout paid.symm).trans balanced.laid
  have advances : c.Advances 0 { c with current := id, closed := false, layout := c.layout ++ [id] } :=
    { Advances.refl c with }
  refine ⟨?_, advances.toGrows, fun _ => by rw [List.append_nil]⟩
  exact
    { grounded := balanced.grounded.advance advances
      laid := laid
      first := by
        rw [List.head?_append, balanced.first]
        rfl
      current := List.mem_range.mp (laid.mem_iff.mp (by simp))
      ops := balanced.ops
      catches := balanced.catches
      finalizer := balanced.finalizer }

private theorem perm_flatMap_modify {α β : Type} {items : List α} {place : Nat} (inside : place < items.length)
    (change : α → α) (view : α → List β) (extra : List β) (more : ∀ item, view (change item) = view item ++ extra) :
    ((items.modify place change).flatMap view).Perm (items.flatMap view ++ extra) := by
  induction items generalizing place with
  | nil => cases inside
  | cons item rest ih =>
    cases place with
    | zero =>
      rw [List.modify_zero_cons, List.flatMap_cons, List.flatMap_cons, more, List.append_assoc, List.append_assoc]
      exact List.perm_append_comm.append_left _
    | succ place =>
      rw [List.modify_succ_cons, List.flatMap_cons, List.flatMap_cons, List.append_assoc]
      exact (ih (Nat.lt_of_succ_lt_succ inside)).append_left _

/-- An operation is added that leads to states that have been made. -/
theorem Balanced.add {op : Op} (balanced : c.Balanced accepted owed) (knows : ∀ target ∈ op.targets, c.Knows target)
    (silent : accepted → op.Silent) : Settled accepted owed op.value?.toList c (c.added op) := by
  have length : (c.added op).states.length = c.states.length := by simp [added]
  refine ⟨?_, (advances_added op).toGrows, fun _ => ?_⟩
  · exact
      { grounded := balanced.grounded.advance (advances_added op)
        laid := by
          rw [length]
          exact balanced.laid
        first := balanced.first
        current := by
          rw [length]
          exact balanced.current
        ops := by
          intro id state written other member
          obtain ⟨before, found, rfl⟩ := of_getElem?_added written
          have both : (∀ target ∈ other.targets, c.Knows target) ∧ (accepted → other.Silent) := by
            rcases List.mem_append.mp member with old | new
            · exact balanced.ops id before found other old
            · split at new
              · obtain rfl := List.mem_singleton.mp new
                exact ⟨knows, silent⟩
              · cases new
          exact ⟨fun target inside => (both.1 target inside).grow (advances_added op).toGrows, both.2⟩
        catches := fun region inside entry handler =>
          (balanced.catches region inside entry handler).grow (advances_added op).toGrows
        finalizer := fun region inside entry given =>
          (balanced.finalizer region inside entry given).grow (advances_added op).toGrows }
  · refine perm_flatMap_modify balanced.current _ _ _ fun state => ?_
    rw [List.filterMap_append]
    cases op <;> rfl

end Compilation

section

variable {accepted : Prop} {size : Nat} {owed middle left : List Nat} {values values' : List Expression}

theorem accounts_pure (value : α) : Accounts accepted size owed owed [] (pure value : Compiling α) := by
  intro known c c' result balanced _ run
  obtain ⟨_, rfl⟩ := run.pure
  exact balanced.settled

namespace Accounts

variable {steps : Compiling α} {next : α → Compiling β}

theorem bind (accounts : Accounts accepted size owed middle values steps)
    (onward : ∀ value, Accounts accepted size middle left values' (next value)) :
    Accounts accepted size owed left (values ++ values') (steps >>= next) := by
  intro known c c' result balanced enough run
  obtain ⟨value, between, first, second⟩ := run.bind
  have settled := accounts balanced enough first
  exact settled.trans (onward value settled.balanced (enough.trans settled.grows.length_le) second)

/-- Steps that hand out nothing. -/
theorem first (accounts : Accounts accepted size owed middle [] steps)
    (onward : ∀ value, Accounts accepted size middle left values (next value)) :
    Accounts accepted size owed left values (steps >>= next) := accounts.bind onward

theorem last (accounts : Accounts accepted size owed middle values steps)
    (onward : ∀ value, Accounts accepted size middle left [] (next value)) :
    Accounts accepted size owed left values (steps >>= next) :=
  List.append_nil values ▸ accounts.bind onward

theorem handsOut (accounts : Accounts accepted size owed left values steps) (same : accepted → values = values') :
    Accounts accepted size owed left values' steps := by
  intro known c c' result balanced enough run
  have settled := accounts balanced enough run
  exact { settled with values := fun checked => same checked ▸ settled.values checked }

/-- More states may have been made. -/
theorem later {size' : Nat} (accounts : Accounts accepted size owed left values steps) (larger : size ≤ size') :
    Accounts accepted size' owed left values steps :=
  fun _ _ _ _ balanced enough run => accounts balanced (larger.trans enough) run

end Accounts

/-- Steps that look at the compilation. -/
theorem accounts_get {next : Compilation → Compiling α} (onward : ∀ c : Compilation, c.Balanced accepted owed →
    size ≤ c.states.length → Accounts accepted c.states.length owed left values (next c)) :
    Accounts accepted size owed left values (get >>= next) := by
  intro known c c' result balanced enough run
  obtain ⟨_, _, got, run⟩ := run.bind
  obtain ⟨rfl, rfl⟩ := got.get
  exact onward c balanced enough balanced le_rfl run

/-- Steps with a new state, which is owed. -/
theorem accounts_newState {next : Nat → Compiling α}
    (onward : ∀ id, size ≤ id → Accounts accepted (id + 1) (id :: owed) left values (next id)) :
    Accounts accepted size owed left values (newState >>= next) := by
  intro known c c' result balanced enough run
  obtain ⟨id, between, made, run⟩ := run.bind
  obtain ⟨rfl, rfl⟩ : c.states.length = id ∧ { c with states := c.states ++ [{ context := c.context }] } = between :=
    Prod.mk.inj made
  have settled := balanced.state
  exact settled.trans (onward c.states.length enough settled.balanced (by simp) run)

/-- A state that is owed is laid out. -/
theorem accounts_startState {id : Nat} (paid : owed.Perm (id :: left)) :
    Accounts accepted size owed left [] (startState id) := by
  intro known c c' result balanced _ run
  obtain rfl := run.modify
  exact balanced.start paid

/-- An operation is added; behind a transfer a state of its own is made and laid out at once. -/
theorem accounts_emit {op : Op} (knows : ∀ id, .state id ∈ op.targets → id < size) (silent : accepted → op.Silent) :
    Accounts accepted size owed owed op.value?.toList (emit op) := by
  refine accounts_get fun c _ enough => ?_
  have adds : ∀ size', size ≤ size' → Accounts accepted size' owed owed op.value?.toList
      (modify fun c : Compilation =>
        { c with states := c.states.modify c.current fun state => { state with ops := state.ops ++ [op] } }) := by
    intro size' larger known c c' result balanced enough' run
    obtain rfl := run.modify
    refine balanced.add (fun target inside => ?_) silent
    rintro id rfl
    have := knows id inside
    omega
  split
  · exact accounts_newState fun id later => (accounts_startState (.refl _)).first fun _ => adds (id + 1) (by omega)
  · exact adds _ enough

theorem accounts_close : Accounts accepted size owed owed [] close := by
  intro known c c' result balanced _ run
  obtain rfl := run.modify
  have grounded := balanced.grounded.advance (show c.Advances 0 { c with closed := true } from
    { Compilation.Advances.refl c with })
  exact balanced.surround grounded rfl rfl rfl rfl fun _ declared => declared

theorem accounts_terminate {op : Op} (knows : ∀ id, .state id ∈ op.targets → id < size) (silent : accepted → op.Silent) :
    Accounts accepted size owed owed op.value?.toList (terminate op) :=
  (accounts_emit knows silent).last fun _ => accounts_close

theorem accounts_jumpBy {route : Route} (knows : ∀ id, .state id ∈ route.targets → id < size) :
    Accounts accepted size owed owed [] (jumpBy route) := by
  refine accounts_get fun c _ enough => ?_
  split
  · exact accounts_pure _
  · exact accounts_terminate (fun id inside => (knows id inside).trans_le enough) fun _ => trivial

theorem accounts_jumpTo {id : Nat} (made : id < size) : Accounts accepted size owed owed [] (jumpTo id) :=
  accounts_jumpBy fun other inside => by
    obtain rfl : other = id := by simpa [Route.direct, Route.targets] using inside
    exact made

theorem accounts_enter {id : Nat} (made : id < size) (paid : owed.Perm (id :: left)) :
    Accounts accepted size owed left [] (enter id) :=
  (accounts_jumpTo made).first fun _ => accounts_startState paid

theorem accounts_endLoop {head exit : Nat} (made : head < size) (paid : owed.Perm (exit :: left)) :
    Accounts accepted size owed left [] (endLoop head exit) :=
  (accounts_jumpTo made).first fun _ => accounts_startState paid

theorem accounts_liftVariable (name : String) (type : JavaType) :
    Accounts accepted size owed owed [] (liftVariable name type) := by
  intro known c c' result balanced _ run
  obtain rfl := run.modify
  have advances : c.Advances 0 { c with lifted := lift c.lifted name type } :=
    { Compilation.Advances.refl c with
      lifted := (Compilation.isSome_lookup_lift c.lifted name type).2 }
  exact balanced.surround (balanced.grounded.advance advances) rfl rfl rfl rfl advances.lifted

theorem accounts_leaveUnless {condition : Expression} {id : Nat} (made : id < size)
    (silent : accepted → Silent (.expression condition)) :
    Accounts accepted size owed owed [] (leaveUnless condition id) := by
  refine accounts_emit (fun other inside => ?_) fun checked => ?_
  · obtain rfl : other = id := by
      simpa [Op.targets, Op.allTargets, Route.direct, Route.targets] using inside
    exact made
  · exact ⟨(silent_iff _).mpr ⟨rfl, List.forall_mem_singleton.mpr (silent checked)⟩, trivial, trivial⟩

theorem accounts_exitUnless {condition : Expression} {id : Nat} (made : id < size)
    (silent : accepted → Silent (.expression condition)) :
    Accounts accepted size owed owed [] (exitUnless condition id) := by
  unfold exitUnless
  split
  · exact accounts_pure _
  · exact accounts_leaveUnless made silent

/-- An expression that the compilation adds itself. -/
theorem accounts_evaluate {e : Expression} (silent : accepted → Silent (.expression e)) :
    Accounts accepted size owed owed [] (emit (.code (.expression e))) :=
  accounts_emit nofun fun checked => (silent_statement _).mpr (List.forall_mem_singleton.mpr (silent checked))

theorem accounts_evaluations {expressions : List Expression}
    (silent : accepted → ∀ e ∈ expressions, Silent (.expression e)) :
    Accounts accepted size owed owed [] (do for e in expressions do emit (.code (.expression e))) := by
  induction expressions with
  | nil => exact accounts_pure _
  | cons e rest ih =>
    simp only [List.forIn_cons, bind_assoc, pure_bind]
    exact (accounts_evaluate fun checked => silent checked e List.mem_cons_self).first fun _ =>
      ih fun checked other inside => silent checked other (List.mem_cons_of_mem _ inside)

/-- Where the steps stand among the parts of try statements does not matter. -/
private theorem accounts_context (change : Compilation → Context) :
    Accounts accepted size owed owed [] (modify fun c : Compilation => { c with context := change c }) := by
  intro known c c' result balanced _ run
  obtain rfl := run.modify
  have grounded : Compilation.Grounded { c with context := change c } :=
    ⟨balanced.grounded.onBreak, balanced.grounded.onContinue, balanced.grounded.finalizers⟩
  exact balanced.surround grounded rfl rfl rfl rfl fun _ declared => declared

theorem Accounts.withinPart {index : Nat} {kind : Part} {part : Compiling α}
    (accounts : Accounts accepted size owed left values part) :
    Accounts accepted size owed left values (withinPart index kind part) :=
  accounts_get fun _ _ enough => (accounts_context _).first fun _ => (accounts.later enough).last fun _ =>
    (accounts_context _).first fun _ => accounts_pure _

/-- Steps with a new state in a part of a try statement. -/
theorem accounts_newStateWithin {index : Nat} {kind : Part} {next : Nat → Compiling α}
    (onward : ∀ id, size ≤ id → Accounts accepted (id + 1) (id :: owed) left values (next id)) :
    Accounts accepted size owed left values (Generator.withinPart index kind newState >>= next) := by
  simp only [Generator.withinPart, bind_assoc, pure_bind]
  exact accounts_get fun _ _ enough => (accounts_context _).first fun _ => accounts_newState fun id later =>
    (accounts_context _).first fun _ => onward id (enough.trans later)

theorem Accounts.withinFrame {label : Option String} {onBreak : Nat} {onContinue : Option Nat} {breakable : Bool}
    {part : Compiling Unit} (breaks : onBreak < size) (continues : ∀ id ∈ onContinue, id < size)
    (accounts : Accounts accepted size owed left values part) :
    Accounts accepted size owed left values (withinFrame label onBreak onContinue breakable part) := by
  intro known c c' result balanced enough run
  obtain ⟨_, _, got, run⟩ := run.bind
  obtain ⟨rfl, rfl⟩ := got.get
  obtain ⟨_, inside, enters, run⟩ := run.bind
  obtain ⟨_, last, runs, leaves⟩ := run.bind
  obtain rfl := enters.modify
  obtain rfl := leaves.modify
  have grounded := balanced.grounded
  have framed : Compilation.Grounded { c with
      frames := ⟨label, onBreak, onContinue, breakable, c.finalizers.length⟩ :: c.frames } :=
    { onBreak := List.forall_mem_cons.mpr ⟨breaks.trans_le enough, grounded.onBreak⟩
      onContinue := List.forall_mem_cons.mpr
        ⟨fun id goes => (continues id goes).trans_le enough, grounded.onContinue⟩
      finalizers := grounded.finalizers }
  have settled := accounts (balanced.surround framed rfl rfl rfl rfl fun _ declared => declared).balanced enough runs
  have longer := settled.grows.length_le
  have restored : Compilation.Grounded { last with frames := c.frames } :=
    { onBreak := fun frame member => (grounded.onBreak frame member).trans_le longer
      onContinue := fun frame member id goes => (grounded.onContinue frame member id goes).trans_le longer
      finalizers := settled.balanced.grounded.finalizers }
  have left := settled.balanced.surround restored rfl rfl rfl rfl fun _ declared => declared
  exact ⟨left.balanced, ⟨settled.grows.states, settled.grows.lifted⟩, settled.values⟩

/-- The steps of a part that is left for its end. -/
theorem Accounts.guarded {index exit depth : Nat} {kind : Part} {announce : Nat → Compiling Unit}
    {part : Compiling Unit} (made : exit < size)
    (announces : ∀ entry, Accounts accepted (entry + 1) owed owed [] (announce entry))
    (accounts : ∀ size', size ≤ size' → Accounts accepted size' owed left values part) :
    Accounts accepted size owed left values (guarded index kind exit depth announce part) := by
  refine Accounts.withinPart (accounts_newState fun entry later => ?_)
  refine (accounts_enter (Nat.lt_succ_self entry) (.refl _)).first fun _ => (announces entry).first fun _ => ?_
  refine (accounts (entry + 1) (by omega)).last fun _ => accounts_get fun c balanced enough => ?_
  have knows : c.Knows (.state exit) := by
    rintro _ ⟨⟩
    omega
  exact accounts_jumpBy fun id inside => (balanced.grounded.route knows depth).1 _ inside id rfl

theorem accounts_region : Accounts accepted size owed owed []
    (modify fun c : Compilation => { c with regions := c.regions ++ [{}] }) := by
  intro known c c' result balanced _ run
  obtain rfl := run.modify
  have grounded : Compilation.Grounded { c with regions := c.regions ++ [{}] } :=
    ⟨balanced.grounded.onBreak, balanced.grounded.onContinue, balanced.grounded.finalizers⟩
  have kept {region : Region} (member : region ∈ c.regions ++ [({} : Region)]) :
      region ∈ c.regions ∨ region = ({} : Region) :=
    (List.mem_append.mp member).imp_right List.mem_singleton.mp
  refine ⟨?_, ⟨(Compilation.Grows.refl c).states, fun _ h => h⟩, fun _ => by rw [List.append_nil]⟩
  exact
    { balanced with
      grounded := grounded
      catches := fun region member entry inside => by
        rcases kept member with old | rfl
        · exact balanced.catches region old entry inside
        · cases inside
      finalizer := fun region member entry given => by
        rcases kept member with old | rfl
        · exact balanced.finalizer region old entry given
        · cases given }

/-- A region is told about a state that has been made. -/
theorem accounts_updateRegion {index : Nat} {change : Region → Region} {entry : Nat} (made : entry < size)
    (catches : ∀ region, ∀ handler ∈ (change region).catches, handler ∈ region.catches ∨ handler.entry = .state entry)
    (finalizer : ∀ region, ∀ target ∈ (change region).finalizer, target ∈ region.finalizer ∨ target = .state entry) :
    Accounts accepted size owed owed [] (updateRegion index change) := by
  intro known c c' result balanced enough run
  obtain rfl := run.modify
  have grounded : Compilation.Grounded { c with regions := c.regions.modify index change } :=
    ⟨balanced.grounded.onBreak, balanced.grounded.onContinue, balanced.grounded.finalizers⟩
  have kept {region : Region} (member : region ∈ c.regions.modify index change) :
      region ∈ c.regions ∨ ∃ before ∈ c.regions, region = change before := by
    obtain ⟨place, found⟩ := List.getElem?_of_mem member
    rw [List.getElem?_modify] at found
    obtain ⟨before, here, same⟩ := Option.map_eq_some_iff.mp found
    have inside := List.mem_of_getElem? here
    split at same
    · exact Or.inr ⟨before, inside, same.symm⟩
    · exact Or.inl (same ▸ inside)
  have knows : c.Knows (.state entry) := by
    rintro _ ⟨⟩
    omega
  refine ⟨?_, ⟨(Compilation.Grows.refl c).states, fun _ h => h⟩, fun _ => by rw [List.append_nil]⟩
  exact
    { balanced with
      grounded := grounded
      catches := fun region member handler inside => by
        rcases kept member with old | ⟨before, old, rfl⟩
        · exact balanced.catches region old handler inside
        · rcases catches before handler inside with there | new
          · exact balanced.catches before old handler there
          · exact new ▸ knows
      finalizer := fun region member target given => by
        rcases kept member with old | ⟨before, old, rfl⟩
        · exact balanced.finalizer region old target given
        · rcases finalizer before target given with there | new
          · exact balanced.finalizer before old target there
          · exact new ▸ knows }

theorem accounts_addCatch {index entry : Nat} {parameter : Parameter} (made : entry < size) :
    Accounts accepted size owed owed [] (addCatch index parameter entry) :=
  accounts_updateRegion made (fun region handler inside => by
    rcases List.mem_append.mp inside with old | new
    · exact Or.inl old
    · exact Or.inr (List.mem_singleton.mp new ▸ rfl)) fun _ _ given => Or.inl given

private theorem silent_set {name : String} {value : Expression} (silent : Silent (.expression value)) :
    Silent (.expression (.set (.name name) value)) := (silent_assign none).mpr ⟨silent_name name, silent⟩

private theorem silent_assignableValue {type : JavaType} {e : Expression} (silent : Silent (.expression e)) :
    Silent (.expression (assignableValue type e)) := by
  cases e with
  | arrayElements elements => exact (silent_iff _).mpr ⟨rfl, ((silent_iff _).mp silent).2⟩
  | _ => exact silent

/-- Steps under a finalizer, which begins with a state that has been made. -/
theorem accounts_pushFinalizer {index entry : Nat} {type type' : JavaType} {next : Compiling α}
    (made : entry < size) (onward : Accounts accepted size owed left values next) :
    Accounts accepted size owed left values (do
      liftVariable (continuationName index) type
      liftVariable (pendingName index) type'
      modify fun c => { c with finalizers := c.finalizers ++ [(index, entry)] }
      next) := by
  intro known c c' result balanced enough run
  obtain ⟨_, c₁, lifts, run⟩ := run.bind
  obtain ⟨_, c₂, lifts', run⟩ := run.bind
  obtain ⟨_, c₃, pushes, run⟩ := run.bind
  have first := accounts_liftVariable _ _ balanced enough lifts
  have second := accounts_liftVariable _ _ first.balanced (enough.trans first.grows.length_le) lifts'
  have declares : c₂.Declares (continuationName index) := by
    refine second.grows.lifted _ ?_
    obtain rfl := lifts.modify
    exact (Compilation.isSome_lookup_lift _ _ _).1
  obtain rfl := pushes.modify
  have both := first.trans second
  have longer := enough.trans both.grows.length_le
  have grounded : Compilation.Grounded { c₂ with finalizers := c₂.finalizers ++ [(index, entry)] } :=
    { onBreak := both.balanced.grounded.onBreak
      onContinue := both.balanced.grounded.onContinue
      finalizers := List.forall_mem_append.mpr ⟨both.balanced.grounded.finalizers,
        List.forall_mem_singleton.mpr ⟨made.trans_le longer, declares⟩⟩ }
  have pushed := both.balanced.surround grounded rfl rfl rfl rfl fun _ declared => declared
  have onward := onward pushed.balanced longer run
  exact both.trans ⟨onward.balanced, ⟨onward.grows.states, onward.grows.lifted⟩, onward.values⟩

/-- Behind a try statement its finalizer is no longer around. -/
theorem accounts_popFinalizer (depth : Nat) : Accounts accepted size owed owed []
    (modify fun c : Compilation => { c with finalizers := c.finalizers.take depth }) := by
  intro known c c' result balanced _ run
  obtain rfl := run.modify
  have grounded : Compilation.Grounded { c with finalizers := c.finalizers.take depth } :=
    ⟨balanced.grounded.onBreak, balanced.grounded.onContinue,
      fun entry inside => balanced.grounded.finalizers entry (List.mem_of_mem_take inside)⟩
  exact balanced.surround grounded rfl rfl rfl rfl fun _ declared => declared

/-- A statement is carried over. -/
theorem accounts_carryOver {s : Statement} (silent : accepted → Silent (.statement s)) :
    Accounts accepted size owed owed [] (carryOver s) := by
  by_cases declaration : isDeclaration s = true
  · obtain ⟨⟨modifiers, annotations, type, name, initial⟩, rfl⟩ : ∃ decl, s = .declare decl := by
      cases s <;> first | exact ⟨_, rfl⟩ | cases declaration
    refine (accounts_liftVariable name type).first fun _ => ?_
    cases initial with
    | none => exact accounts_pure _
    | some initial =>
      refine (accounts_evaluate fun checked => silent_set (silent_assignableValue ?_)).first fun _ => accounts_pure _
      have local' : Silent (.localVariable ⟨modifiers, annotations, type, name, some initial⟩) :=
        (silent checked).child List.mem_cons_self
      exact local'.child (by simp [Node.children])
  by_cases nothing : s = .empty
  · subst nothing
    exact accounts_pure _
  rw [carryOver_eq (by simpa using declaration) nothing]
  refine accounts_get fun c balanced enough => Accounts.first (?_ : Accounts _ _ owed owed [] _) fun _ => ?_
  · split
    · refine accounts_emit (fun id inside => ?_) silent
      obtain ⟨route, among, inside⟩ := List.mem_flatMap.mp inside
      obtain ⟨target, depth, rfl, knows⟩ := balanced.grounded.exits among
      exact (balanced.grounded.route knows depth).1 _ inside id rfl
    · exact accounts_emit nofun silent
  · split
    · exact accounts_pure _
    · exact accounts_close

/-- The order in which states are owed does not matter. -/
theorem Accounts.reorder {steps : Compiling α} (accounts : Accounts accepted size owed left values steps)
    (same : owed.Perm middle) : Accounts accepted size middle left values steps := by
  intro known c c' result balanced enough run
  exact accounts { balanced with laid := (List.Perm.append_left _ same).trans balanced.laid } enough run

theorem accounts_newStates (items : List α) {next : List Nat → Compiling β}
    (onward : ∀ size' ids, (∀ id ∈ ids, id < size') → size ≤ size' → ids.length = items.length →
      Accounts accepted size' (ids ++ owed) left values (next ids)) :
    Accounts accepted size owed left values (newStates items >>= next) := by
  unfold newStates
  induction items generalizing size owed next with
  | nil => exact onward size [] nofun le_rfl rfl
  | cons item rest ih =>
    simp only [List.mapM_cons, bind_assoc, pure_bind]
    refine accounts_newState fun id later => ih fun size' ids made larger same => ?_
    have all : ∀ other ∈ id :: ids, other < size' := List.forall_mem_cons.mpr ⟨by omega, made⟩
    exact (onward size' (id :: ids) all (by omega) (by simp [same])).reorder List.perm_middle.symm

private theorem accounts_loop : Accounts accepted size owed owed []
    (modify fun c : Compilation => { c with loops := c.loops + 1 }) := by
  intro known c c' result balanced _ run
  obtain rfl := run.modify
  have grounded : Compilation.Grounded { c with loops := c.loops + 1 } :=
    ⟨balanced.grounded.onBreak, balanced.grounded.onContinue, balanced.grounded.finalizers⟩
  exact balanced.surround grounded rfl rfl rfl rfl fun _ declared => declared

private theorem accounts_arrayType? (e : Expression) : Accounts accepted size owed owed [] (arrayType? e) := by
  intro known c c' result balanced _ run
  obtain rfl : c = c' := congrArg Prod.snd run
  exact balanced.settled

private theorem accounts_enterArrayLoop {number : Nat} {item : LocalVariable} {iterable : Expression} {type : JavaType}
    {head exit : Nat} (heads : head < size) (exits : exit < size) (silent : accepted → Silent (.expression iterable))
    (paid : owed.Perm (head :: left)) :
    Accounts accepted size owed left [] (enterArrayLoop number item iterable type head exit) := by
  refine (accounts_liftVariable _ _).first fun _ => (accounts_liftVariable _ _).first fun _ => ?_
  refine (accounts_evaluate fun checked => silent_set (silent checked)).first fun _ => ?_
  refine (accounts_evaluate fun _ => silent_set (silent_literal _)).first fun _ => (accounts_enter heads paid).first fun _ => ?_
  refine (accounts_leaveUnless exits fun _ => ?_).first fun _ => ?_
  · exact (silent_binary _).mpr ⟨silent_name _, (silent_field _).mpr (silent_name _)⟩
  refine (accounts_evaluate fun _ => silent_set (silent_element.mpr ⟨silent_name _, silent_name _⟩)).first fun _ => ?_
  exact accounts_evaluate fun _ => (silent_unary _).mpr (silent_name _)

private theorem silent_asked {receiver : Expression} {name : String} (silent : Silent (.expression receiver)) :
    Silent (.expression (.callOn receiver name [])) := (silent_callOn name []).mpr ⟨silent, nofun⟩

private theorem accounts_enterIteratorLoop {number : Nat} {item : LocalVariable} {iterable : Expression}
    {head exit : Nat} (heads : head < size) (exits : exit < size) (silent : accepted → Silent (.expression iterable))
    (paid : owed.Perm (head :: left)) :
    Accounts accepted size owed left [] (enterIteratorLoop number item iterable head exit) := by
  refine (accounts_liftVariable _ _).first fun _ => ?_
  refine (accounts_evaluate fun checked => silent_set (silent_asked (silent checked))).first fun _ => ?_
  refine (accounts_enter heads paid).first fun _ => ?_
  refine (accounts_leaveUnless exits fun _ => silent_asked (silent_name _)).first fun _ => ?_
  exact accounts_evaluate fun _ => silent_set (silent_asked (silent_name _))

private theorem owed_reverse {first second third : Nat} :
    (third :: second :: first :: owed).Perm (first :: second :: third :: owed) :=
  (List.reverse_perm [first, second, third]).append_right owed

/-- What a loop does behind the look at its condition. -/
private theorem accounts_repeats {label : Option String} {head exit : Nat} {part : Compiling Unit} (heads : head < size)
    (exits : exit < size) (accounts : Accounts accepted size (exit :: owed) (exit :: owed) values part) :
    Accounts accepted size (exit :: owed) owed values (do
      withinFrame label exit (some head) true part
      endLoop head exit) := by
  refine Accounts.last (.withinFrame exits ?_ accounts) fun _ => accounts_endLoop heads (.refl _)
  rintro _ ⟨⟩
  exact heads

/-- What a loop with steps does behind the look at its condition. -/
private theorem accounts_rounds {label : Option String} {head step exit : Nat} {update : List Expression}
    {part : Compiling Unit} (heads : head < size) (steps : step < size) (exits : exit < size)
    (silent : accepted → ∀ e ∈ update, Silent (.expression e))
    (accounts : Accounts accepted size (step :: exit :: owed) (step :: exit :: owed) values part) :
    Accounts accepted size (step :: exit :: owed) owed values (do
      withinFrame label exit (some step) true part
      enter step
      for e in update do emit (.code (.expression e))
      endLoop head exit) := by
  refine Accounts.last (.withinFrame exits ?_ accounts) fun _ => ?_
  · rintro _ ⟨⟩
    exact steps
  · exact (accounts_enter steps (.refl _)).first fun _ => (accounts_evaluations silent).first fun _ =>
      accounts_endLoop heads (.refl _)

/-- The values that statements hand out. -/
def handedOutBy (body : List Statement) : List Expression := body.flatMap fun s => handedOut (.statement s)

/-- The values that the groups of a switch hand out. -/
def handedOutByCases (cases : List SwitchCase) : List Expression :=
  cases.flatMap fun group => handedOut (.switchCase group)

/-- The values that handlers hand out. -/
def handedOutByCatches (catches : List CatchClause) : List Expression :=
  catches.flatMap fun clause => handedOut (.catchClause clause)

private theorem handedOut_block (body : List Statement) : handedOut (.block body) = handedOutBy body := by
  rw [handedOut_eq, Node.children, List.flatMap_map]
  rfl

/-- The steps of a try statement without finalizer. -/
private theorem accounts_tryCatch {part : Compiling Unit} (clauses : Nat → Nat → Nat → Compiling Unit)
    (accounts : ∀ size owed, Accounts accepted size owed owed values part)
    (handles : ∀ size owed index exit depth, exit < size →
      Accounts accepted size owed owed values' (clauses index exit depth)) :
    Accounts accepted size owed owed (values ++ values') (do
      let exit ← newState
      let index := (← get).regions.length
      modify fun c => { c with regions := c.regions ++ [{}] }
      let depth := (← get).finalizers.length
      guarded index .body exit depth (fun _ => pure ()) part
      clauses index exit depth
      enter exit) := by
  refine accounts_newState fun exit _ => accounts_get fun c _ enough => accounts_region.first fun _ => ?_
  refine accounts_get fun c' _ larger => ?_
  have exits : exit < c'.states.length := by omega
  refine Accounts.bind (.guarded exits (fun _ => accounts_pure _) fun _ _ => accounts ..) fun _ => ?_
  exact (handles _ _ _ _ _ exits).last fun _ => accounts_enter exits (.refl _)

/-- The steps of a try statement with a finalizer. -/
private theorem accounts_tryFinally {part last : Compiling Unit} (clauses : Nat → Nat → Nat → Compiling Unit)
    {values'' : List Expression} (accounts : ∀ size owed, Accounts accepted size owed owed values part)
    (handles : ∀ size owed index exit depth, exit < size →
      Accounts accepted size owed owed values' (clauses index exit depth))
    (ends : ∀ size owed, Accounts accepted size owed owed values'' last) :
    Accounts accepted size owed owed (values ++ (values' ++ values'')) (do
      let exit ← newState
      let index := (← get).regions.length
      modify fun c => { c with regions := c.regions ++ [{}] }
      let depth := (← get).finalizers.length
      let entry ← withinPart index .finalizer newState
      liftVariable (continuationName index) (.named "int")
      liftVariable (pendingName index) (.named "java.lang.Throwable")
      modify fun c => { c with finalizers := c.finalizers ++ [(index, entry)] }
      updateRegion index fun r => { r with finalizer := some (.state entry) }
      guarded index .body exit depth (fun _ => pure ()) part
      clauses index exit depth
      modify fun c => { c with finalizers := c.finalizers.take depth }
      withinPart index .finalizer do
        enter entry
        last
        unless (← get).closed do terminate (.endFinalizer index)
      enter exit) := by
  refine accounts_newState fun exit _ => accounts_get fun c _ enough => accounts_region.first fun _ => ?_
  refine accounts_get fun c' _ larger => accounts_newStateWithin fun entry later => ?_
  have exits : exit < entry + 1 := by omega
  have begins := Nat.lt_succ_self entry
  refine accounts_pushFinalizer begins (Accounts.first (accounts_updateRegion begins ?_ ?_) fun _ => ?_)
  · exact fun _ _ inside => Or.inl inside
  · exact fun _ target given => Or.inr (Option.some.inj given).symm
  refine Accounts.bind (.guarded exits (fun _ => accounts_pure _) fun _ _ => accounts ..) fun _ => ?_
  refine Accounts.bind (handles _ _ _ _ _ exits) fun _ => (accounts_popFinalizer _).first fun _ => ?_
  refine Accounts.last (.withinPart ?_) fun _ => accounts_enter exits (.refl _)
  refine (accounts_enter begins (.refl _)).first fun _ => (ends ..).last fun _ => accounts_get fun c _ _ => ?_
  split
  · exact accounts_pure _
  · exact accounts_terminate nofun fun _ => trivial

private theorem accounts_quiet {label : Option String} {s : Statement} (quiet : s.yields = false)
    (placed : accepted → Placed s) :
    Accounts accepted size owed owed (handedOut (.statement s)) (compile label s) := by
  have silent (checked : accepted) := silent_of_quiet s (placed checked) quiet
  rw [compile_quiet quiet]
  exact (accounts_carryOver silent).handsOut fun checked => (silent checked).symm

/-- A statement that yields without being made of statements is carried over like one that does not. -/
private theorem accounts_whole {label : Option String} {s : Statement} (placed : accepted → Placed s)
    (silent : Placed s → Silent (.statement s)) (carried : compile label s = carryOver s) :
    Accounts accepted size owed owed (handedOut (.statement s)) (compile label s) := by
  rw [carried]
  exact (accounts_carryOver fun checked => silent (placed checked)).handsOut fun checked =>
    (silent (placed checked)).symm

private theorem silent_labels : (cases : List SwitchCase) → PlacedCases cases →
    ∀ group ∈ cases, ∀ label ∈ group.label, Silent (.expression label)
  | [], _ => nofun
  | ⟨_, _⟩ :: rest, ⟨silent, _, others⟩ => List.forall_mem_cons.mpr ⟨silent, silent_labels rest others⟩

/-- A statement that yields may be looked at apart from one that does not. -/
private theorem accounts_unless_quiet {label : Option String} {s : Statement} {steps : Compiling Unit}
    (placed : accepted → Placed s) (compiled : compile label s = if !s.yields then carryOver s else steps)
    (loud : Accounts accepted size owed owed (handedOut (.statement s)) steps) :
    Accounts accepted size owed owed (handedOut (.statement s)) (compile label s) := by
  cases yields : s.yields with
  | false => exact accounts_quiet yields placed
  | true =>
    rw [compiled, if_neg (by simp [yields])]
    exact loud

private theorem accounts_expression {label : Option String} {e : Expression} (placed : accepted → Placed (.expression e)) :
    Accounts accepted size owed owed (handedOut (.statement (.expression e))) (compile label (.expression e)) := by
  refine accounts_unless_quiet placed compile_expression ?_
  cases yielded : (Statement.expression e).yielded? with
  | none =>
    have silent (checked : accepted) : Silent (.statement (.expression e)) := by
      rcases placed checked with silent | ⟨_, _, rfl, _⟩
      · exact (silent_statement _).mpr (List.forall_mem_singleton.mpr silent)
      · cases yielded
    exact (accounts_carryOver silent).handsOut fun checked => (silent checked).symm
  | some arguments =>
    obtain ⟨typeArguments, rfl⟩ := yieldedValue?_of_yielded? yielded
    have hands (checked : accepted) : ∃ value, arguments = [value] ∧ Silent (.expression value) := by
      rcases placed checked with silent | ⟨_, value, same, silent⟩
      · cases ((silent_iff _).mp silent).1
      · cases same
        exact ⟨value, rfl, silent⟩
    refine accounts_newState fun resume _ => Accounts.handsOut (Accounts.last (accounts_terminate ?_ ?_) fun _ =>
      accounts_startState (.refl _)) ?_
    · intro id inside
      obtain rfl : id = resume := by simpa [Op.targets] using inside
      exact Nat.lt_succ_self id
    · intro checked
      obtain ⟨value, rfl, silent⟩ := hands checked
      exact silent
    · intro checked
      obtain ⟨value, rfl, silent⟩ := hands checked
      rw [handedOut_statement, Node.ofStatement, List.flatMap_singleton, handedOut_eq]
      change _ = [value] ++ [Node.expression value].flatMap handedOut
      rw [List.flatMap_singleton, silent]
      rfl

mutual

/-- Compiling a statement keeps the books. -/
theorem accounts_compile (label : Option String) {size : Nat} {owed : List Nat} : (s : Statement) →
    (accepted → Placed s) → Accounts accepted size owed owed (handedOut (.statement s)) (compile label s)
  | .block body, placed => by
    refine accounts_unless_quiet placed rfl ?_
    exact (accounts_compileAll body placed).handsOut fun _ => by
      rw [handedOut_statement, Node.ofStatement, List.flatMap_map, handedOutBy]
  | .ifElse condition whenTrue none, placed => by
    refine accounts_unless_quiet placed rfl ?_
    refine accounts_newState fun exit _ => ?_
    refine (accounts_leaveUnless (Nat.lt_succ_self exit) fun checked => (placed checked).1).first fun _ => ?_
    refine Accounts.handsOut (Accounts.last (accounts_compile none whenTrue fun checked => (placed checked).2.1) fun _ =>
      accounts_enter (Nat.lt_succ_self exit) (.refl _)) fun checked => ?_
    have silent : handedOut (.expression condition) = [] := (placed checked).1
    simp [handedOut_statement (.ifElse ..), Node.ofStatement, silent]
  | .ifElse condition whenTrue (some whenFalse), placed => by
    refine accounts_unless_quiet placed rfl ?_
    refine accounts_newState fun exit _ => accounts_newState fun otherwise later => ?_
    refine (accounts_leaveUnless (Nat.lt_succ_self otherwise) fun checked => (placed checked).1).first fun _ => ?_
    refine Accounts.handsOut (Accounts.bind (accounts_compile none whenTrue fun checked => (placed checked).2.1) fun _ =>
      (accounts_jumpTo (by omega)).first fun _ => (accounts_enter (Nat.lt_succ_self otherwise) (.refl _)).first fun _ =>
      Accounts.last (accounts_compile none whenFalse fun checked => (placed checked).2.2) fun _ =>
      accounts_enter (by omega) (.refl _)) fun checked => ?_
    have silent : handedOut (.expression condition) = [] := (placed checked).1
    simp [handedOut_statement (.ifElse ..), Node.ofStatement, silent]
  | .labeled name body, placed => by
    refine accounts_unless_quiet placed rfl ?_
    have same : handedOut (.statement (.labeled name body)) = handedOut (.statement body) := by
      simp [handedOut_statement (.labeled ..), Node.ofStatement]
    rw [same]
    split
    · exact accounts_compile (some name) body placed
    · refine accounts_newState fun exit _ => Accounts.last (.withinFrame (Nat.lt_succ_self exit) nofun ?_) fun _ =>
        accounts_enter (Nat.lt_succ_self exit) (.refl _)
      exact accounts_compile none body placed
  | .whileLoop condition body, placed => by
    refine accounts_unless_quiet placed rfl ?_
    refine accounts_newState fun head _ => accounts_newState fun exit later => ?_
    refine (accounts_enter (by omega) (.swap ..)).first fun _ => ?_
    refine (accounts_exitUnless (Nat.lt_succ_self exit) fun checked => (placed checked).1).first fun _ => ?_
    refine Accounts.handsOut (accounts_repeats (by omega) (Nat.lt_succ_self exit)
      (accounts_compile none body fun checked => (placed checked).2)) fun checked => ?_
    have silent : handedOut (.expression condition) = [] := (placed checked).1
    simp [handedOut_statement (.whileLoop ..), Node.ofStatement, silent]
  | .doWhile body condition, placed => by
    refine accounts_unless_quiet placed rfl ?_
    refine accounts_newState fun head _ => accounts_newState fun test later => accounts_newState fun exit last => ?_
    refine (accounts_enter (by omega) owed_reverse).first fun _ => ?_
    refine Accounts.handsOut (Accounts.last (.withinFrame (Nat.lt_succ_self exit) ?_
      (accounts_compile none body fun checked => (placed checked).1)) fun _ => ?_) fun checked => ?_
    · rintro _ ⟨⟩
      omega
    · refine (accounts_enter (by omega) (.refl _)).first fun _ => ?_
      refine Accounts.first (accounts_emit ?_ fun checked => ⟨(placed checked).2, trivial, trivial⟩) fun _ =>
        accounts_enter (Nat.lt_succ_self exit) (.refl _)
      intro id inside
      obtain rfl : id = head := by simpa [Op.targets, Op.allTargets, Route.direct, Route.targets] using inside
      omega
    · have silent : handedOut (.expression condition) = [] := (placed checked).2
      simp [handedOut_statement (.doWhile ..), Node.ofStatement, silent]
  | .forLoop start condition update body, placed => by
    refine accounts_unless_quiet placed rfl ?_
    have same (checked : accepted) : handedOutBy start ++ handedOut (.statement body) =
        handedOut (.statement (.forLoop start condition update body)) := by
      obtain ⟨-, tests, steps, -⟩ := placed checked
      rw [handedOut_statement (.forLoop ..), Node.ofStatement]
      simp only [List.flatMap_append, List.flatMap_map, List.flatMap_singleton]
      rw [List.flatMap_eq_nil_iff.mpr fun e inside => tests e (Option.mem_toList.mp inside),
        List.flatMap_eq_nil_iff.mpr steps, List.append_nil, List.append_nil, handedOutBy]
    refine .handsOut (.bind (accounts_compileAll start fun checked => (placed checked).1) fun _ => ?_) same
    refine accounts_newState fun head _ => accounts_newState fun step later => accounts_newState fun exit last => ?_
    refine (accounts_enter (by omega) owed_reverse).first fun _ => ?_
    have heads : head < exit + 1 := by omega
    have steps : step < exit + 1 := by omega
    have rounds := @accounts_rounds _ _ owed _ label head step exit update _ heads steps (Nat.lt_succ_self exit)
      (fun checked => (placed checked).2.2.1) (accounts_compile none body fun checked => (placed checked).2.2.2)
    cases condition with
    | none => exact rounds
    | some condition =>
      exact (accounts_exitUnless (Nat.lt_succ_self exit) fun checked => (placed checked).2.1 _ rfl).first fun _ => rounds
  | .forEach ⟨modifiers, annotations, type, name, initial⟩ iterable body, placed => by
    refine accounts_unless_quiet placed rfl ?_
    refine accounts_loop.first fun _ => accounts_get fun c _ _ => ?_
    refine accounts_newState fun head _ => accounts_newState fun exit later => ?_
    have heads : head < exit + 1 := by omega
    have silent (checked : accepted) := (placed checked).2.1
    have same (checked : accepted) : handedOut (.statement body) =
        handedOut (.statement (.forEach ⟨modifiers, annotations, type, name, initial⟩ iterable body)) := by
      obtain ⟨item, elements, -⟩ := placed checked
      rw [handedOut_statement (.forEach ..), Node.ofStatement]
      rw [List.flatMap_cons, List.flatMap_cons, List.flatMap_singleton, item, elements]
      rfl
    refine (accounts_arrayType? iterable).first fun type? => Accounts.handsOut ?_ same
    have rounds := (accounts_liftVariable name type).first fun _ => @accounts_repeats _ _ owed _ label head exit _ heads
      (Nat.lt_succ_self exit) (accounts_compile none body fun checked => (placed checked).2.2)
    cases type? with
    | none => exact (accounts_enterIteratorLoop heads (Nat.lt_succ_self exit) silent (.swap ..)).first fun _ => rounds
    | some _ => exact (accounts_enterArrayLoop heads (Nat.lt_succ_self exit) silent (.swap ..)).first fun _ => rounds
  | .switch selector cases, placed => by
    refine accounts_unless_quiet placed rfl ?_
    have same (checked : accepted) : handedOutByCases cases = handedOut (.statement (.switch selector cases)) := by
      have silent : handedOut (.expression selector) = [] := (placed checked).1
      rw [handedOut_statement, Node.ofStatement, List.flatMap_cons, silent, List.flatMap_map]
      rfl
    refine accounts_newState fun exit _ => accounts_newStates cases fun size' entries made larger length => ?_
    have exits : exit < size' := by omega
    refine .handsOut (.first (accounts_terminate ?_ fun checked => ⟨(placed checked).1, fun arm inside => ?_⟩) fun _ =>
      .last (.withinFrame exits nofun ?_) fun _ => accounts_enter exits (.refl _)) same
    · intro id inside
      obtain ⟨arm, among, same⟩ := List.mem_map.mp inside
      rcases mem_arms among with ⟨_, _, entry, given, rfl⟩ | rfl
      · cases same
        exact made _ given
      · cases same
        exact exits
    · rcases mem_arms inside with ⟨group, among, _, _, rfl⟩ | rfl
      · exact silent_labels cases (placed checked).2 group among
      · nofun
    · exact accounts_compileCases entries cases length made fun checked => (placed checked).2
  | .tryCatch body catches none, placed => by
    refine accounts_unless_quiet placed rfl ?_
    have same (checked : accepted) : handedOutBy body ++ handedOutByCatches catches =
        handedOut (.statement (.tryCatch body catches none)) := by
      rw [handedOut_statement, Node.ofStatement]
      simp [handedOut_block, handedOutByCatches, List.flatMap_map]
    exact .handsOut (accounts_tryCatch (fun index exit depth => compileCatches index exit depth catches)
      (fun _ _ => accounts_compileAll body fun checked => (placed checked).1)
      fun _ _ _ _ _ exits => accounts_compileCatches exits catches fun checked => (placed checked).2.1) same
  | .tryCatch body catches (some finalizer), placed => by
    refine accounts_unless_quiet placed rfl ?_
    have same (checked : accepted) : handedOutBy body ++ (handedOutByCatches catches ++ handedOutBy finalizer) =
        handedOut (.statement (.tryCatch body catches (some finalizer))) := by
      rw [handedOut_statement, Node.ofStatement]
      simp [handedOut_block, handedOutByCatches, List.flatMap_map]
    exact .handsOut (accounts_tryFinally (fun index exit depth => compileCatches index exit depth catches)
      (fun _ _ => accounts_compileAll body fun checked => (placed checked).1)
      (fun _ _ _ _ _ exits => accounts_compileCatches exits catches fun checked => (placed checked).2.1)
      (fun _ _ => accounts_compileAll finalizer fun checked => (placed checked).2.2)) same
  | .expression e, placed => accounts_expression placed
  | .declare decl, placed => accounts_whole placed (silent_declare decl).mpr (ite_self _)
  | .synchronized lock body, placed => accounts_whole placed silent_synchronized.mpr (ite_self _)
  | .returns value, placed => accounts_whole placed (silent_returns value).mpr (ite_self _)
  | .throws value, placed => accounts_whole placed silent_throws.mpr (ite_self _)
  | .returnsDefault, placed => accounts_quiet rfl placed
  | .breaks _, placed => accounts_quiet rfl placed
  | .continues _, placed => accounts_quiet rfl placed
  | .localType _, placed => accounts_quiet rfl placed
  | .empty, placed => accounts_quiet rfl placed
  | .verbatim _, placed => accounts_quiet rfl placed

theorem accounts_compileAll {size : Nat} {owed : List Nat} : (body : List Statement) → (accepted → PlacedAll body) →
    Accounts accepted size owed owed (handedOutBy body) (compileAll body)
  | [], _ => accounts_pure _
  | s :: rest, placed => by
    exact (accounts_compile none s fun checked => (placed checked).1).bind fun _ =>
      accounts_compileAll rest fun checked => (placed checked).2

theorem accounts_compileCases {size : Nat} {owed : List Nat} (entries : List Nat) : (cases : List SwitchCase) →
    entries.length = cases.length → (∀ id ∈ entries, id < size) → (accepted → PlacedCases cases) →
    Accounts accepted size (entries ++ owed) owed (handedOutByCases cases) (compileCases entries cases)
  | [], length, _, _ => by
    rw [List.eq_nil_of_length_eq_zero length]
    exact accounts_pure _
  | ⟨label, body⟩ :: rest, length, made, placed => by
    obtain ⟨entry, entries, rfl⟩ := List.exists_cons_of_length_eq_add_one length
    obtain ⟨here, others⟩ := List.forall_mem_cons.mp made
    refine .handsOut (.first (accounts_enter here (.refl _)) fun _ => .bind
      (accounts_compileAll body fun checked => (placed checked).2.1) fun _ => accounts_compileCases entries rest
      (Nat.succ.inj length) others fun checked => (placed checked).2.2) fun checked => ?_
    change _ = handedOut (.switchCase ⟨label, body⟩) ++ handedOutByCases rest
    rw [handedOut_eq, Node.children, List.flatMap_append, List.flatMap_map, List.flatMap_map,
      List.flatMap_eq_nil_iff.mpr fun e inside => (placed checked).1 e (Option.mem_toList.mp inside)]
    rfl

theorem accounts_compileCatches {size : Nat} {owed : List Nat} {index exit depth : Nat} (exits : exit < size) :
    (catches : List CatchClause) → (accepted → PlacedCatches catches) →
    Accounts accepted size owed owed (handedOutByCatches catches) (compileCatches index exit depth catches)
  | [], _ => accounts_pure _
  | ⟨⟨modifiers, annotations, type, name⟩, body⟩ :: rest, placed => by
    refine .handsOut (.first (accounts_liftVariable name type) fun _ => .bind (.guarded exits
      (fun entry => accounts_addCatch (Nat.lt_succ_self entry)) fun _ _ => accounts_compileAll body fun checked =>
        (placed checked).2.1) fun _ =>
      accounts_compileCatches exits rest fun checked => (placed checked).2.2) fun checked => ?_
    have silent : handedOut (.parameter ⟨modifiers, annotations, type, name⟩) = [] := (placed checked).1
    change _ = handedOut (.catchClause ⟨⟨modifiers, annotations, type, name⟩, body⟩) ++ handedOutByCatches rest
    rw [handedOut_eq, Node.children, List.flatMap_cons, List.flatMap_singleton, silent, handedOut_block]
    rfl

end

/-- The machine of a body is that of a compilation that owes nothing, and hands out the values that a checked body
hands out. -/
theorem compileBody_balanced (surroundings : Surroundings) {body : List Statement} (placed : accepted → PlacedAll body) :
    ∃ c : Compilation, c.Balanced accepted [] ∧ compileBody surroundings body = c.machine ∧
      (accepted → (valuesOf c.states).Perm (handedOutBy body)) := by
  obtain ⟨⟨_, last⟩, run⟩ : ∃ ending : Unit × Compilation,
      (do compileAll body; jumpBy (.direct .done) : Compiling Unit) surroundings {} = ending := ⟨_, rfl⟩
  have accounts : Accounts accepted 1 [] [] (handedOutBy body) (do compileAll body; jumpBy (.direct .done)) :=
    (accounts_compileAll body placed).last fun _ => accounts_jumpBy (by simp [Route.direct, Route.targets])
  have start : Compilation.Balanced accepted [] {} :=
    { grounded := ⟨nofun, nofun, nofun⟩
      laid := .refl _
      first := rfl
      current := Nat.zero_lt_one
      ops := by
        intro id state found op inside
        obtain rfl := List.mem_singleton.mp (List.mem_of_getElem? found)
        cases inside
      catches := nofun
      finalizer := nofun }
  have settled := accounts start le_rfl run
  exact ⟨last, settled.balanced, congrArg (fun ending : Unit × Compilation => ending.2.machine) run, settled.values⟩

end

end JavaWeave.Generator
