import JavaWeave.Proofs.Generator.Traced

namespace JavaWeave.Generator

open Syntax

/-- The finalizer of a region begins with an entry. -/
def Compilation.Arms (c : Compilation) (region entry : Nat) : Prop :=
  ∃ made, c.regions[region]? = some made ∧ made.finalizer = some (.state entry)

/-- The finalizers that follow a place are those of their regions. -/
def Compilation.Armed (c : Compilation) (path : Path) : Prop :=
  ∀ region entry exit, .guard region entry exit ∈ path → c.Arms region entry

/-- Each operation of a compilation was added at a place of the body. -/
def Compilation.Placed (sites : List (List Surround × Statement)) (c : Compilation) : Prop :=
  ∀ (id : Nat) (state : State), c.states[id]? = some state → ∀ op ∈ state.ops,
    ∃ path, Added sites path op ∧ c.Armed path

section

variable {sites : List (List Surround × Statement)} {locals : List (String × JavaType)} {path : Path} {count : Nat}
  {c c' : Compilation}

namespace Compilation

theorem Armed.mono (armed : c.Armed path)
    (keeps : ∀ region entry, c.Arms region entry → c'.Arms region entry) : c'.Armed path :=
  fun region entry exit member => keeps region entry (armed region entry exit member)

theorem Placed.mono (placed : c.Placed sites) (same : c'.states = c.states)
    (keeps : ∀ region entry, c.Arms region entry → c'.Arms region entry) : c'.Placed sites := by
  intro id state found op member
  obtain ⟨path, added, armed⟩ := placed id state (same ▸ found) op member
  exact ⟨path, added, armed.mono keeps⟩

/-- A change to a region that leaves its finalizer alone. -/
theorem Arms.modify {index region entry : Nat} {change : Region → Region} (arms : c.Arms region entry)
    (keeps : ∀ before, c.regions[index]? = some before → before.finalizer = some (.state entry) →
      (change before).finalizer = some (.state entry)) :
    Arms { c with regions := c.regions.modify index change } region entry := by
  obtain ⟨made, found, finalizer⟩ := arms
  by_cases here : index = region
  · subst here
    exact ⟨change made, by simp [found], keeps made found finalizer⟩
  · exact ⟨made, by simp [here, found], finalizer⟩

/-- A region that is made takes no finalizer away. -/
theorem Arms.append {region entry : Nat} (arms : c.Arms region entry) :
    Arms { c with regions := c.regions ++ [{}] } region entry := by
  obtain ⟨made, found, finalizer⟩ := arms
  exact ⟨made, by rw [List.getElem?_append_left (List.getElem?_eq_some_iff.mp found).1, found], finalizer⟩

/-- The region of a new finalizer had none. -/
theorem Arms.guard {index region entry entry' : Nat} (arms : c.Arms region entry)
    (fresh : c.regions[index]? = some {}) :
    Arms { c with
      finalizers := c.finalizers ++ [(index, entry')]
      regions := c.regions.modify index fun made => { made with finalizer := some (.state entry') } } region entry := by
  refine arms.modify fun before found finalizer => ?_
  obtain rfl : ({} : Region) = before := Option.some.inj (fresh.symm.trans found)
  cases finalizer

end Compilation

namespace Trace

theorem arms (trace : Trace sites locals path count c c') {region entry : Nat} (arms : c.Arms region entry) :
    c'.Arms region entry := by
  induction trace with
  | refl | state | start | add | close | lift | loop => exact arms
  | trans _ _ ih ih' => exact ih' (ih arms)
  | frame _ ih | part _ ih => exact ih arms
  | region => exact arms.append
  | catches => exact arms.modify fun _ _ finalizer => finalizer
  | guard fresh _ _ ih => exact ih (arms.guard fresh)

/-- The operations that steps add at a place stand there. -/
theorem placed (trace : Trace sites locals path count c c') (placed : c.Placed sites) (armed : c.Armed path) :
    c'.Placed sites := by
  induction trace with
  | refl => exact placed
  | trans first _ ih ih' =>
    exact ih' (ih placed armed) (armed.mono fun _ _ => first.arms)
  | start | close | lift | loop => exact placed.mono rfl fun _ _ => id
  | region => exact placed.mono rfl fun _ _ => Compilation.Arms.append
  | catches declared => exact placed.mono rfl fun _ _ arms => arms.modify fun _ _ finalizer => finalizer
  | state =>
    intro id state found op member
    rw [List.getElem?_append] at found
    split at found
    · exact placed id state found op member
    · obtain rfl := List.mem_singleton.mp (List.mem_of_getElem? found)
      cases member
  | add added =>
    intro id state found op member
    obtain ⟨before, here, rfl⟩ := Compilation.of_getElem?_added found
    rcases List.mem_append.mp member with old | new
    · exact placed id before here op old
    · split at new
      · obtain rfl := List.mem_singleton.mp new
        exact ⟨_, added, armed⟩
      · cases new
  | frame _ ih =>
    refine (ih (placed.mono rfl fun _ _ => id) fun region entry exit member => ?_).mono rfl fun _ _ => id
    exact armed region entry exit (by simpa using member)
  | part _ ih => exact (ih (placed.mono rfl fun _ _ => id) armed).mono rfl fun _ _ => id
  | guard fresh _ _ ih =>
    refine (ih (placed.mono rfl fun _ _ arms => arms.guard fresh) fun region entry exit member => ?_).mono rfl
      fun _ _ => id
    rcases List.mem_cons.mp member with here | outer
    · cases here
      exact ⟨{ finalizer := some _ }, by simp [fresh], rfl⟩
    · exact (armed region entry exit outer).guard fresh

end Trace

end

/-- The labels of the statements around a place. -/
def labelsAround (around : List Surround) : List String :=
  around.filterMap fun
    | .exit label _ _ => label
    | .guard _ => none

theorem Path.labels_eq (path : Path) : path.labels = labelsAround (path.map Around.shape) := by
  induction path with
  | nil => rfl
  | cons around outer ih =>
    rw [Path.labels] at ih
    cases around with
    | exit label onBreak onContinue breakable =>
      cases label with
      | none => exact ih
      | some label => exact congrArg (label :: ·) ih
    | guard region entry exit => exact ih

/-- The finalizers that follow a place are those that a machine has for the try statements around it. -/
def Path.Fits (path : Path) (machine : Machine) : Prop :=
  ∀ region entry exit, .guard region entry exit ∈ path → (machine.region region).finalizer = some (.state entry)

section

variable (surroundings : Surroundings) (body : List Statement) {id : Nat}

/-- Each operation of the machine of a body stands at a place of the body. -/
theorem op_placed {op : Op} (member : op ∈ ((compileBody surroundings body).state id).ops) :
    ∃ path : Path, Added (sitesInAll 0 [] body) path op ∧ path.Fits (compileBody surroundings body) := by
  obtain ⟨c, trace, compiled⟩ := compileBody_trace surroundings body
  have begun : Compilation.Placed (sitesInAll 0 [] body) {} := by
    intro id state found op inside
    obtain rfl := List.mem_singleton.mp (List.mem_of_getElem? found)
    cases inside
  have placed := trace.placed begun fun _ _ _ none => nomatch none
  rw [compiled, Machine.state] at member
  cases found : c.machine.states[id]? with
  | none =>
    rw [found] at member
    cases member
  | some state =>
    rw [found] at member
    obtain ⟨path, added, armed⟩ := placed id state found op member
    refine ⟨path, added, fun region entry exit inside => ?_⟩
    obtain ⟨made, there, finalizer⟩ := armed region entry exit inside
    rw [compiled, Machine.region, show c.machine.regions[region]? = some made from there]
    exact finalizer

/-- A jump out of a statement that is carried over goes where the statements around it lead: from the innermost
outwards to the one that it leaves, through the finalizers of the try statements on the way. The labels of the
statements around differ. -/
theorem leaving_routes {s : Statement} {exits : Exits}
    (member : .leaving s exits ∈ ((compileBody surroundings body).state id).ops) :
    ∃ path : Path, (path.map Around.shape, s) ∈ sitesInAll 0 [] body ∧ path.Fits (compileBody surroundings body) ∧
      ((labelsAround (path.map Around.shape)).Nodup →
        ∀ nesting leaf, exitRoute? exits nesting leaf = path.leaf? nesting leaf) := by
  obtain ⟨path, added, fits⟩ := op_placed surroundings body member
  cases added with
  | leaving place site =>
    exact ⟨path, site, fits, fun apart => place.exitRoute? (path.labels_eq ▸ apart)⟩

/-- A jump of the machine itself stays inside of all finalizers, or it ends a part of a try statement and goes through
the finalizer of that one. -/
theorem jump_routes {route : Route} (member : .jump route ∈ ((compileBody surroundings body).state id).ops) :
    (∃ target, route = .direct target) ∨ ∃ region entry exit,
      ((compileBody surroundings body).region region).finalizer = some (.state entry) ∧
      route = (Route.direct (.state exit)).through region entry := by
  obtain ⟨path, added, fits⟩ := op_placed surroundings body member
  cases added with
  | jump target => exact Or.inl ⟨target, rfl⟩
  | finish inside => exact Or.inr ⟨_, _, _, fits _ _ _ (inside ▸ List.mem_cons_self), rfl⟩

end

end JavaWeave.Generator
