import JavaWeave.Proofs.Generator.Traces

namespace JavaWeave.Generator

open Syntax

/-- A compilation at a place of which the number of the next region is known, and variables that it has declared. -/
structure Compilation.Stands (c : Compilation) (declared : List String) (path : Path) (region : Nat) : Prop where
  place : c.At path
  regions : c.regions.length = region
  declared : ∀ name ∈ declared, c.Declares name

/-- Steps that are those of a trace wherever they begin at a place. -/
def Walks (sites : List (List Surround × Statement)) (locals : List (String × JavaType)) (declared : List String)
    (path : Path) (region count : Nat) (steps : Compiling α) : Prop :=
  ∀ ⦃known : Surroundings⦄ ⦃c c' : Compilation⦄ ⦃result : α⦄, c.Stands declared path region →
    Compiles known steps c result c' → Trace sites locals path count c c'

section

variable {sites : List (List Surround × Statement)} {locals : List (String × JavaType)} {declared : List String}
  {path : Path} {region count count' : Nat}

theorem Trace.stands {c c' : Compilation} (trace : Trace sites locals path count c c')
    (stands : c.Stands declared path region) : c'.Stands declared path (region + count) where
  place := trace.place stands.place
  regions := by rw [trace.regions, stands.regions]
  declared name member := trace.declares (stands.declared name member)

theorem walks_pure (value : α) : Walks sites locals declared path region 0 (pure value : Compiling α) := by
  intro known c c' result _ run
  obtain ⟨_, rfl⟩ := run.pure
  exact .refl

namespace Walks

variable {steps : Compiling α} {next : α → Compiling β}

theorem bind (walks : Walks sites locals declared path region count steps)
    (onward : ∀ value, Walks sites locals declared path (region + count) count' (next value)) :
    Walks sites locals declared path region (count + count') (steps >>= next) := by
  intro known c c' result stands run
  obtain ⟨value, middle, first, second⟩ := run.bind
  have trace := walks stands first
  exact trace.trans (onward value (trace.stands stands) second)

/-- Steps that make no region do not count. -/
theorem first (walks : Walks sites locals declared path region 0 steps)
    (onward : ∀ value, Walks sites locals declared path region count (next value)) :
    Walks sites locals declared path region count (steps >>= next) :=
  Nat.zero_add count ▸ walks.bind onward

theorem last (walks : Walks sites locals declared path region count steps)
    (onward : ∀ value, Walks sites locals declared path (region + count) 0 (next value)) :
    Walks sites locals declared path region count (steps >>= next) :=
  walks.bind onward

end Walks

/-- Steps that look at the compilation. -/
theorem walks_get {next : Compilation → Compiling α} (onward : ∀ c : Compilation,
    c.Stands declared path region → Walks sites locals declared path region count (next c)) :
    Walks sites locals declared path region count (get >>= next) := by
  intro known c c' result stands run
  obtain ⟨_, _, got, run⟩ := run.bind
  obtain ⟨rfl, rfl⟩ := got.get
  exact onward c stands stands run

theorem walks_newState : Walks sites locals declared path region 0 newState := by
  intro known c c' result _ run
  obtain ⟨rfl, rfl⟩ : c.states.length = result ∧ { c with states := c.states ++ [{ context := c.context }] } = c' :=
    Prod.mk.inj run
  exact .state

theorem walks_newStates (items : List α) : Walks sites locals declared path region 0 (newStates items) := by
  unfold newStates
  induction items with
  | nil => exact walks_pure _
  | cons item rest ih =>
    rw [List.mapM_cons]
    exact walks_newState.first fun _ => ih.first fun _ => walks_pure _

theorem walks_startState (id : Nat) : Walks sites locals declared path region 0 (startState id) := by
  intro known c c' result _ run
  obtain rfl := run.modify
  exact .start id

theorem walks_emit {op : Op} (added : Added sites path op) : Walks sites locals declared path region 0 (emit op) := by
  refine walks_get fun c _ => ?_
  have adds : Walks sites locals declared path region 0 (modify fun c : Compilation =>
      { c with states := c.states.modify c.current fun state => { state with ops := state.ops ++ [op] } }) := by
    intro known c c' result _ run
    obtain rfl := run.modify
    exact .add added
  split
  · exact walks_newState.first fun id => (walks_startState id).first fun _ => adds
  · exact adds

theorem walks_close : Walks sites locals declared path region 0 close := by
  intro known c c' result _ run
  obtain rfl := run.modify
  exact .close

theorem walks_terminate {op : Op} (added : Added sites path op) :
    Walks sites locals declared path region 0 (terminate op) :=
  (walks_emit added).first fun _ => walks_close

theorem walks_jumpBy {route : Route} (added : Added sites path (.jump route)) :
    Walks sites locals declared path region 0 (jumpBy route) := by
  refine walks_get fun c _ => ?_
  split
  · exact walks_pure _
  · exact walks_terminate added

theorem walks_jumpTo (id : Nat) : Walks sites locals declared path region 0 (jumpTo id) := walks_jumpBy (.jump _)

theorem walks_enter (id : Nat) : Walks sites locals declared path region 0 (enter id) :=
  (walks_jumpTo id).first fun _ => walks_startState id

theorem walks_liftVariable {name : String} (type : JavaType) (known : name ∈ locals.map (·.1) ∨ IsMade name) :
    Walks sites locals declared path region 0 (liftVariable name type) := by
  intro _ c c' result _ run
  obtain rfl := run.modify
  exact .lift type known

/-- A variable is declared for the steps behind. -/
theorem Walks.lifting {name : String} {type : JavaType} {next : Unit → Compiling α}
    (known : name ∈ locals.map (·.1) ∨ IsMade name)
    (onward : Walks sites locals (name :: declared) path region count (next ())) :
    Walks sites locals declared path region count (liftVariable name type >>= next) := by
  intro surroundings c c' result stands run
  obtain ⟨_, middle, lifts, run⟩ := run.bind
  have trace : Trace sites locals path 0 c middle := walks_liftVariable type known stands lifts
  obtain rfl := lifts.modify
  refine (onward ⟨(trace.stands stands).place, stands.regions, ?_⟩ run).after trace
  intro other member
  rcases List.mem_cons.mp member with rfl | member
  · exact (Compilation.isSome_lookup_lift c.lifted other type).1
  · exact trace.declares (stands.declared other member)

theorem walks_leaveUnless (condition : Expression) (id : Nat) :
    Walks sites locals declared path region 0 (leaveUnless condition id) := walks_emit (.branch _ id)

theorem walks_exitUnless (condition : Expression) (id : Nat) :
    Walks sites locals declared path region 0 (exitUnless condition id) := by
  unfold exitUnless
  split
  · exact walks_pure _
  · exact walks_leaveUnless condition id

theorem walks_endLoop (head exit : Nat) : Walks sites locals declared path region 0 (endLoop head exit) :=
  (walks_jumpTo head).first fun _ => walks_startState exit

/-- An expression that the compilation adds itself. -/
theorem walks_evaluate (e : Expression) : Walks sites locals declared path region 0 (emit (.code (.expression e))) :=
  walks_emit (.code rfl)

theorem Walks.withinFrame {label : Option String} {onBreak : Nat} {onContinue : Option Nat} {breakable : Bool}
    {part : Compiling Unit}
    (walks : Walks sites locals declared (.exit label onBreak onContinue breakable :: path) region count part) :
    Walks sites locals declared path region count (withinFrame label onBreak onContinue breakable part) := by
  intro known c c' result stands run
  obtain ⟨_, _, got, run⟩ := run.bind
  obtain ⟨rfl, rfl⟩ := got.get
  obtain ⟨_, inside, enters, run⟩ := run.bind
  obtain ⟨_, last, runs, leaves⟩ := run.bind
  obtain rfl := enters.modify
  obtain rfl := leaves.modify
  refine .frame (walks ⟨⟨?_, stands.place.finalizers⟩, stands.regions, stands.declared⟩ runs)
  rw [Path.frames, ← stands.place.frames, ← stands.place.finalizers]

theorem Walks.withinPart {index : Nat} {kind : Part} {part : Compiling α}
    (walks : Walks sites locals declared path region count part) :
    Walks sites locals declared path region count (withinPart index kind part) := by
  intro known c c' result stands run
  obtain ⟨_, _, got, run⟩ := run.bind
  obtain ⟨rfl, rfl⟩ := got.get
  obtain ⟨_, inside, enters, run⟩ := run.bind
  obtain ⟨_, last, runs, run⟩ := run.bind
  obtain ⟨_, left, leaves, run⟩ := run.bind
  obtain ⟨_, rfl⟩ := run.pure
  obtain rfl := enters.modify
  obtain rfl := leaves.modify
  exact .part (walks ⟨⟨stands.place.frames, stands.place.finalizers⟩, stands.regions, stands.declared⟩ runs)

/-- A statement is carried over. -/
theorem walks_carryOver {s : Statement} (site : (path.map Around.shape, s) ∈ sites) (declares : localsIn s ⊆ locals) :
    Walks sites locals declared path region 0 (carryOver s) := by
  by_cases declaration : isDeclaration s = true
  · obtain ⟨⟨modifiers, annotations, type, name, initial⟩, rfl⟩ : ∃ decl, s = .declare decl := by
      cases s <;> first | exact ⟨_, rfl⟩ | cases declaration
    have known : name ∈ locals.map (·.1) := List.mem_map.mpr ⟨(name, type), declares List.mem_cons_self, rfl⟩
    refine (walks_liftVariable type (Or.inl known)).first fun _ => ?_
    cases initial with
    | none => exact walks_pure _
    | some initial => exact (walks_evaluate _).first fun _ => walks_pure _
  by_cases nothing : s = .empty
  · subst nothing
    exact walks_pure _
  rw [carryOver_eq (by simpa using declaration) nothing]
  refine walks_get fun c stands => (walks_emit ?_).first fun _ => ?_
  · split
    · exact .leaving stands.place site
    · next stays => exact .code (by simpa using stays)
  · split
    · exact walks_pure _
    · exact walks_close

/-- The end of a part of a try statement leads behind it. -/
def Finishes (sites : List (List Surround × Statement)) (path : Path) (exit depth : Nat) : Prop :=
  ∀ c : Compilation, c.At path → Added sites path (.jump (c.route (.state exit) depth))

theorem finishes_direct (exit : Nat) : Finishes sites path exit path.finalizers.length := by
  intro c place
  have direct := Compilation.At.route (show c.At ([] ++ path) from place) (.state exit)
  rw [direct]
  exact .jump _

theorem finishes_guard (region entry exit : Nat) :
    Finishes sites (.guard region entry exit :: path) exit path.finalizers.length := by
  intro c place
  have through := Compilation.At.route (show c.At ([.guard region entry exit] ++ path) from place) (.state exit)
  rw [through]
  exact .finish rfl

theorem Walks.guarded {index exit depth : Nat} {kind : Part} {announce : Nat → Compiling Unit}
    {part : Compiling Unit} (finishes : Finishes sites path exit depth)
    (announces : ∀ entry, Walks sites locals declared path region 0 (announce entry))
    (walks : Walks sites locals declared path region count part) :
    Walks sites locals declared path region count (guarded index kind exit depth announce part) := by
  refine Walks.withinPart (walks_newState.first fun entry => (walks_enter entry).first fun _ =>
    (announces entry).first fun _ => walks.last fun _ => walks_get fun c stands => ?_)
  exact walks_jumpBy (finishes c stands.place)

theorem walks_addCatch {index entry : Nat} {parameter : Parameter} (known : parameter.name ∈ declared) :
    Walks sites locals declared path region 0 (addCatch index parameter entry) := by
  intro _ c c' result stands run
  obtain rfl := run.modify
  exact .catches (stands.declared _ known)

/-- The steps of a try statement without finalizer. -/
theorem walks_tryCatch {part : Compiling Unit} (clauses : Nat → Nat → Nat → Compiling Unit)
    (walks : Walks sites locals declared path (region + 1) count part)
    (handles : ∀ exit, Walks sites locals declared path (region + 1 + count) count'
      (clauses region exit path.finalizers.length)) :
    Walks sites locals declared path region (1 + count + count') (do
      let exit ← newState
      let index := (← get).regions.length
      modify fun c => { c with regions := c.regions ++ [{}] }
      let depth := (← get).finalizers.length
      guarded index .body exit depth (fun _ => pure ()) part
      clauses index exit depth
      enter exit) := by
  refine walks_newState.first fun exit => walks_get fun c stands => ?_
  rw [stands.regions, Nat.add_assoc]
  refine Walks.bind ?_ fun _ => walks_get fun c stands => ?_
  · intro _ c c' result stands run
    obtain rfl := run.modify
    exact .region
  · rw [stands.place.finalizers]
    refine Walks.bind (.guarded (finishes_direct exit) (fun _ => walks_pure _) walks) fun _ => ?_
    exact (handles exit).last fun _ => walks_enter exit

theorem Compilation.Stands.guard {c : Compilation} (stands : c.Stands declared path count) (region entry exit : Nat) :
    Stands
      { c with
        finalizers := c.finalizers ++ [(region, entry)]
        regions := c.regions.modify region fun r => { r with finalizer := some (.state entry) } }
      declared (.guard region entry exit :: path) count where
  place := ⟨stands.place.frames, by rw [Path.finalizers, ← stands.place.finalizers]⟩
  regions := by simpa using stands.regions
  declared := stands.declared

/-- The steps of a try statement with a finalizer. -/
theorem walks_tryFinally {part last : Compiling Unit} (clauses : Nat → Nat → Nat → Compiling Unit) {count'' : Nat}
    (walks : ∀ entry exit, Walks sites locals declared (.guard region entry exit :: path) (region + 1) count part)
    (handles : ∀ entry exit, Walks sites locals declared (.guard region entry exit :: path) (region + 1 + count) count'
      (clauses region exit path.finalizers.length))
    (ends : Walks sites locals declared path (region + 1 + count + count') count'' last) :
    Walks sites locals declared path region (1 + count + count' + count'') (do
      let exit ← newState
      let index := (← get).regions.length
      modify fun c => { c with regions := c.regions ++ [{}] }
      let depth := (← get).finalizers.length
      let entry ← withinPart index .finalizer newState
      liftVariable (continuationName index) (.named "int")
      liftVariable (pendingName index) (.named "java.lang.Throwable")
      modify fun c => { c with finalizers := c.finalizers ++ [(index, entry)] }
      updateRegion index fun r => { r with finalizer := some (.state entry) }
      guarded index .body exit depth (fun _ => pure ()) part
      clauses index exit depth
      modify fun c => { c with finalizers := c.finalizers.take depth }
      withinPart index .finalizer do
        enter entry
        last
        unless (← get).closed do terminate (.endFinalizer index)
      enter exit) := by
  refine walks_newState.first fun exit => walks_get fun c stands => ?_
  rw [stands.regions]
  clear stands c
  intro known c₁ c' result stands run
  obtain ⟨_, c₂, opens, run⟩ := run.bind
  obtain ⟨_, _, got, run⟩ := run.bind
  obtain ⟨rfl, rfl⟩ := got.get
  obtain ⟨entry, c₃, makes, run⟩ := run.bind
  obtain ⟨_, c₄, lifts, run⟩ := run.bind
  obtain ⟨_, c₅, lifts', run⟩ := run.bind
  obtain ⟨_, c₆, pushes, run⟩ := run.bind
  obtain ⟨_, c₇, arms, run⟩ := run.bind
  obtain ⟨_, c₈, guards, run⟩ := run.bind
  obtain ⟨_, c₉, catches, run⟩ := run.bind
  obtain ⟨_, c₁₀, pops, onward⟩ := run.bind
  have opened : Trace sites locals path 1 c₁ c₂ := opens.modify ▸ .region
  have stands₂ := opened.stands stands
  have made : Trace sites locals path 0 c₂ c₃ := walks_newState.withinPart stands₂ makes
  have continuation : Trace sites locals path 0 c₃ c₄ :=
    walks_liftVariable _ (Or.inr ⟨_, by simp, region, rfl⟩) (made.stands stands₂) lifts
  have stands₄ := (made.andThen continuation).stands stands₂
  have pending : Trace sites locals path 0 c₄ c₅ :=
    walks_liftVariable _ (Or.inr ⟨_, by simp, region, rfl⟩) stands₄ lifts'
  have stands₅ := pending.stands stands₄
  have fresh : c₅.regions[region]? = some {} := by
    cases opens
    cases makes
    cases lifts
    cases lifts'
    simp [← stands.regions]
  have declares : c₅.Declares (pendingName region) := by
    cases lifts'
    exact (Compilation.isSome_lookup_lift _ _ _).1
  have depth : c₂.finalizers.length = path.finalizers.length := by rw [stands₂.place.finalizers]
  rw [depth] at guards catches pops
  obtain rfl := pushes.modify
  obtain rfl := arms.modify
  have stands₇ := stands₅.guard region entry exit
  have worked := Walks.guarded (finishes_guard region entry exit) (fun _ => walks_pure _) (walks entry exit)
    stands₇ guards
  have handled := handles entry exit (worked.stands stands₇) catches
  have guarded : Trace sites locals path (count + count') c₅ c₁₀ := by
    obtain rfl := pops.modify
    rw [← stands₅.place.finalizers]
    exact .guard fresh declares (worked.trans handled)
  have begun := ((opened.andThen made).andThen continuation).andThen pending
  have reached := begun.trans guarded
  rw [← Nat.add_assoc] at reached
  refine reached.trans (Walks.last (.withinPart ?_) (fun _ => walks_enter exit) (reached.stands stands) onward)
  refine (walks_enter entry).first fun _ => ?_
  rw [← Nat.add_assoc, ← Nat.add_assoc]
  refine ends.last fun _ => walks_get fun c stands => ?_
  split
  · exact walks_pure _
  · exact walks_terminate (.endFinalizer region)

/-- A part is made of sites and variables of the whole. -/
private theorem left_subset {α : Type} {first second whole : List α} (inside : first ++ second ⊆ whole) :
    first ⊆ whole := (List.append_subset.mp inside).1

private theorem right_subset {α : Type} {first second whole : List α} (inside : first ++ second ⊆ whole) :
    second ⊆ whole := (List.append_subset.mp inside).2

private theorem walks_enterArrayLoop {number : Nat} {item : LocalVariable} {iterable : Expression} {type : JavaType}
    {head exit : Nat} :
    Walks sites locals declared path region 0 (enterArrayLoop number item iterable type head exit) := by
  refine (walks_liftVariable _ (Or.inr ⟨_, by simp, number, rfl⟩)).first fun _ => ?_
  refine (walks_liftVariable _ (Or.inr ⟨_, by simp, number, rfl⟩)).first fun _ => ?_
  refine (walks_evaluate _).first fun _ => (walks_evaluate _).first fun _ => (walks_enter head).first fun _ => ?_
  exact (walks_leaveUnless _ exit).first fun _ => (walks_evaluate _).first fun _ => walks_evaluate _

private theorem walks_enterIteratorLoop {number : Nat} {item : LocalVariable} {iterable : Expression}
    {head exit : Nat} :
    Walks sites locals declared path region 0 (enterIteratorLoop number item iterable head exit) := by
  refine (walks_liftVariable _ (Or.inr ⟨_, by simp, number, rfl⟩)).first fun _ => ?_
  refine (walks_evaluate _).first fun _ => (walks_enter head).first fun _ => ?_
  exact (walks_leaveUnless _ exit).first fun _ => walks_evaluate _

private theorem walks_loop :
    Walks sites locals declared path region 0 (modify fun c : Compilation => { c with loops := c.loops + 1 }) := by
  intro known c c' result _ run
  obtain rfl := run.modify
  exact .loop

private theorem walks_arrayType? (e : Expression) : Walks sites locals declared path region 0 (arrayType? e) := by
  intro known c c' result _ run
  obtain rfl : c = c' := congrArg Prod.snd run
  exact .refl

private theorem walks_evaluations (expressions : List Expression) :
    Walks sites locals declared path region 0 (do for e in expressions do emit (.code (.expression e))) := by
  induction expressions with
  | nil => exact walks_pure _
  | cons e rest ih =>
    simp only [List.forIn_cons, bind_assoc, pure_bind]
    exact (walks_evaluate e).first fun _ => ih

private theorem walks_quiet {label : Option String} {s : Statement} (quiet : s.yields = false)
    (placed : sitesIn label region (path.map Around.shape) s ⊆ sites) (declares : localsIn s ⊆ locals) :
    Walks sites locals declared path region (regionsIn s) (compile label s) := by
  rw [sitesIn_quiet quiet] at placed
  rw [regionsIn_quiet quiet, compile_quiet quiet]
  exact walks_carryOver (placed List.mem_cons_self) declares

/-- A statement that yields may be looked at apart from one that does not. -/
private theorem walks_unless_quiet {label : Option String} {s : Statement} {here : List (List Surround × Statement)}
    {regions : Nat} {steps : Compiling Unit}
    (placed : sitesIn label region (path.map Around.shape) s ⊆ sites) (declares : localsIn s ⊆ locals)
    (sited : sitesIn label region (path.map Around.shape) s =
      if s.yields then here else [(path.map Around.shape, s)])
    (regioned : regionsIn s = if s.yields then regions else 0)
    (compiled : compile label s = if !s.yields then carryOver s else steps)
    (loud : here ⊆ sites → Walks sites locals declared path region regions steps) :
    Walks sites locals declared path region (regionsIn s) (compile label s) := by
  cases yields : s.yields with
  | false => exact walks_quiet yields placed declares
  | true =>
    rw [sited, if_pos yields] at placed
    rw [regioned, if_pos yields, compiled, if_neg (by simp [yields])]
    exact loud placed

/-- A statement that yields without being made of statements is carried over like one that does not. -/
private theorem walks_other {label : Option String} {s : Statement}
    (placed : sitesIn label region (path.map Around.shape) s ⊆ sites) (declares : localsIn s ⊆ locals)
    (sited : sitesIn label region (path.map Around.shape) s = [(path.map Around.shape, s)])
    (unregioned : regionsIn s = 0) (carried : compile label s = carryOver s) :
    Walks sites locals declared path region (regionsIn s) (compile label s) := by
  rw [sited] at placed
  rw [unregioned, carried]
  exact walks_carryOver (placed List.mem_cons_self) declares

private theorem walks_expression {label : Option String} {e : Expression}
    (placed : sitesIn label region (path.map Around.shape) (.expression e) ⊆ sites) :
    Walks sites locals declared path region (regionsIn (.expression e)) (compile label (.expression e)) := by
  refine walks_unless_quiet placed (List.nil_subset _) rfl rfl compile_expression fun placed => ?_
  cases yielded : (Statement.expression e).yielded? with
  | none =>
    rw [yielded] at placed
    exact walks_carryOver (placed List.mem_cons_self) (List.nil_subset _)
  | some arguments =>
    exact walks_newState.first fun resume => (walks_terminate (.yield _ resume)).first fun _ =>
      walks_startState resume

mutual

/-- Compiling a statement takes the steps of a trace. -/
theorem walks_compile (label : Option String) (declared : List String) (path : Path) (region : Nat) :
    (s : Statement) → sitesIn label region (path.map Around.shape) s ⊆ sites → localsIn s ⊆ locals →
    Walks sites locals declared path region (regionsIn s) (compile label s)
  | .block body, placed, declares => by
    refine walks_unless_quiet placed declares rfl rfl rfl fun placed => ?_
    exact walks_compileAll declared path region body placed declares
  | .ifElse condition whenTrue none, placed, declares => by
    refine walks_unless_quiet placed declares rfl rfl rfl fun placed => ?_
    refine walks_newState.first fun exit => (walks_leaveUnless condition exit).first fun _ => ?_
    exact (walks_compile none declared path region whenTrue (left_subset placed) (left_subset declares)).last
      fun _ => walks_enter exit
  | .ifElse condition whenTrue (some whenFalse), placed, declares => by
    refine walks_unless_quiet placed declares rfl rfl rfl fun placed => ?_
    refine walks_newState.first fun exit => walks_newState.first fun otherwise => ?_
    refine (walks_leaveUnless condition otherwise).first fun _ => ?_
    refine (walks_compile none declared path region whenTrue (left_subset placed) (left_subset declares)).bind
      fun _ => ?_
    refine (walks_jumpTo exit).first fun _ => (walks_enter otherwise).first fun _ => ?_
    exact (walks_compile none declared path _ whenFalse (right_subset placed) (right_subset declares)).last
      fun _ => walks_enter exit
  | .labeled name body, placed, declares => by
    refine walks_unless_quiet placed declares rfl rfl rfl fun placed => ?_
    cases takes : takesLabel body with
    | true =>
      simp only [takes, if_true] at placed ⊢
      exact walks_compile (some name) declared path region body placed declares
    | false =>
      simp only [takes, Bool.false_eq_true, if_false] at placed ⊢
      refine walks_newState.first fun exit => Walks.last (.withinFrame ?_) fun _ => walks_enter exit
      exact walks_compile none declared (.exit (some name) exit none false :: path) region body placed declares
  | .whileLoop condition body, placed, declares => by
    refine walks_unless_quiet placed declares rfl rfl rfl fun placed => ?_
    refine walks_newState.first fun head => walks_newState.first fun exit => (walks_enter head).first fun _ => ?_
    refine (walks_exitUnless condition exit).first fun _ => Walks.last (.withinFrame ?_) fun _ =>
      walks_endLoop head exit
    exact walks_compile none declared (.exit label exit (some head) true :: path) region body placed declares
  | .doWhile body condition, placed, declares => by
    refine walks_unless_quiet placed declares rfl rfl rfl fun placed => ?_
    refine walks_newState.first fun head => walks_newState.first fun test => walks_newState.first fun exit => ?_
    refine (walks_enter head).first fun _ => Walks.last (.withinFrame ?_) fun _ => ?_
    · exact walks_compile none declared (.exit label exit (some test) true :: path) region body placed declares
    · exact (walks_enter test).first fun _ => (walks_emit (.branch condition head)).first fun _ => walks_enter exit
  | .forLoop start condition update body, placed, declares => by
    refine walks_unless_quiet placed declares rfl rfl rfl fun placed => ?_
    refine (walks_compileAll declared path region start (left_subset placed) (left_subset declares)).bind fun _ => ?_
    refine walks_newState.first fun head => walks_newState.first fun step => walks_newState.first fun exit => ?_
    refine (walks_enter head).first fun _ => ?_
    have inside :=
      walks_compile none declared (.exit label exit (some step) true :: path) (region + regionsInAll start)
      body (right_subset placed) (right_subset declares)
    have runs := Walks.last inside.withinFrame fun _ => (walks_enter step).first fun _ =>
      (walks_evaluations update).first fun _ => walks_endLoop head exit
    cases condition with
    | none => exact runs
    | some condition => exact (walks_exitUnless condition exit).first fun _ => runs
  | .forEach ⟨_, _, type, name, _⟩ iterable body, placed, declares => by
    refine walks_unless_quiet placed declares rfl rfl rfl fun placed => ?_
    have known : name ∈ locals.map (·.1) := List.mem_map.mpr ⟨(name, type), declares List.mem_cons_self, rfl⟩
    refine walks_loop.first fun _ => walks_get fun c _ => ?_
    refine walks_newState.first fun head => walks_newState.first fun exit => ?_
    refine (walks_arrayType? iterable).first fun type? => ?_
    have inside := walks_compile none declared (.exit label exit (some head) true :: path) region body placed
      (List.subset_of_cons_subset declares)
    have runs := (walks_liftVariable type (Or.inl known)).first fun _ => Walks.last inside.withinFrame fun _ =>
      walks_endLoop head exit
    cases type? with
    | none => exact walks_enterIteratorLoop.first fun _ => runs
    | some type' => exact walks_enterArrayLoop.first fun _ => runs
  | .switch selector cases, placed, declares => by
    refine walks_unless_quiet placed declares rfl rfl rfl fun placed => ?_
    refine walks_newState.first fun exit => (walks_newStates cases).first fun entries => ?_
    refine (walks_terminate (.dispatch _ _)).first fun _ => Walks.last (.withinFrame ?_) fun _ => walks_enter exit
    exact walks_compileCases declared (.exit label exit none true :: path) region entries cases placed declares
  | .tryCatch body catches none, placed, declares => by
    refine walks_unless_quiet placed declares rfl rfl rfl fun placed => ?_
    rw [Nat.add_zero]
    have declares : localsInAll body ++ localsInCatches catches ⊆ locals := left_subset declares
    exact walks_tryCatch (fun index exit depth => compileCatches index exit depth catches)
      (walks_compileAll declared path (region + 1) body (left_subset placed) (left_subset declares))
      fun exit => walks_compileCatches declared path (region + 1 + regionsInAll body) (finishes_direct exit) catches
        (right_subset placed) (right_subset declares)
  | .tryCatch body catches (some finalizer), placed, declares => by
    refine walks_unless_quiet placed declares rfl rfl rfl fun placed => ?_
    exact walks_tryFinally (fun index exit depth => compileCatches index exit depth catches)
      (fun entry exit => walks_compileAll declared (.guard region entry exit :: path) (region + 1) body
        (left_subset (left_subset placed)) (left_subset (left_subset declares)))
      (fun entry exit => walks_compileCatches declared (.guard region entry exit :: path)
        (region + 1 + regionsInAll body) (finishes_guard region entry exit) catches
        (right_subset (left_subset placed)) (right_subset (left_subset declares)))
      (walks_compileAll declared path _ finalizer (right_subset placed) (right_subset declares))
  | .expression e, placed, _ => walks_expression placed
  | .declare decl, placed, declares => walks_other placed declares (ite_self _) (ite_self _) (ite_self _)
  | .synchronized lock body, placed, declares => walks_other placed declares (ite_self _) (ite_self _) (ite_self _)
  | .returns value, placed, declares => walks_other placed declares (ite_self _) (ite_self _) (ite_self _)
  | .throws value, placed, declares => walks_other placed declares (ite_self _) (ite_self _) (ite_self _)
  | .returnsDefault, placed, declares => walks_quiet rfl placed declares
  | .breaks _, placed, declares => walks_quiet rfl placed declares
  | .continues _, placed, declares => walks_quiet rfl placed declares
  | .localType _, placed, declares => walks_quiet rfl placed declares
  | .empty, placed, declares => walks_quiet rfl placed declares
  | .verbatim _, placed, declares => walks_quiet rfl placed declares

theorem walks_compileAll (declared : List String) (path : Path) (region : Nat) : (body : List Statement) →
    sitesInAll region (path.map Around.shape) body ⊆ sites → localsInAll body ⊆ locals →
    Walks sites locals declared path region (regionsInAll body) (compileAll body)
  | [], _, _ => walks_pure _
  | s :: rest, placed, declares => by
    exact (walks_compile none declared path region s (left_subset placed) (left_subset declares)).bind fun _ =>
      walks_compileAll declared path (region + regionsIn s) rest (right_subset placed) (right_subset declares)

theorem walks_compileCases (declared : List String) (path : Path) (region : Nat) (entries : List Nat) :
    (cases : List SwitchCase) → sitesInCases region (path.map Around.shape) cases ⊆ sites →
    localsInCases cases ⊆ locals →
    Walks sites locals declared path region (regionsInCases cases) (compileCases entries cases)
  | [], _, _ => walks_pure _
  | ⟨label, body⟩ :: rest, placed, declares => by
    have runs := (walks_compileAll declared path region body (left_subset placed) (left_subset declares)).bind
      fun _ => walks_compileCases declared path (region + regionsInAll body) entries.tail rest (right_subset placed)
        (right_subset declares)
    cases entries with
    | nil => exact runs
    | cons entry entries => exact (walks_enter entry).first fun _ => runs

theorem walks_compileCatches (declared : List String) (path : Path) (region : Nat) {index exit depth : Nat}
    (finishes : Finishes sites path exit depth) : (catches : List CatchClause) →
    sitesInCatches region (path.map Around.shape) catches ⊆ sites → localsInCatches catches ⊆ locals →
    Walks sites locals declared path region (regionsInCatches catches) (compileCatches index exit depth catches)
  | [], _, _ => walks_pure _
  | ⟨⟨_, _, type, name⟩, body⟩ :: rest, placed, declares => by
    have declares : (name, type) :: localsInAll body ++ localsInCatches rest ⊆ locals := declares
    have known : name ∈ locals.map (·.1) := List.mem_map.mpr ⟨(name, type), declares (by simp), rfl⟩
    have inside := walks_compileAll (name :: declared) path region body (left_subset placed)
      fun _ member => declares (by simp [member])
    refine Walks.lifting (Or.inl known) ((Walks.guarded finishes
      (fun _ => walks_addCatch List.mem_cons_self) inside).bind
      fun _ => ?_)
    exact walks_compileCatches (name :: declared) path (region + regionsInAll body) finishes rest (right_subset placed)
      fun _ member => declares (by simp [member])

end

/-- The machine of a body is read off a compilation at the end of a trace. -/
theorem compileBody_trace (surroundings : Surroundings) (body : List Statement) :
    ∃ c : Compilation, Trace (sitesInAll 0 [] body) (localsInAll body) [] (regionsInAll body) {} c ∧
      compileBody surroundings body = c.machine := by
  obtain ⟨⟨_, last⟩, run⟩ : ∃ ending : Unit × Compilation,
      (do compileAll body; jumpBy (.direct .done) : Compiling Unit) surroundings {} = ending := ⟨_, rfl⟩
  have walks : Walks (sitesInAll 0 [] body) (localsInAll body) [] [] 0 (regionsInAll body)
      (do compileAll body; jumpBy (.direct .done)) :=
    (walks_compileAll [] [] 0 body (List.Subset.refl _) (List.Subset.refl _)).last fun _ => walks_jumpBy (.jump _)
  refine ⟨last, walks ⟨⟨rfl, rfl⟩, rfl, by simp⟩ run, ?_⟩
  exact congrArg (fun ending : Unit × Compilation => ending.2.machine) run

end

end JavaWeave.Generator
