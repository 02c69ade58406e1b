import JavaWeave.Generator.Lower
import JavaWeave.Proofs.Generator.Compiling
import JavaWeave.Proofs.Interpreter.Realm
import JavaWeave.Proofs.Text.Pieces

/-! The body of a generator that keeps to itself becomes a machine whose code keeps to the object that runs it: the
variables of the body are fields of that object. -/

namespace JavaWeave.Generator

open Syntax Interpreter

/-- A transfer sets variables of the realm. -/
def Route.Keeps (realm : Realm) (route : Route) : Prop :=
  ∀ continuation ∈ route.continuations, continuationName continuation.1 ∈ realm.fields

mutual

/-- An operation keeps to a realm wherever it is written. -/
def Op.Keeps (realm : Realm) : Op → Prop
  | .code s => ∀ sight, sight ≠ [] → realm.runs sight s = true
  | .leaving s exits =>
    (∀ sight, sight ≠ [] → realm.runs sight s = true) ∧ ∀ route ∈ exits.routes, route.Keeps realm
  | .branch condition ops =>
    (∀ sight, sight ≠ [] → realm.evaluates sight true condition = true) ∧ Op.AllKeep realm ops
  | .jump route => route.Keeps realm
  | .yield value _ => ∀ sight, sight ≠ [] → realm.evaluates sight true value = true
  | .dispatch selector arms => ∀ sight, sight ≠ [] → realm.evaluates sight true selector = true ∧
    ∀ arm ∈ arms, arm.1.all (realm.evaluates sight true) = true
  | .endFinalizer region => continuationName region ∈ realm.fields ∧ pendingName region ∈ realm.fields

def Op.AllKeep (realm : Realm) : List Op → Prop
  | [] => True
  | op :: rest => op.Keeps realm ∧ Op.AllKeep realm rest

end

/-- A compilation all of whose operations and regions keep to a realm. -/
structure Compilation.Keeps (realm : Realm) (c : Compilation) : Prop where
  ops : ∀ state ∈ c.states, ∀ op ∈ state.ops, op.Keeps realm
  catches : ∀ region ∈ c.regions, ∀ entry ∈ region.catches,
    isUndotted entry.parameter = true ∧ entry.parameter ∈ realm.fields
  finalizers : ∀ {index : Nat} {region : Region}, c.regions[index]? = some region → region.finalizer.isSome = true →
    pendingName index ∈ realm.fields
  around : ∀ finalizer ∈ c.finalizers, continuationName finalizer.1 ∈ realm.fields

/-- Steps that go on to keep to a realm if all variables are in it. What is known of the variables before and after
them does not depend on the compilation. -/
def Fills (realm : Realm) (before after : Prop) (steps : Compiling α) : Prop :=
  ∀ ⦃known : Surroundings⦄ ⦃c c' : Compilation⦄ ⦃result : α⦄, Compiles known steps c result c' →
    (∀ name, c.Declares name → c'.Declares name) ∧
    ((∀ name, c'.Declares name → name ∈ realm.fields) → before → c.Keeps realm → after ∧ c'.Keeps realm)

section

variable {realm : Realm} {before middle after : Prop}

theorem fills_pure (value : α) : Fills realm before before (pure value : Compiling α) := by
  intro known c c' result run
  obtain ⟨_, rfl⟩ := run.pure
  exact ⟨fun _ declared => declared, fun _ holds keeps => ⟨holds, keeps⟩⟩

namespace Fills

variable {steps : Compiling α} {next : α → Compiling β}

theorem bind (first : Fills realm before middle steps) (onward : ∀ value, Fills realm middle after (next value)) :
    Fills realm before after (steps >>= next) := by
  intro known c c' result run
  obtain ⟨value, between, run, run'⟩ := run.bind
  obtain ⟨grows, fills⟩ := first run
  obtain ⟨grows', fills'⟩ := onward value run'
  refine ⟨fun name declared => grows' name (grows name declared), fun all holds keeps => ?_⟩
  obtain ⟨holds, keeps⟩ := fills (fun name declared => all name (grows' name declared)) holds keeps
  exact fills' all holds keeps

/-- Steps that leave what is known as it is. -/
theorem first (fills : Fills realm before before steps) (onward : ∀ value, Fills realm before after (next value)) :
    Fills realm before after (steps >>= next) := fills.bind onward

theorem imp {before' after' : Prop} (fills : Fills realm before after steps) (first : before' → before)
    (last : before' → after → after') : Fills realm before' after' steps := by
  intro known c c' result run
  obtain ⟨grows, fills⟩ := fills run
  exact ⟨grows, fun all holds keeps => (fills all (first holds) keeps).imp_left (last holds)⟩

/-- What is known before steps is known behind them. -/
theorem keep (fills : Fills realm before after steps) : Fills realm before before steps :=
  fills.imp id fun holds _ => holds

/-- What is known among steps need not be known behind them. -/
theorem among (first : Fills realm before middle steps) (onward : ∀ value, Fills realm middle middle (next value)) :
    Fills realm before before (steps >>= next) := (first.bind onward).keep

/-- More may be known. -/
theorem known {more : Prop} (fills : Fills realm before after steps) : Fills realm (before ∧ more) after steps :=
  fills.imp And.left fun _ holds => holds

/-- What else is known stays known. -/
theorem aside {more : Prop} (fills : Fills realm before after steps) :
    Fills realm (before ∧ more) (before ∧ more) steps := (fills.imp And.left fun _ _ => trivial).keep

/-- Less may be known. -/
theorem forget {more : Prop} (fills : Fills realm before (after ∧ more) steps) : Fills realm before after steps :=
  fills.imp id fun _ holds => holds.1

/-- What follows from what is known is known behind the steps. -/
theorem gives (fills : Fills realm before before steps) (follows : before → after) : Fills realm before after steps :=
  fills.imp id fun holds _ => follows holds

end Fills

/-- Steps that look at the compilation. -/
theorem fills_get {next : Compilation → Compiling α} (onward : ∀ c : Compilation,
    Fills realm (before ∧ c.Keeps realm) after (next c)) : Fills realm before after (get >>= next) := by
  intro known c c' result run
  obtain ⟨_, _, got, run⟩ := run.bind
  obtain ⟨rfl, rfl⟩ := got.get
  obtain ⟨grows, fills⟩ := onward c run
  exact ⟨grows, fun all holds keeps => fills all ⟨holds, keeps⟩ keeps⟩

theorem fills_modify {change : Compilation → Compilation}
    (lifted : ∀ c name, c.Declares name → (change c).Declares name)
    (keeps : ∀ c, (∀ name, (change c).Declares name → name ∈ realm.fields) → before → c.Keeps realm →
      (change c).Keeps realm) : Fills realm before before (modify change : Compiling Unit) := by
  intro known c c' result run
  obtain rfl := run.modify
  exact ⟨lifted c, fun all holds kept => ⟨holds, keeps c all holds kept⟩⟩

theorem fills_newState : Fills realm before before newState := by
  intro known c c' result run
  obtain ⟨rfl, rfl⟩ : c.states.length = result ∧ { c with states := c.states ++ [{ context := c.context }] } = c' :=
    Prod.mk.inj run
  refine ⟨fun _ declared => declared, fun _ holds keeps => ⟨holds, { keeps with ops := fun state member => ?_ }⟩⟩
  rcases List.mem_append.mp member with old | new
  · exact keeps.ops state old
  · obtain rfl := List.mem_singleton.mp new
    nofun

theorem fills_startState (id : Nat) : Fills realm before before (startState id) :=
  fills_modify (fun _ _ declared => declared) fun _ _ _ keeps => { keeps with }

theorem fills_emit {op : Op} (keeps : before → op.Keeps realm) : Fills realm before before (emit op) := by
  have adds : Fills realm before before (modify fun c : Compilation =>
      { c with states := c.states.modify c.current fun state => { state with ops := state.ops ++ [op] } }) := by
    refine fills_modify (fun _ _ declared => declared) fun c _ holds kept => { kept with ops := fun state member => ?_ }
    obtain ⟨id, written⟩ := List.getElem?_of_mem member
    obtain ⟨old, found, rfl⟩ := Compilation.of_getElem?_added written
    intro other inside
    rcases List.mem_append.mp inside with old' | new
    · exact kept.ops old (List.mem_of_getElem? found) other old'
    · split at new
      · obtain rfl := List.mem_singleton.mp new
        exact keeps holds
      · cases new
  refine fills_get fun c => Fills.known ?_
  split
  · exact .bind fills_newState fun id => .bind (fills_startState id) fun _ => adds
  · exact adds

theorem fills_close : Fills realm before before close :=
  fills_modify (fun _ _ declared => declared) fun _ _ _ keeps => { keeps with }

theorem fills_terminate {op : Op} (keeps : before → op.Keeps realm) : Fills realm before before (terminate op) :=
  .bind (fills_emit keeps) fun _ => fills_close

theorem fills_jumpBy {route : Route} (keeps : before → route.Keeps realm) :
    Fills realm before before (jumpBy route) := by
  refine fills_get fun c => Fills.known ?_
  split
  · exact fills_pure _
  · exact fills_terminate keeps

theorem keeps_direct (target : Target) : (Route.direct target).Keeps realm := nofun

theorem fills_jumpTo (id : Nat) : Fills realm before before (jumpTo id) := fills_jumpBy fun _ => keeps_direct _

theorem fills_enter (id : Nat) : Fills realm before before (enter id) :=
  .bind (fills_jumpTo id) fun _ => fills_startState id

theorem fills_endLoop (head exit : Nat) : Fills realm before before (endLoop head exit) :=
  .bind (fills_jumpTo head) fun _ => fills_startState exit

theorem fills_liftVariable (name : String) (type : JavaType) :
    Fills realm before (before ∧ name ∈ realm.fields) (liftVariable name type) := by
  intro known c c' result run
  obtain rfl := run.modify
  have lifts := Compilation.isSome_lookup_lift c.lifted name type
  exact ⟨lifts.2, fun all holds keeps => ⟨⟨holds, all name lifts.1⟩, { keeps with }⟩⟩

/-- Steps may set a variable that is lifted behind them. -/
theorem Fills.ahead {first : Compiling Unit} {next : Compiling α} {name : String} {type : JavaType}
    (fills : Fills realm (before ∧ name ∈ realm.fields) middle first) (onward : Fills realm middle after next) :
    Fills realm before after (do
      first
      liftVariable name type
      next) := by
  intro known c c' result run
  obtain ⟨_, between, run, run'⟩ := run.bind
  obtain ⟨_, last, lifting, run''⟩ := run'.bind
  obtain ⟨grows, fills⟩ := fills run
  have lifting' : Fills realm middle (middle ∧ name ∈ realm.fields) (liftVariable name type) := fills_liftVariable _ _
  obtain ⟨grows', lifts⟩ := lifting' lifting
  obtain ⟨grows'', onward⟩ := onward run''
  have declared : last.Declares name := by
    obtain rfl := lifting.modify
    exact (Compilation.isSome_lookup_lift between.lifted name type).1
  refine ⟨fun other inside => grows'' other (grows' other (grows other inside)), fun all holds keeps => ?_⟩
  have known : ∀ other, last.Declares other → other ∈ realm.fields :=
    fun other inside => all other (grows'' other inside)
  obtain ⟨holds, keeps⟩ :=
    fills (fun other inside => known other (grows' other inside)) ⟨holds, known name declared⟩ keeps
  obtain ⟨holds, keeps⟩ := lifts known holds keeps
  exact onward all holds.1 keeps

/-- Steps that only look. -/
theorem fills_arrayType? (e : Expression) : Fills realm before before (arrayType? e) := by
  intro known c c' result run
  cases run
  exact ⟨fun _ declared => declared, fun _ holds keeps => ⟨holds, keeps⟩⟩

theorem fills_leaveUnless {condition : Expression} (id : Nat)
    (keeps : before → ∀ sight, sight ≠ [] → realm.evaluates sight true condition = true) :
    Fills realm before before (leaveUnless condition id) :=
  fills_emit fun holds => ⟨keeps holds, keeps_direct _, trivial⟩

theorem fills_exitUnless {condition : Expression} (id : Nat)
    (keeps : before → ∀ sight, sight ≠ [] → realm.evaluates sight true condition = true) :
    Fills realm before before (exitUnless condition id) := by
  unfold exitUnless
  split
  · exact fills_pure _
  · exact fills_leaveUnless id keeps

theorem Fills.withinPart {index : Nat} {kind : Part} {part : Compiling α} (fills : Fills realm before after part) :
    Fills realm before after (withinPart index kind part) := by
  have moves (change : Compilation → Context) {known : Prop} :
      Fills realm known known (modify fun c : Compilation => { c with context := change c }) :=
    fills_modify (fun _ _ declared => declared) fun _ _ _ keeps => { keeps with }
  refine fills_get fun c => Fills.known (.bind (moves _) fun _ => .bind fills fun _ => ?_)
  exact .bind (moves _) fun _ => fills_pure _

theorem Fills.withinFrame {label : Option String} {onBreak : Nat} {onContinue : Option Nat} {breakable : Bool}
    {part : Compiling Unit} (fills : Fills realm before after part) :
    Fills realm before after (withinFrame label onBreak onContinue breakable part) := by
  have moves (change : Compilation → List Frame) {known : Prop} :
      Fills realm known known (modify fun c : Compilation => { c with frames := change c }) :=
    fills_modify (fun _ _ declared => declared) fun _ _ _ keeps => { keeps with }
  exact fills_get fun c => Fills.known (.bind (moves _) fun _ => .bind fills fun _ => moves _)

/-- The routes out of the statements around set variables of the finalizers around. -/
theorem Compilation.Keeps.route {c : Compilation} (keeps : c.Keeps realm) (target : Target) (depth : Nat) :
    (c.route target depth).Keeps realm := by
  intro continuation member
  obtain ⟨finalizer, inside, same⟩ := Compilation.route_continuations member
  rw [same]
  exact keeps.around finalizer inside

theorem Compilation.Keeps.exits {c : Compilation} (keeps : c.Keeps realm) :
    ∀ route ∈ c.exits.routes, route.Keeps realm := by
  intro route member
  obtain ⟨target, depth, rfl, _⟩ := Compilation.mem_exits member
  exact keeps.route target depth

/-- The steps of a part that is left for its end. -/
theorem Fills.guarded {index exit depth : Nat} {kind : Part} {announce : Nat → Compiling Unit} {part : Compiling Unit}
    (announces : ∀ entry, Fills realm before before (announce entry)) (fills : Fills realm before after part) :
    Fills realm before after (guarded index kind exit depth announce part) := by
  refine Fills.withinPart (.bind fills_newState fun entry => .bind (fills_enter entry) fun _ => ?_)
  refine .bind (announces entry) fun _ => .bind fills fun _ => fills_get fun c => ?_
  exact (fills_jumpBy fun holds => holds.2.route _ _).imp id fun _ holds => holds.1

theorem fills_region : Fills realm before before
    (modify fun c : Compilation => { c with regions := c.regions ++ [{}] }) := by
  refine fills_modify (fun _ _ declared => declared) fun c _ _ keeps =>
    { keeps with catches := fun region member => ?_, finalizers := fun {index region} found given => ?_ }
  · rcases List.mem_append.mp member with old | new
    · exact keeps.catches region old
    · obtain rfl := List.mem_singleton.mp new
      nofun
  · rw [List.getElem?_append] at found
    split at found
    · exact keeps.finalizers found given
    · obtain rfl := List.mem_singleton.mp (List.mem_of_getElem? found)
      cases given

theorem fills_updateRegion {index : Nat} {change : Region → Region}
    (catches : before → ∀ region, ∀ entry ∈ (change region).catches, entry ∈ region.catches ∨
      isUndotted entry.parameter = true ∧ entry.parameter ∈ realm.fields)
    (finalizer : before → ∀ region, (change region).finalizer.isSome = true → region.finalizer.isSome = true ∨
      pendingName index ∈ realm.fields) : Fills realm before before (updateRegion index change) := by
  refine fills_modify (fun _ _ declared => declared) fun c _ holds keeps =>
    { keeps with catches := fun region member entry inside => ?_, finalizers := fun {place region} found given => ?_ }
  · obtain ⟨place, found⟩ := List.getElem?_of_mem member
    rw [List.getElem?_modify] at found
    obtain ⟨old, there, rfl⟩ := Option.map_eq_some_iff.mp found
    have kept := keeps.catches old (List.mem_of_getElem? there)
    split at inside
    · exact (catches holds old entry inside).elim (kept entry) id
    · exact kept entry inside
  · rw [List.getElem?_modify] at found
    obtain ⟨old, there, rfl⟩ := Option.map_eq_some_iff.mp found
    split at given
    · next same =>
      subst same
      exact (finalizer holds old given).elim (keeps.finalizers there) id
    · exact keeps.finalizers there given

theorem fills_addCatch {index entry : Nat} {parameter : Parameter}
    (named : before → isUndotted parameter.name = true ∧ parameter.name ∈ realm.fields) :
    Fills realm before before (addCatch index parameter entry) :=
  fills_updateRegion (fun holds region handler inside => by
    rcases List.mem_append.mp inside with old | new
    · exact Or.inl old
    · obtain rfl := List.mem_singleton.mp new
      exact Or.inr (named holds)) fun _ _ given => Or.inl given

/-- Steps under a finalizer. -/
theorem fills_pushFinalizer {index entry : Nat} {type type' : JavaType} {next : Compiling α}
    (onward : Fills realm (before ∧ continuationName index ∈ realm.fields ∧ pendingName index ∈ realm.fields) after
      next) : Fills realm before after (do
      liftVariable (continuationName index) type
      liftVariable (pendingName index) type'
      modify fun c => { c with finalizers := c.finalizers ++ [(index, entry)] }
      next) := by
  refine .bind (fills_liftVariable _ _) fun _ => .bind (fills_liftVariable _ _) fun _ => ?_
  refine .bind (fills_modify (fun _ _ declared => declared) fun c _ holds keeps =>
    { keeps with around := fun finalizer member => ?_ }) fun _ =>
      onward.imp (fun holds => ⟨holds.1.1, holds.1.2, holds.2⟩) fun _ holds => holds
  rcases List.mem_append.mp member with old | new
  · exact keeps.around finalizer old
  · obtain rfl := List.mem_singleton.mp new
    exact holds.1.2

theorem fills_popFinalizer (depth : Nat) : Fills realm before before
    (modify fun c : Compilation => { c with finalizers := c.finalizers.take depth }) :=
  fills_modify (fun _ _ declared => declared) fun _ _ _ keeps =>
    { keeps with around := fun finalizer member => keeps.around finalizer (List.mem_of_mem_take member) }

theorem fills_newStates (items : List α) : Fills realm before before (newStates items) := by
  unfold newStates
  induction items with
  | nil => exact fills_pure _
  | cons item rest ih =>
    simp only [List.mapM_cons]
    exact .bind fills_newState fun _ => .bind ih fun _ => fills_pure _

theorem fills_evaluations {expressions : List Expression}
    (keeps : before → ∀ e ∈ expressions, ∀ sight, sight ≠ [] → realm.evaluates sight true e = true) :
    Fills realm before before (do for e in expressions do emit (.code (.expression e))) := by
  induction expressions with
  | nil => exact fills_pure _
  | cons e rest ih =>
    simp only [List.forIn_cons, bind_assoc, pure_bind]
    refine .bind (fills_emit fun holds sight some_ => ?_) fun _ =>
      ih fun holds other inside => keeps holds other (List.mem_cons_of_mem _ inside)
    exact performs_of_evaluates (keeps holds e List.mem_cons_self sight some_)

end

/-- A field is assigned what it may hold. -/
theorem runs_assignName {realm : Realm} {sight : Sight} {name : String} {e : Expression}
    (undotted : isUndotted name = true) (there : name ∈ realm.fields)
    (inside : realm.evaluates sight (realm.loose name) e = true) : realm.runs sight (assignName name e) = true := by
  have found : realm.target? sight (.name name) = some name :=
    if_pos (Bool.and_eq_true_iff.mpr
      ⟨undotted, Bool.or_eq_true_iff.mpr (Or.inr (List.contains_iff_mem.mpr there))⟩)
  exact (evaluates_assign found).trans inside

/-- Of the variables that a generator gets besides those of its body, only the element and the number of the state may
be objects of any kind. -/
def Reserves (realm : Realm) : Prop :=
  ∀ name, name.toList.head? = some '$' → name ≠ elementName → name ≠ stateName → realm.loose name = false

section

variable {realm : Realm} {letters : String} {second : Char} {number : Nat}

theorem undotted_numbered (plain : '.' ∉ letters.toList) (number : Nat) :
    isUndotted (letters ++ toString number) = true := beq_iff_eq.mpr (Text.split_numbered plain number)

variable (reserves : Reserves realm) (first : letters.toList.head? = some '$')
  (other : letters.toList[1]? = some second) (different : second ≠ 'n' ∧ second ≠ 's')

include reserves first other different

/-- The names that are numbered are those of variables that hold no element. -/
theorem loose_numbered (number : Nat) : realm.loose (letters ++ toString number) = false := by
  have whole : (letters ++ toString number).toList = letters.toList ++ (toString number).toList := String.toList_append
  have inside : 1 < letters.toList.length := (List.getElem?_eq_some_iff.mp other).1
  have reads : (letters ++ toString number).toList[1]? = some second := by
    rw [whole, List.getElem?_append_left inside, other]
  refine reserves _ ?_ (fun same => different.1 ?_) fun same => different.2 ?_
  · rw [whole, List.head?_append, first]
    rfl
  · rw [same] at reads
    exact (Option.some.inj reads).symm
  · rw [same] at reads
    exact (Option.some.inj reads).symm

/-- A variable that holds no element may be read anywhere. -/
theorem evaluates_numbered (there : letters ++ toString number ∈ realm.fields) (sight : Sight) (loose : Bool) :
    realm.evaluates sight loose (.name (letters ++ toString number)) = true := by
  have tight := loose_numbered reserves first other different number
  refine Bool.and_eq_true_iff.mpr ⟨?_, by rw [tight]; simp⟩
  exact Bool.or_eq_true_iff.mpr (Or.inl (Bool.or_eq_true_iff.mpr (Or.inr (List.contains_iff_mem.mpr there))))

omit reserves other different in
theorem isFront_numbered (plain : '.' ∉ letters.toList) (number : Nat) :
    isFront (.name (letters ++ toString number)) = true := by
  refine Bool.and_eq_true_iff.mpr ⟨undotted_numbered plain number, bne_iff_ne.mpr fun same => ?_⟩
  have begins : (letters ++ toString number).toList.head? = some '$' := by
    rw [String.toList_append, List.head?_append, first]
    rfl
  rw [same] at begins
  exact absurd begins (by decide)

end

theorem evaluates_assignableValue {realm : Realm} {sight : Sight} {loose : Bool} (type : JavaType) {e : Expression}
    (inside : realm.evaluates sight loose e = true) : realm.evaluates sight loose (assignableValue type e) = true := by
  cases e with
  | arrayElements elements => exact Bool.and_eq_true_iff.mpr ⟨rfl, inside⟩
  | _ => exact inside

/-- What is declared where statements of a body stand has become a field. -/
def Covered (realm : Realm) (slots : List String) (sight : Sight) : Prop :=
  ∀ name, realm.assigns sight name = true → name ∈ slots

section

variable {realm : Realm} {slots : List String} {sight : Sight}

theorem Covered.reaches (covered : Covered realm slots sight) {sight' : Sight} (some_ : sight' ≠ []) :
    realm.Reaches (realm.coded slots) sight sight' where
  loose := rfl
  captured := List.Subset.refl _
  exceptions := List.Subset.refl _
  assigns assigned := Bool.or_eq_true_iff.mpr (Or.inr (List.contains_iff_mem.mpr (covered _ assigned)))
  nonempty := some_

theorem Covered.push (covered : Covered realm slots sight) : Covered realm slots ([] :: sight) := covered

theorem Covered.declare (covered : Covered realm slots sight) {name : String} (there : name ∈ slots) :
    Covered realm slots (sight.declare name) := by
  intro other assigned
  rcases Bool.or_eq_true_iff.mp assigned with declared | field
  · rcases Sight.has_declare declared with rfl | before
    · exact there
    · exact covered other (Bool.or_eq_true_iff.mpr (Or.inl before))
  · exact covered other (Bool.or_eq_true_iff.mpr (Or.inr field))

/-- Where a variable is a field it is assigned as it was declared. -/
theorem Covered.assigns {name : String} {e : Expression} (covered : Covered realm slots sight)
    (undotted : isUndotted name = true) (there : name ∈ slots)
    (inside : realm.evaluates sight (realm.loose name) e = true) {sight' : Sight} (some_ : sight' ≠ []) :
    (realm.coded slots).runs sight' (assignName name e) = true :=
  runs_assignName undotted there (evaluates_of_reaches (covered.reaches some_) e inside)

/-- A statement that is carried over. -/
theorem fills_carryOver {s : Statement} (inside : realm.runs sight s = true)
    (quiet : isDeclaration s = false → s.yields = false) :
    Fills (realm.coded slots) (Covered realm slots sight) (Covered realm slots (sight.after s))
      (carryOver s) := by
  have leaves {known : Prop} : Fills (realm.coded slots) known known (unless canComplete s do close) := by
    split
    · exact fills_pure _
    · exact fills_close
  by_cases declaration : isDeclaration s = true
  · obtain ⟨⟨modifiers, annotations, type, name, initial⟩, rfl⟩ : ∃ decl, s = .declare decl := by
      cases s <;> first | exact ⟨_, rfl⟩ | cases declaration
    obtain ⟨undotted, inside⟩ := Bool.and_eq_true_iff.mp inside
    refine .bind (fills_liftVariable name type) fun _ => Fills.gives ?_ fun holds => holds.1.declare holds.2
    cases initial with
    | none => exact leaves
    | some initial =>
      refine .bind (fills_emit fun holds sight' some_ => ?_) fun _ => leaves
      exact holds.1.assigns undotted holds.2 (evaluates_assignableValue type inside) some_
  have declares : isDeclaration s = false := by simpa using declaration
  have same : sight.after s = sight := by
    cases s <;> first | rfl | cases declares
  rw [same]
  by_cases nothing : s = .empty
  · subst nothing
    exact fills_pure _
  rw [carryOver_eq declares nothing]
  have kept (covered : Covered realm slots sight) (sight' : Sight) (some_ : sight' ≠ []) :
      (realm.coded slots).runs sight' s = true :=
    runs_of_reaches (covered.reaches some_) s inside (quiet declares)
  refine fills_get fun c => ?_
  have carries : Fills (realm.coded slots) (Covered realm slots sight ∧ c.Keeps (realm.coded slots))
      (Covered realm slots sight ∧ c.Keeps (realm.coded slots))
      (emit (if hasJumps s then .leaving s c.exits else .code s)) := by
    split
    · exact fills_emit fun holds => ⟨kept holds.1, holds.2.exits⟩
    · exact fills_emit fun holds => kept holds.1
  exact carries.forget.bind fun _ => leaves

private theorem fills_quiet {label : Option String} {s : Statement} (inside : realm.runs sight s = true)
    (quiet : s.yields = false) :
    Fills (realm.coded slots) (Covered realm slots sight) (Covered realm slots (sight.after s))
      (compile label s) := by
  rw [compile_quiet quiet]
  exact fills_carryOver inside fun _ => quiet

/-- A statement that yields may be looked at apart from one that does not. -/
private theorem fills_unless_quiet {label : Option String} {s : Statement} {steps : Compiling Unit}
    (inside : realm.runs sight s = true) (compiled : compile label s = if !s.yields then carryOver s else steps)
    (loud : Fills (realm.coded slots) (Covered realm slots sight) (Covered realm slots (sight.after s))
      steps) :
    Fills (realm.coded slots) (Covered realm slots sight) (Covered realm slots (sight.after s))
      (compile label s) := by
  cases yields : s.yields with
  | false => exact fills_quiet inside yields
  | true =>
    rw [compiled, if_neg (by simp [yields])]
    exact loud

private theorem fills_expression {label : Option String} {e : Expression}
    (inside : realm.runs sight (.expression e) = true) :
    Fills (realm.coded slots) (Covered realm slots sight) (Covered realm slots sight)
      (compile label (.expression e)) := by
  refine fills_unless_quiet inside compile_expression ?_
  cases yielded : (Statement.expression e).yielded? with
  | none =>
    refine fills_carryOver inside fun _ => ?_
    change realm.performs sight e = true at inside
    unfold Realm.performs at inside
    split at inside
    · have named := (Bool.and_eq_true_iff.mp (Bool.and_eq_true_iff.mp inside).1).2
      simp [Statement.yielded?, named] at yielded
    · exact quiet_of_evaluates _ inside
  | some arguments =>
    obtain ⟨value, rfl, inside⟩ : ∃ value, arguments = [value] ∧ realm.evaluates sight true value = true := by
      change realm.performs sight e = true at inside
      unfold Realm.performs at inside
      split at inside
      · next value =>
        have named := (Bool.and_eq_true_iff.mp (Bool.and_eq_true_iff.mp inside).1).2
        have same := Option.some.inj ((if_pos named).symm.trans yielded)
        exact ⟨value, same.symm, (Bool.and_eq_true_iff.mp inside).2⟩
      · next other =>
        cases e with
        | call receiver name types arguments =>
          cases receiver with
          | none => cases inside
          | some receiver => cases yielded
        | _ => cases yielded
    exact .bind fills_newState fun resume => .bind (fills_terminate fun covered sight' some_ =>
      evaluates_of_reaches (covered.reaches some_) value inside) fun _ => fills_startState resume

section

variable (reserves : Reserves realm) {number head exit : Nat} {item : LocalVariable} {iterable : Expression}
  (undotted : isUndotted item.name = true) (kept : realm.evaluates sight false iterable = true)

include reserves undotted kept

theorem fills_enterArrayLoop (type : JavaType) :
    Fills (realm.coded slots) (Covered realm slots sight ∧ item.name ∈ slots) (Covered realm slots sight)
      (enterArrayLoop number item iterable type head exit) := by
  have coded : Reserves (realm.coded slots) := reserves
  refine .bind (fills_liftVariable _ _) fun _ => .bind (fills_liftVariable _ _) fun _ => ?_
  have arrays (holds : (Covered realm slots sight ∧ item.name ∈ slots) ∧ "$array" ++ toString number ∈ slots) :
      ∀ sight loose, (realm.coded slots).evaluates sight loose (.name ("$array" ++ toString number)) = true :=
    evaluates_numbered coded rfl rfl (by decide) holds.2
  have places (there : "$index" ++ toString number ∈ slots) :
      ∀ sight loose, (realm.coded slots).evaluates sight loose (.name ("$index" ++ toString number)) = true :=
    evaluates_numbered coded rfl rfl (by decide) there
  refine .bind (fills_emit fun holds sight' some_ => ?_) fun _ => ?_
  · refine holds.1.1.1.assigns (undotted_numbered (by decide) _) holds.1.2 ?_ some_
    have tight : realm.loose ("$array" ++ toString number) = false := loose_numbered reserves rfl rfl (by decide) _
    rw [tight]
    exact kept
  refine .bind (fills_emit fun holds sight' some_ => ?_) fun _ => .bind (fills_enter head) fun _ => ?_
  · exact holds.1.1.1.assigns (undotted_numbered (by decide) _) holds.2 rfl some_
  refine .bind (fills_leaveUnless exit fun holds sight' some_ => ?_) fun _ => ?_
  · exact Bool.and_eq_true_iff.mpr ⟨places holds.2 _ _,
      Bool.and_eq_true_iff.mpr ⟨isFront_numbered rfl (by decide) _, arrays holds.1 _ _⟩⟩
  refine .bind (fills_emit fun holds sight' some_ => ?_) fun _ => ?_
  · exact runs_assignName undotted holds.1.1.2 (Bool.and_eq_true_iff.mpr ⟨arrays holds.1 _ _, places holds.2 _ _⟩)
  refine Fills.gives (fills_emit fun holds sight' some_ => ?_) fun holds => holds.1.1.1
  have assigns : (realm.coded slots).assigns sight' ("$index" ++ toString number) = true :=
    Bool.or_eq_true_iff.mpr (Or.inr (List.contains_iff_mem.mpr holds.2))
  change ((realm.coded slots).target? sight' (.name ("$index" ++ toString number))).isSome = true
  rw [Realm.target?, assigns, undotted_numbered (by decide)]
  rfl

theorem fills_enterIteratorLoop (front : isFront iterable = true) :
    Fills (realm.coded slots) (Covered realm slots sight ∧ item.name ∈ slots) (Covered realm slots sight)
      (enterIteratorLoop number item iterable head exit) := by
  have coded : Reserves (realm.coded slots) := reserves
  refine .bind (fills_liftVariable _ _) fun _ => ?_
  have asks (there : "$iterator" ++ toString number ∈ slots) {name : String} (told : (name != "hashCode") = true)
      (sight : Sight) (loose : Bool) :
      (realm.coded slots).evaluates sight loose (.callOn (.name ("$iterator" ++ toString number)) name []) = true :=
    Bool.and_eq_true_iff.mpr ⟨Bool.and_eq_true_iff.mpr ⟨Bool.and_eq_true_iff.mpr ⟨told,
      isFront_numbered rfl (by decide) _⟩, evaluates_numbered coded rfl rfl (by decide) there _ _⟩, rfl⟩
  refine .bind (fills_emit fun holds sight' some_ => ?_) fun _ => .bind (fills_enter head) fun _ => ?_
  · refine holds.1.1.assigns (undotted_numbered (by decide) _) holds.2 ?_ some_
    exact Bool.and_eq_true_iff.mpr ⟨Bool.and_eq_true_iff.mpr ⟨Bool.and_eq_true_iff.mpr ⟨by decide, front⟩, kept⟩, rfl⟩
  refine .bind (fills_leaveUnless exit fun holds sight' some_ => ?_) fun _ => ?_
  · exact asks holds.2 (by decide) _ _
  refine Fills.gives (fills_emit fun holds sight' some_ => ?_) fun holds => holds.1.1
  exact runs_assignName undotted holds.1.2 (asks holds.2 (by decide) _ _)

end

/-- What a loop does behind the look at its condition. -/
private theorem fills_repeats {label : Option String} {head exit : Nat} {next : Option Nat} {part : Compiling Unit}
    {before after : Prop} (fills : Fills realm before after part) : Fills realm before before (do
      withinFrame label exit next true part
      endLoop head exit) :=
  .bind (Fills.withinFrame fills).keep fun _ => fills_endLoop head exit

mutual

/-- A body that keeps to its realm becomes code that does. -/
theorem fills_compile (loud : realm.yields = true) (reserves : Reserves realm) {sight : Sight}
    (label : Option String) : (s : Statement) → realm.runs sight s = true →
    Fills (realm.coded slots) (Covered realm slots sight) (Covered realm slots (sight.after s))
      (compile label s)
  | .block body, inside => by
    refine fills_unless_quiet inside rfl ?_
    exact (fills_compileAll loud reserves body inside).keep
  | .expression e, inside => fills_expression inside
  | .declare decl, inside => by
    rw [show compile label (.declare decl) = carryOver (.declare decl) from ite_self _]
    exact fills_carryOver inside nofun
  | .ifElse condition whenTrue none, inside => by
    refine fills_unless_quiet inside rfl ?_
    obtain ⟨both, _⟩ := Bool.and_eq_true_iff.mp inside
    obtain ⟨test, front⟩ := Bool.and_eq_true_iff.mp both
    refine .bind fills_newState fun exit => .bind (fills_leaveUnless exit fun covered sight' some_ => ?_) fun _ => ?_
    · exact evaluates_of_reaches (covered.reaches some_) condition test
    · exact .bind (fills_compile loud reserves none whenTrue front).keep fun _ => fills_enter exit
  | .ifElse condition whenTrue (some whenFalse), inside => by
    refine fills_unless_quiet inside rfl ?_
    obtain ⟨both, back⟩ := Bool.and_eq_true_iff.mp inside
    obtain ⟨test, front⟩ := Bool.and_eq_true_iff.mp both
    refine .bind fills_newState fun exit => .bind fills_newState fun otherwise => ?_
    refine .bind (fills_leaveUnless otherwise fun covered sight' some_ => ?_) fun _ => ?_
    · exact evaluates_of_reaches (covered.reaches some_) condition test
    · refine .bind (fills_compile loud reserves none whenTrue front).keep fun _ => .bind (fills_jumpTo exit) fun _ => ?_
      refine .bind (fills_enter otherwise) fun _ => ?_
      exact .bind (fills_compile loud reserves none whenFalse back).keep fun _ => fills_enter exit
  | .labeled name body, inside => by
    refine fills_unless_quiet inside rfl ?_
    split
    · exact (fills_compile loud reserves (some name) body inside).keep
    · refine .bind fills_newState fun exit => ?_
      exact .bind (Fills.withinFrame (fills_compile loud reserves none body inside)).keep fun _ => fills_enter exit
  | .whileLoop condition body, inside => by
    refine fills_unless_quiet inside rfl ?_
    obtain ⟨test, within⟩ := Bool.and_eq_true_iff.mp inside
    refine .bind fills_newState fun head => .bind fills_newState fun exit => .bind (fills_enter head) fun _ => ?_
    refine .bind (fills_exitUnless exit fun covered sight' some_ => ?_) fun _ => ?_
    · exact evaluates_of_reaches (covered.push.reaches some_) condition test
    · have once := fills_compile loud reserves none body within
      exact fills_repeats once.keep
  | .doWhile body condition, inside => by
    refine fills_unless_quiet inside rfl ?_
    obtain ⟨test, within⟩ := Bool.and_eq_true_iff.mp inside
    refine .bind fills_newState fun head => .bind fills_newState fun again => .bind fills_newState fun exit => ?_
    refine .bind (fills_enter head) fun _ => ?_
    refine .bind (Fills.withinFrame (fills_compile loud reserves none body within)).keep fun _ => ?_
    refine .bind (fills_enter again) fun _ => .bind (fills_emit fun covered => ⟨fun sight' some_ => ?_, ?_⟩) fun _ =>
      fills_enter exit
    · exact evaluates_of_reaches (covered.reaches some_) condition test
    · exact ⟨keeps_direct _, trivial⟩
  | .forLoop start condition update body, inside => by
    refine fills_unless_quiet inside rfl ?_
    obtain ⟨inside, within⟩ := Bool.and_eq_true_iff.mp inside
    obtain ⟨inside, updates⟩ := Bool.and_eq_true_iff.mp inside
    obtain ⟨begins, test⟩ := Bool.and_eq_true_iff.mp inside
    have starts : Fills (realm.coded slots) (Covered realm slots sight)
        (Covered realm slots (Sight.afterAll ([] :: sight) start)) (compileAll start) :=
      fills_compileAll loud reserves start begins
    refine starts.among fun _ => ?_
    refine .bind fills_newState fun head => .bind fills_newState fun step => .bind fills_newState fun exit => ?_
    refine .bind (fills_enter head) fun _ => ?_
    have rounds : Fills (realm.coded slots) (Covered realm slots (Sight.afterAll ([] :: sight) start))
        (Covered realm slots (Sight.afterAll ([] :: sight) start)) (do
          withinFrame label exit (some step) true (compile none body)
          enter step
          for e in update do emit (.code (.expression e))
          endLoop head exit) := by
      refine .bind (Fills.withinFrame (fills_compile loud reserves none body within)).keep fun _ => ?_
      refine .bind (fills_enter step) fun _ => .bind (fills_evaluations fun covered e member sight' some_ => ?_)
        fun _ => fills_endLoop head exit
      exact evaluates_of_reaches (covered.reaches some_) e (List.all_eq_true.mp updates e member)
    cases condition with
    | none => exact rounds
    | some condition =>
      refine .bind (fills_exitUnless exit fun covered sight' some_ => ?_) fun _ => rounds
      exact evaluates_of_reaches (covered.reaches some_) condition test
  | .switch selector cases, inside => by
    refine fills_unless_quiet inside rfl ?_
    obtain ⟨inside, groups⟩ := Bool.and_eq_true_iff.mp inside
    obtain ⟨selects, labels⟩ := Bool.and_eq_true_iff.mp inside
    refine .bind fills_newState fun exit => .bind (fills_newStates cases) fun entries => ?_
    refine .bind (fills_terminate fun covered sight' some_ => ⟨?_, fun arm among => ?_⟩) fun _ => ?_
    · exact evaluates_of_reaches (covered.reaches some_) selector selects
    · rcases mem_arms among with ⟨group, member, _, _, rfl⟩ | rfl
      · have label := List.all_eq_true.mp labels group member
        cases given : group.label with
        | none => rfl
        | some e =>
          rw [given] at label
          exact evaluates_of_reaches (covered.reaches some_) e label
      · rfl
    · have within := fills_compileCases loud reserves entries cases groups
      exact .bind (Fills.withinFrame within).keep fun _ => fills_enter exit
  | .tryCatch body catches none, inside => by
    refine fills_unless_quiet inside rfl ?_
    obtain ⟨both, _⟩ := Bool.and_eq_true_iff.mp inside
    obtain ⟨front, back⟩ := Bool.and_eq_true_iff.mp both
    refine .bind fills_newState fun exit => fills_get fun c => Fills.known (.bind fills_region fun _ => ?_)
    refine fills_get fun c' => Fills.known ?_
    have within := fills_compileAll loud reserves body front
    refine Fills.first (Fills.guarded (fun _ => fills_pure _) within).keep fun _ => ?_
    exact .bind (fills_compileCatches loud reserves catches back) fun _ => fills_enter exit
  | .tryCatch body catches (some finalizer), inside => by
    refine fills_unless_quiet inside rfl ?_
    obtain ⟨both, last⟩ := Bool.and_eq_true_iff.mp inside
    obtain ⟨front, back⟩ := Bool.and_eq_true_iff.mp both
    refine .bind fills_newState fun exit => fills_get fun c => Fills.known (.bind fills_region fun _ => ?_)
    refine fills_get fun c' => Fills.known (.bind (Fills.withinPart fills_newState) fun entry => ?_)
    refine fills_pushFinalizer (.bind (fills_updateRegion (fun _ _ _ => Or.inl) fun holds _ _ => Or.inr holds.2.2)
      fun _ => Fills.gives ?_ And.left)
    refine .bind (Fills.guarded (fun _ => fills_pure _) (fills_compileAll loud reserves body front)).aside fun _ => ?_
    refine .bind (fills_compileCatches loud reserves catches back).aside fun _ => ?_
    refine .bind (fills_popFinalizer _) fun _ => ?_
    refine .bind (Fills.withinPart (.bind (fills_enter entry) fun _ => ?_)) fun _ => fills_enter exit
    refine .bind (fills_compileAll loud reserves finalizer last).aside fun _ => fills_get fun c'' => Fills.known ?_
    split
    · exact fills_pure _
    · exact fills_terminate fun holds => holds.2
  | .synchronized lock body, inside => by
    rw [show compile label (.synchronized lock body) = carryOver (.synchronized lock body) from ite_self _]
    refine fills_carryOver inside fun _ => ?_
    obtain ⟨inside, _⟩ := Bool.and_eq_true_iff.mp inside
    obtain ⟨locks, quiet⟩ := Bool.and_eq_true_iff.mp inside
    rw [loud] at quiet
    exact Bool.or_eq_false_iff.mpr ⟨quiet_of_evaluates lock locks, by simpa using quiet⟩
  | .returns none, inside => fills_quiet inside rfl
  | .returns (some value), inside => fills_quiet inside (quiet_of_evaluates value inside)
  | .throws value, inside => fills_quiet inside (quiet_of_evaluates value inside)
  | .returnsDefault, inside | .breaks _, inside | .continues _, inside | .empty, inside => fills_quiet inside rfl
  | .forEach ⟨modifiers, annotations, type, name, initial⟩ iterable body, inside => by
    refine fills_unless_quiet inside rfl ?_
    obtain ⟨both, within⟩ := Bool.and_eq_true_iff.mp inside
    obtain ⟨undotted, walked⟩ := Bool.and_eq_true_iff.mp both
    obtain ⟨front, kept⟩ := Bool.and_eq_true_iff.mp walked
    refine .bind (fills_modify (fun _ _ declared => declared) fun _ _ _ keeps => { keeps with }) fun _ => ?_
    refine fills_get fun c => Fills.known (.bind fills_newState fun head => .bind fills_newState fun exit => ?_)
    have rounds {first : Compiling Unit} (fills : Fills (realm.coded slots)
        (Covered realm slots ([] :: sight) ∧ name ∈ slots) (Covered realm slots ([] :: sight)) first) :
        Fills (realm.coded slots) (Covered realm slots sight) (Covered realm slots sight) (do
          first
          liftVariable name type
          withinFrame label exit (some head) true (compile none body)
          endLoop head exit) := by
      have once := (fills_compile loud reserves none body within).keep
      exact .ahead fills.keep ((fills_repeats once).imp (fun holds => holds.1.declare holds.2) fun holds _ => holds.1)
    refine .bind (fills_arrayType? iterable) fun known => ?_
    cases known with
    | some array => exact rounds (fills_enterArrayLoop reserves undotted kept array)
    | none => exact rounds (fills_enterIteratorLoop reserves undotted kept front)
  | .localType _, inside | .verbatim _, inside => by cases inside

theorem fills_compileAll (loud : realm.yields = true) (reserves : Reserves realm) {sight : Sight} :
    (body : List Statement) → realm.runsAll sight body = true →
    Fills (realm.coded slots) (Covered realm slots sight) (Covered realm slots (sight.afterAll body))
      (compileAll body)
  | [], _ => fills_pure _
  | s :: rest, inside =>
    have both := Bool.and_eq_true_iff.mp inside
    .bind (fills_compile loud reserves none s both.1) fun _ => fills_compileAll loud reserves rest both.2

theorem fills_compileCases (loud : realm.yields = true) (reserves : Reserves realm) {sight : Sight}
    (entries : List Nat) : (cases : List SwitchCase) → realm.runsCases sight cases = true →
    Fills (realm.coded slots) (Covered realm slots sight) (Covered realm slots sight)
      (compileCases entries cases)
  | [], _ => fills_pure _
  | ⟨_, body⟩ :: rest, inside => by
    have both := Bool.and_eq_true_iff.mp inside
    have onward : Fills (realm.coded slots) (Covered realm slots sight) (Covered realm slots sight) (do
        compileAll body
        compileCases entries.tail rest) :=
      .bind (fills_compileAll loud reserves body both.1).keep fun _ =>
        fills_compileCases loud reserves entries.tail rest both.2
    cases entries with
    | nil => exact onward
    | cons entry others => exact .bind (fills_enter entry) fun _ => onward

theorem fills_compileCatches (loud : realm.yields = true) (reserves : Reserves realm) {sight : Sight}
    {index exit depth : Nat} : (catches : List CatchClause) → realm.runsCatches sight catches = true →
    Fills (realm.coded slots) (Covered realm slots sight) (Covered realm slots sight)
      (compileCatches index exit depth catches)
  | [], _ => fills_pure _
  | ⟨⟨modifiers, annotations, type, name⟩, body⟩ :: rest, inside => by
    obtain ⟨both, others⟩ := Bool.and_eq_true_iff.mp inside
    obtain ⟨undotted, within⟩ := Bool.and_eq_true_iff.mp both
    refine .bind (fills_liftVariable name type) fun _ => Fills.first (Fills.guarded (fun entry => ?_) ?_) fun _ =>
      (fills_compileCatches loud reserves rest others).known
    · exact fills_addCatch fun holds => ⟨undotted, holds.2⟩
    · have once := fills_compileAll loud reserves body within
      exact (once.imp (fun holds => holds.1.push.declare holds.2) fun _ _ => trivial).keep

end

theorem allKeep_of_forall {realm : Realm} {ops : List Op} (keeps : ∀ op ∈ ops, op.Keeps realm) :
    Op.AllKeep realm ops := by
  induction ops with
  | nil => trivial
  | cons op rest ih =>
    exact ⟨keeps op List.mem_cons_self, ih fun other member => keeps other (List.mem_cons_of_mem _ member)⟩

/-- A machine all of whose operations and regions keep to a realm. -/
structure Machine.Keeps (realm : Realm) (machine : Machine) : Prop where
  ops : ∀ id, Op.AllKeep realm (machine.state id).ops
  catches : ∀ index, ∀ entry ∈ (machine.region index).catches,
    isUndotted entry.parameter = true ∧ entry.parameter ∈ realm.fields
  finalizers : ∀ index, (machine.region index).finalizer.isSome = true → pendingName index ∈ realm.fields

theorem Compilation.Keeps.machine {c : Compilation} {realm : Realm} (keeps : c.Keeps realm) :
    c.machine.Keeps realm where
  ops id := by
    change Op.AllKeep realm (c.states[id]?.getD {}).ops
    cases found : c.states[id]? with
    | none => trivial
    | some state => exact allKeep_of_forall (keeps.ops state (List.mem_of_getElem? found))
  catches index entry member := by
    change entry ∈ (c.regions[index]?.getD {}).catches at member
    cases found : c.regions[index]? with
    | none => simp [found] at member
    | some region =>
      rw [found] at member
      exact keeps.catches region (List.mem_of_getElem? found) entry member
  finalizers index given := by
    change (c.regions[index]?.getD {}).finalizer.isSome = true at given
    cases found : c.regions[index]? with
    | none => simp [found] at given
    | some region =>
      rw [found] at given
      exact keeps.finalizers found given

/-- The machine of a body that keeps to its realm keeps to that of its code, where its variables are fields. -/
theorem compileBody_keeps (surroundings : Surroundings) {body : List Statement} (loud : realm.yields = true)
    (reserves : Reserves realm)
    (inside : realm.runsAll sight body = true) (covered : Covered realm slots sight)
    (fields : ∀ name, ((compileBody surroundings body).lifted.lookup name).isSome → name ∈ slots) :
    (compileBody surroundings body).Keeps (realm.coded slots) := by
  obtain ⟨⟨_, last⟩, run⟩ : ∃ ending : Unit × Compilation,
      (do compileAll body; jumpBy (.direct .done) : Compiling Unit) surroundings {} = ending := ⟨_, rfl⟩
  have fills : Fills (realm.coded slots) (Covered realm slots sight)
      (Covered realm slots (sight.afterAll body)) (do compileAll body; jumpBy (.direct .done)) :=
    .bind (fills_compileAll loud reserves body inside) fun _ => fills_jumpBy fun _ => keeps_direct _
  have start : Compilation.Keeps (realm.coded slots) {} :=
    { ops := fun state member => by
        obtain rfl := List.mem_singleton.mp member
        nofun
      catches := nofun
      finalizers := nofun
      around := nofun }
  have made : compileBody surroundings body = last.machine :=
    congrArg (fun ending : Unit × Compilation => ending.2.machine) run
  rw [made] at fields ⊢
  exact ((fills run).2 fields covered start).2.machine

end

end JavaWeave.Generator
