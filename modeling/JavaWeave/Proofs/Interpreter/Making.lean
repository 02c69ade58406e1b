import JavaWeave.Interpreter.Session
import JavaWeave.Proofs.Interpreter.Loading
import JavaWeave.Proofs.Interpreter.Self

namespace JavaWeave.Interpreter

open Syntax

/-- The last of the values that a name is given. -/
def lastGiven (entries : List (String × Value)) (name : String) : Option Value := entries.reverse.lookup name

theorem lastGiven_append (first second : List (String × Value)) (name : String) :
    lastGiven (first ++ second) name = (lastGiven second name).or (lastGiven first name) := by
  simp [lastGiven, List.lookup_append]

@[simp] theorem lastGiven_single (entry : String × Value) (name : String) :
    lastGiven [entry] name = if name = entry.1 then some entry.2 else none := by
  obtain ⟨key, value⟩ := entry
  exact Bindings.lookup_entry name key value []

theorem lastGiven_eq_none {entries : List (String × Value)} {name : String} (fresh : ∀ entry ∈ entries, entry.1 ≠ name) :
    lastGiven entries name = none := by
  rw [lastGiven, List.lookup_eq_none_iff]
  intro entry listed
  simpa using (fresh entry (List.mem_reverse.mp listed)).symm

namespace World

variable {world : World} {address other : Address} {entries : List (String × Value)}

/-- The world in which fields of an object hold values, given one after the other. -/
def putFields (world : World) (address : Address) (entries : List (String × Value)) : World :=
  entries.foldl (fun world entry => world.putField address entry.1 entry.2) world

@[simp] theorem putFields_nil : world.putFields address [] = world := rfl

theorem putFields_cons (entry : String × Value) :
    world.putFields address (entry :: entries) = (world.putField address entry.1 entry.2).putFields address entries :=
  rfl

@[simp] theorem classes_putFields : (world.putFields address entries).classes = world.classes := by
  induction entries generalizing world with
  | nil => rfl
  | cons entry rest inductionHypothesis => rw [putFields_cons, inductionHypothesis, classes_putField]

@[simp] theorem depth_putFields : (world.putFields address entries).depth = world.depth := by
  induction entries generalizing world with
  | nil => rfl
  | cons entry rest inductionHypothesis => rw [putFields_cons, inductionHypothesis, depth_putField]

/-- What each of the assignments keeps holds after all of them. -/
theorem putFields_induction {inv : World → Prop}
    (kept : ∀ entry ∈ entries, ∀ world, inv world → inv (world.putField address entry.1 entry.2)) (holds : inv world) :
    inv (world.putFields address entries) := by
  induction entries generalizing world with
  | nil => exact holds
  | cons entry rest inductionHypothesis =>
    obtain ⟨own, others⟩ := List.forall_mem_cons.mp kept
    exact inductionHypothesis others (own world holds)

/-- Other objects stay as they are. -/
theorem instance?_putFields_other (apart : other ≠ address) :
    (world.putFields address entries).instance? other = world.instance? other := by
  induction entries generalizing world with
  | nil => rfl
  | cons entry rest inductionHypothesis =>
    rw [putFields_cons, inductionHypothesis, instance?_putField, if_neg apart]

theorem field?_putFields_other (apart : other ≠ address) (name : String) :
    (world.putFields address entries).field? other name = world.field? other name := by
  rw [field?, instance?_putFields_other apart, field?]

/-- The object itself changes in its fields only. -/
theorem instance?_putFields {state : Instance} (there : world.instance? address = some state) :
    ∃ fields, (world.putFields address entries).instance? address = some { state with fields } := by
  induction entries generalizing world state with
  | nil => exact ⟨state.fields, there⟩
  | cons entry rest inductionHypothesis =>
    have next : (world.putField address entry.1 entry.2).instance? address =
        some { state with fields := state.fields.put entry.1 entry.2 } := by
      rw [instance?_putField, if_pos rfl, there]
      rfl
    obtain ⟨fields, same⟩ := inductionHypothesis next
    exact ⟨fields, same⟩

/-- A field holds what it was given last. -/
theorem field?_putFields {state : Instance} (there : world.instance? address = some state) (name : String) :
    (world.putFields address entries).field? address name = (lastGiven entries name).or (world.field? address name) := by
  induction entries generalizing world state with
  | nil => rfl
  | cons entry rest inductionHypothesis =>
    have next : (world.putField address entry.1 entry.2).instance? address =
        some { state with fields := state.fields.put entry.1 entry.2 } := by
      rw [instance?_putField, if_pos rfl, there]
      rfl
    rw [putFields_cons, inductionHypothesis next, field?_putField, there, ← List.singleton_append,
      lastGiven_append, lastGiven_single]
    by_cases same : name = entry.1
    · simp [same]
    · simp [same]

end World

section Fields

variable {perform : Performer} {frame : Frame} {world : World}

/-- What fields are given by their initializers. -/
def initials (fields : List Field) (value : Field → Value) : List (String × Value) :=
  fields.filterMap fun field => field.initial.map fun _ => (field.name, coerce field.type (value field))

/-- Nothing but fields is given a value. -/
theorem exists_of_mem_initials {fields : List Field} {value : Field → Value} {entry : String × Value}
    (listed : entry ∈ initials fields value) : ∃ field ∈ fields, field.name = entry.1 := by
  obtain ⟨field, member, given⟩ := List.mem_filterMap.mp listed
  obtain ⟨e, -, rfl⟩ := Option.map_eq_some_iff.mp given
  exact ⟨field, member, rfl⟩

theorem lastGiven_initials {fields : List Field} {value : Field → Value} (distinct : (fields.map (·.name)).Nodup)
    {field : Field} (member : field ∈ fields) :
    lastGiven (initials fields value) field.name = field.initial.map fun _ => coerce field.type (value field) := by
  have others {rest : List Field} {name : String} (fresh : ∀ other ∈ rest, other.name ≠ name) :
      lastGiven (initials rest value) name = none := by
    refine lastGiven_eq_none fun entry listed => ?_
    obtain ⟨other, member, same⟩ := exists_of_mem_initials listed
    exact same ▸ fresh other member
  have joined (first : Field) (rest : List Field) : initials (first :: rest) value =
      initials [first] value ++ initials rest value := by
    rw [initials, initials, initials, ← List.filterMap_append]
    rfl
  have single (first : Field) : lastGiven (initials [first] value) first.name =
      first.initial.map fun _ => coerce first.type (value first) := by
    rw [initials, List.filterMap_cons, List.filterMap_nil]
    cases first.initial with
    | none => rfl
    | some e => exact (lastGiven_single _ _).trans (if_pos rfl)
  induction fields with
  | nil => cases member
  | cons first rest inductionHypothesis =>
    obtain ⟨own, distinct⟩ := List.nodup_cons.mp distinct
    rw [joined, lastGiven_append]
    rcases List.mem_cons.mp member with rfl | later
    · rw [others fun other member same => own (List.mem_map.mpr ⟨other, member, same⟩), single]
      rfl
    · have apart : first.name ≠ field.name := fun same => own (List.mem_map.mpr ⟨field, later, same.symm⟩)
      rw [inductionHypothesis distinct later, others (by simpa using apart), Option.or_none]

/-- The initializers of an object are evaluated one after the other. None of them changes what the others give. -/
theorem outcome_evalFields_setField {fields : List Field} {value : Field → Value} {self : Address}
    {inv : World → Prop}
    (kept : ∀ field ∈ fields, ∀ world value, inv world → inv (world.putField self field.name value))
    (evaluated : ∀ field ∈ fields, ∀ e, field.initial = some e → ∀ world, inv world →
      outcome (eval perform e) (frame, world) = (.ok (value field), (frame, world)))
    (holds : inv world) :
    outcome (evalFields perform fields (setField self)) (frame, world) =
      (.ok (), (frame, world.putFields self (initials fields value))) := by
  unfold evalFields
  induction fields generalizing world with
  | nil => rfl
  | cons field rest inductionHypothesis =>
    have others := fun field' member => evaluated field' (List.mem_cons_of_mem _ member)
    have own := evaluated field List.mem_cons_self
    have kept' := fun field' member => kept field' (List.mem_cons_of_mem _ member)
    rw [List.forM.eq_2, outcome_bind, initials, List.filterMap_cons]
    cases initial : field.initial with
    | none =>
      simp only [outcome_pure, proceed_ok]
      exact inductionHypothesis kept' others holds
    | some e =>
      simp only [outcome_bind, own e initial world holds, proceed_ok, outcome_liftM, setField_eq]
      exact inductionHypothesis kept' others (kept field List.mem_cons_self _ _ holds)

end Fields

/-- The same program with classes that have come further. -/
def World.withClasses (world : World) (classes : ClassTable) : World := { world with classes }

section Preparing

variable {world : World} {id : ClassId} {fuel : Nat}

theorem run_setStatic (id : ClassId) (name : String) (value : Value) (world : World) :
    ∃ classes, setStatic id name value world = (.ok (), world.withClasses classes) ∧
      ClassTable.Advanced id world.classes classes :=
  ⟨_, rfl, ClassTable.advanced_modifyState ..⟩

theorem run_setStage (id : ClassId) (stage : Stage) (world : World) :
    setStage id stage world =
      (.ok (), world.withClasses (world.classes.modifyState id fun state => { state with stage })) := rfl

/-- Steps that bring classes further and do nothing else. -/
def Furthers (id : ClassId) (action : Run Unit) : Prop :=
  ∀ world, ∃ classes, action world = (.ok (), world.withClasses classes) ∧ ClassTable.Advanced id world.classes classes

theorem Furthers.pure : Furthers id (pure ()) := fun world => ⟨world.classes, rfl, .refl id _⟩

theorem Furthers.bind {first : Run Unit} {next : Run Unit} (furthers : Furthers id first) (furthers' : Furthers id next) :
    Furthers id (do first; next) := by
  intro world
  obtain ⟨classes, same, alike⟩ := furthers world
  obtain ⟨classes', same', alike'⟩ := furthers' (world.withClasses classes)
  refine ⟨classes', ?_, alike.trans alike'⟩
  rw [run_bind, same]
  exact same'

theorem Furthers.forM {items : List α} {action : α → Run Unit} (each : ∀ item ∈ items, Furthers id (action item)) :
    Furthers id (items.forM action) := by
  induction items with
  | nil => exact .pure
  | cons item rest inductionHypothesis =>
    exact .bind (each item List.mem_cons_self) (inductionHypothesis fun other member =>
      each other (List.mem_cons_of_mem _ member))

theorem furthers_setStatic (name : String) (value : Value) : Furthers id (setStatic id name value) :=
  fun world => run_setStatic id name value world

/-- A class that has nothing static but fields with literals for initial values. -/
structure LiteralClass (decl : TypeDecl) : Prop where
  constants : decl.constants = []
  initializers : decl.initializers = []
  literal : ∀ field ∈ staticFields decl, ∀ e, field.initial = some e → ∃ value, e = .literal value

theorem outcome_evalFields_setStatic {perform : Performer} {fields : List Field} (frame : Frame)
    (literal : ∀ field ∈ fields, ∀ e, field.initial = some e → ∃ value, e = .literal value) (world : World) :
    ∃ classes, outcome (evalFields perform fields (setStatic id)) (frame, world) =
      (.ok (), (frame, world.withClasses classes)) ∧ ClassTable.Advanced id world.classes classes := by
  unfold evalFields
  induction fields generalizing world with
  | nil => exact ⟨world.classes, rfl, .refl id _⟩
  | cons field rest inductionHypothesis =>
    obtain ⟨own, others⟩ := List.forall_mem_cons.mp literal
    rw [List.forM.eq_2, outcome_bind]
    cases initial : field.initial with
    | none =>
      simp only [outcome_pure, proceed_ok]
      exact inductionHypothesis others world
    | some e =>
      obtain ⟨value, rfl⟩ := own e initial
      obtain ⟨classes, same, alike⟩ := run_setStatic id field.name (coerce field.type (.ofLiteral value)) world
      obtain ⟨classes', same', alike'⟩ := inductionHypothesis others (world.withClasses classes)
      refine ⟨classes', ?_, alike.trans alike'⟩
      simp only [outcome_bind, outcome_evalLiteral, proceed_ok, outcome_liftM, same]
      exact same'

/-- A class is initialized, if it was not before. -/
theorem prepare_literal {decl : TypeDecl} {nesting : Nesting} {enclosing : List ClassId}
    (stands : ClassTable.Stands world.classes id decl nesting enclosing) (literal : LiteralClass decl) :
    ∃ classes, performer (fuel + 1) (.prepare id) world = (.ok (), world.withClasses classes) ∧
      ClassTable.Advanced id world.classes classes ∧ (classes.get id).state.stage ≠ .pending := by
  change ∃ classes, prepare (performer fuel) fuel id world = _ ∧ _
  simp only [prepare, run_bind, run_classInfo]
  by_cases begun : (world.classes.get id).state.stage = .pending
  · have first : ((world.classes.get id).state.stage != .pending) = false := by simp [begun]
    simp only [first, Bool.false_eq_true, if_false, stands.superclass, stands.decl, literal.constants,
      literal.initializers]
    obtain ⟨running, isRunning⟩ : ∃ running, running =
        world.classes.modifyState id fun state => { state with stage := .running } := ⟨_, rfl⟩
    have begins : ClassTable.Advanced id world.classes running := isRunning ▸ ClassTable.advanced_modifyState ..
    have zeros : Furthers id ((staticFields decl).forM fun field => setStatic id field.name (.zero field.type)) :=
      .forM fun field _ => furthers_setStatic field.name (.zero field.type)
    obtain ⟨classes, cleared, alike⟩ := zeros (world.withClasses running)
    obtain ⟨classes', evaluated, alike'⟩ := outcome_evalFields_setStatic
      { type := id } literal.literal (world.withClasses classes)
    have block : Code.within { type := id } (do
        makeConstants (performer fuel) id []
        evalFields (performer fuel) (staticFields decl) (setStatic id)
        runInitializers (performer fuel) fuel []) (world.withClasses classes) =
          (.ok (), world.withClasses classes') := by
      have none : outcome (makeConstants (performer fuel) id []) ({ type := id }, world.withClasses classes) =
        (.ok (), ({ type := id }, world.withClasses classes)) := rfl
      rw [within_eq, outcome_bind, none, proceed_ok, outcome_bind, evaluated]
      rfl
    have reached := (begins.trans alike).trans alike'
    have there : id.index < classes'.infos.size := reached.size ▸ stands.there
    refine ⟨classes'.modifyState id fun state => { state with stage := .done }, ?_,
      reached.trans (ClassTable.advanced_modifyState ..), ?_⟩
    · rw [run_bind, run_setStage, ← isRunning]
      change ((do
        (staticFields decl).forM fun field => setStatic id field.name (.zero field.type)
        Code.within { type := id } do
          makeConstants (performer fuel) id []
          evalFields (performer fuel) (staticFields decl) (setStatic id)
          runInitializers (performer fuel) fuel []
        setStage id .done) : Run Unit) (world.withClasses running) = _
      rw [run_bind, cleared]
      change ((do
        Code.within { type := id } do
          makeConstants (performer fuel) id []
          evalFields (performer fuel) (staticFields decl) (setStatic id)
          runInitializers (performer fuel) fuel []
        setStage id .done) : Run Unit) (world.withClasses classes) = _
      rw [run_bind, block]
      rfl
    · rw [ClassTable.modifyState, ClassTable.get_modify _ there, if_pos rfl]
      exact (by decide : Stage.done ≠ .pending)
  · have other : ((world.classes.get id).state.stage != .pending) = true := by simpa using begun
    simp only [other, if_true]
    exact ⟨world.classes, rfl, .refl id _, begun⟩

/-- A class that was begun is not begun again. -/
theorem prepare_again (perform : Performer) (fuel : Nat) (begun : (world.classes.get id).state.stage ≠ .pending) :
    prepare perform fuel id world = (.ok (), world) := by
  have other : ((world.classes.get id).state.stage != .pending) = true := by simpa using begun
  simp only [prepare, run_bind, run_classInfo, other, if_true]
  rfl

theorem prepare_begun (begun : (world.classes.get id).state.stage ≠ .pending) :
    performer (fuel + 1) (.prepare id) world = (.ok (), world) := prepare_again (performer fuel) fuel begun

end Preparing

/-- What a variable is set back to is a literal. It stands for what the variable holds before it is assigned. -/
theorem literal_zero (type : JavaType) :
    ∃ literal, type.zero = .literal literal ∧ Value.ofLiteral literal = .zero type := by
  obtain ⟨name, arguments, dimensions, wildcard⟩ := type
  cases dimensions with
  | succ => exact ⟨.null, rfl, rfl⟩
  | zero =>
    by_cases primitive : name ∈ JavaType.primitives
    · simp only [JavaType.primitives, List.mem_cons, List.not_mem_nil, or_false] at primitive
      rcases primitive with rfl | rfl | rfl | rfl | rfl | rfl | rfl | rfl <;> exact ⟨_, rfl, rfl⟩
    · refine ⟨.null, ?_, ?_⟩
      · simp only [JavaType.zero, JavaType.isPrimitive, List.contains_eq_mem, primitive, decide_false, Bool.and_false,
          Bool.false_eq_true, if_false]
        rfl
      · simp only [JavaType.primitives, List.mem_cons, List.not_mem_nil, or_false, not_or] at primitive
        simp [Value.ofLiteral, Value.zero, primitive]

/-- Whether a value is of the kind of a type: a number, a truth value or a text. -/
def OfKind (type : JavaType) : Value → Prop
  | .int _ => type = .named "int"
  | .long _ => type = .named "long"
  | .bool _ => type = .named "boolean"
  | .str _ | .null => type = .string
  | .double _ | .char _ | .ref _ => False

namespace OfKind

variable {type : JavaType} {value held : Value}

theorem cases_type (ofKind : OfKind type value) :
    type ∈ [JavaType.named "int", .named "long", .named "boolean", .string] := by
  cases value <;> simp_all [OfKind]

/-- A variable that was not assigned holds such a value. -/
theorem zero (ofKind : OfKind type value) : OfKind type (.zero type) := by
  have each : ∀ type ∈ [JavaType.named "int", .named "long", .named "boolean", .string], OfKind type (.zero type) := by
    simp only [List.forall_mem_cons]
    exact ⟨rfl, rfl, rfl, rfl, nofun⟩
  exact each type ofKind.cases_type

/-- A variable of the type holds such a value as it is. -/
theorem coerce (ofKind : OfKind type value) : coerce type value = value := by
  cases value with
  | int value =>
    obtain rfl : type = _ := ofKind
    have converted : Interpreter.coerce (.named "int") (.int value) = .int value.toInt64.toInt32 := rfl
    rw [converted, Int32.toInt32_toInt64]
  | long | bool | str | null =>
    obtain rfl : type = _ := ofKind
    rfl
  | double | char | ref => exact ofKind.elim

/-- So does one that holds another value of the kind. -/
theorem conform (ofKind : OfKind type value) (other : OfKind type held) : conform false held value = value := by
  cases value <;> cases held <;>
    first
    | rfl
    | exact ofKind.elim
    | exact other.elim
    | exact absurd (Eq.trans (Eq.symm ofKind) other) (by decide)

end OfKind

section Making

variable {fuel : Nat} {id : ClassId} {decl : TypeDecl} {nesting : Nesting} {enclosing : List ClassId} {world : World}

/-- What fields hold before they are given a value. -/
def zeros (fields : List Field) : Bindings Value := fields.map fun field => (field.name, .zero field.type)

theorem initialFields_eq {table : ClassTable} (stands : table.Stands id decl nesting enclosing)
    (distinct : ((instanceFields decl).map (·.name)).Nodup) : initialFields table id = zeros (instanceFields decl) := by
  have each (fields : List Field) (known : Bindings Value) (distinct : (fields.map (·.name)).Nodup)
      (fresh : ∀ field ∈ fields, known.has field.name = false) :
      fields.foldl (fun known field =>
        if known.has field.name then known else known ++ [(field.name, .zero field.type)]) known =
          known ++ zeros fields := by
    induction fields generalizing known with
    | nil => simp [zeros]
    | cons field rest inductionHypothesis =>
      obtain ⟨own, others⟩ := List.nodup_cons.mp distinct
      rw [List.foldl_cons, if_neg (by simp [fresh field List.mem_cons_self]), inductionHypothesis _ others,
        List.append_assoc]
      · rfl
      · intro other member
        have apart : other.name ≠ field.name := fun same => own (List.mem_map.mpr ⟨other, member, same⟩)
        have free := (Bindings.not_has_iff _ _).mp (fresh other (List.mem_cons_of_mem _ member))
        refine (Bindings.not_has_iff _ _).mpr ?_
        rw [List.lookup_append, free, Bindings.lookup_entry, if_neg apart]
        rfl
  rw [initialFields, stands.chain, List.flatMap_cons, List.flatMap_nil, List.append_nil, stands.decl]
  exact each _ [] distinct fun _ _ => rfl

theorem lookup_zeros {fields : List Field} (distinct : (fields.map (·.name)).Nodup) {field : Field}
    (member : field ∈ fields) : List.lookup field.name (zeros fields) = some (.zero field.type) := by
  induction fields with
  | nil => cases member
  | cons first rest inductionHypothesis =>
    obtain ⟨own, others⟩ := List.nodup_cons.mp distinct
    rw [zeros, List.map_cons, Bindings.lookup_entry]
    rcases List.mem_cons.mp member with rfl | later
    · exact if_pos rfl
    · have apart : field.name ≠ first.name := fun same => own (List.mem_map.mpr ⟨field, later, same⟩)
      rw [if_neg apart]
      exact inductionHypothesis others later

/-- An object of a class as it is before its constructor has run. -/
def ClassTable.born (table : ClassTable) (id : ClassId) (creation : Creation) : Instance where
  type := id
  fields := initialFields table id
  outers := creation.outers
  captured := creation.captured
  constant := creation.constant

/-- An object is made where the next one is put. -/
theorem construct_eq {ready after : World} {arguments : List Value} {creation : Creation}
    (stands : world.classes.Stands id decl nesting enclosing) (concrete : decl.isInterface = false)
    (whole : decl.modifiers.has .abstract = false)
    (prepared : performer fuel (.prepare id) world = (.ok (), ready))
    (constructed : performer fuel (.runConstructor id ready.frontier arguments)
      (ready.grown (.ofClass (ready.classes.born id creation))) = (.ok (), after)) :
    performer (fuel + 1) (.construct id arguments creation) world = (.ok (.ref ready.frontier), after) := by
  change construct (performer fuel) id arguments creation world = _
  simp only [construct, run_bind, run_classInfo, stands.decl, concrete, whole, Bool.or_self, Bool.false_eq_true, if_false,
    prepared, run_classes, run_allocateAt]
  rw [ClassTable.born] at constructed
  rw [constructed]
  rfl

/-- The initializers of the fields of an object. -/
theorem initFields_eq (fuel : Nat) (inv : World → Prop) {perform : Performer} {value : Field → Value} {self : Address}
    (initializers : decl.initializers = [])
    (kept : ∀ field ∈ instanceFields decl, ∀ world value, inv world → inv (world.putField self field.name value))
    (evaluated : ∀ field ∈ instanceFields decl, ∀ e, field.initial = some e → ∀ world, inv world →
      outcome (eval perform e) ({ type := id, self := some self }, world) =
        (.ok (value field), ({ type := id, self := some self }, world)))
    (holds : inv world) :
    initFields perform fuel id decl self world =
      (.ok (), world.putFields self (initials (instanceFields decl) value)) := by
  rw [initFields, within_eq, outcome_bind, outcome_evalFields_setField kept evaluated holds, proceed_ok,
    initializers]
  rfl

/-- A class without constructors gives the fields their initial values. -/
theorem runConstructor_bare {value : Field → Value} {self : Address} {inv : World → Prop}
    (stands : world.classes.Stands id decl nesting enclosing) (constructors : decl.constructors = [])
    (initializers : decl.initializers = [])
    (kept : ∀ field ∈ instanceFields decl, ∀ world value, inv world → inv (world.putField self field.name value))
    (evaluated : ∀ field ∈ instanceFields decl, ∀ e, field.initial = some e → ∀ world, inv world →
      outcome (eval (performer fuel) e) ({ type := id, self := some self }, world) =
        (.ok (value field), ({ type := id, self := some self }, world)))
    (holds : inv world) :
    performer (fuel + 1) (.runConstructor id self []) world =
      (.ok (), world.putFields self (initials (instanceFields decl) value)) := by
  have initialized := initFields_eq fuel inv initializers kept evaluated holds
  change runConstructor (performer fuel) fuel id self [] world = _
  simp only [runConstructor, run_bind, run_classInfo, stands.decl, constructors, List.find?_nil, List.isEmpty_nil,
    Bool.true_or, Bool.and_self, if_true, stands.superclass, runSuper, run_pure, initialized]

end Making

section Copying

variable {perform : Performer} {fuel : Nat} {frame : Frame} {world : World} {self source : Address}

/-- An assignment of a field of the current object, as a statement. -/
theorem outcome_storeSelf (perform : Performer) (fuel : Nat) {frame' : Frame} {after : World} {name : String} {held value : Value} {e : Expression}
    (current : frame.self = some self) (holds : world.field? self name = some held)
    (gives : outcome (eval perform e) (frame, world) = (.ok value, (frame', after))) :
    outcome (exec (.ofPerformer perform) fuel none (.set (.ofSelf name) e)) (frame, world) =
      (.ok .normal, (frame', after.putField self name (conform false held value))) := by
  have assigned : outcome (eval perform (.set (.ofSelf name) e)) (frame, world) = _ :=
    outcome_assignSelf current holds e
  rw [gives, proceed_ok] at assigned
  simp only [Statement.set, exec_expression, outcome_bind, outcome_discard]
  rw [show (Meaning.ofPerformer perform).eval = eval perform from rfl, assigned]
  rfl

/-- The value of a field of an object. -/
theorem run_fieldOf {name : String} {value : Value} (there : world.field? source name = some value) :
    fieldOf perform (.ref source) name world = (.ok value, world) := by
  obtain ⟨state, object, found⟩ := World.exists_instance there
  have here : world.heap.object? (.ref source) = some (.ofClass state) := World.instance?_eq_some.mp object
  simp only [fieldOf, Value.isNull, Bool.false_eq_true, if_false, run_bind, run_heap, here, found]
  rfl

/-- A field of the object that a variable holds. -/
theorem outcome_fieldOfLocal {parameter name : String} {value : Value} (simple : Text.split '.' parameter = [parameter])
    (holds : frame.get? parameter = some (.ref source)) (there : world.field? source name = some value) :
    outcome (eval perform (.field (.name parameter) name)) (frame, world) = (.ok value, (frame, world)) := by
  have received : outcome (asReceiver perform (.name parameter) (eval perform (.name parameter))) (frame, world) =
      (.ok (.value (.ref source)), (frame, world)) := outcome_receiverLocal simple holds
  rw [eval_field, outcome_bind, received, proceed_ok, fieldOn, outcome_liftM, run_fieldOf there]

/-- Fields are copied one after the other from another object. -/
theorem outcome_copyAll (perform : Performer) (fuel : Nat) (frame : Frame) (world : World) {parameter : String}
    {names : List String} {value : String → Value}
    (apart : source ≠ self) (current : frame.self = some self) (simple : Text.split '.' parameter = [parameter])
    (holds : frame.get? parameter = some (.ref source))
    (given : ∀ name ∈ names, world.field? source name = some (value name))
    (free : ∀ name ∈ names, ∃ held, world.field? self name = some held ∧
      ∃ type, OfKind type held ∧ OfKind type (value name)) :
    outcome (execAll (.ofPerformer perform) fuel
        (names.map fun name => .set (.ofSelf name) (.field (.name parameter) name))) (frame, world) =
      (.ok .normal, (frame, world.putFields self (names.map fun name => (name, value name)))) := by
  induction names generalizing world with
  | nil => exact outcome_execAll_nil ..
  | cons name rest inductionHypothesis =>
    obtain ⟨there, others⟩ := List.forall_mem_cons.mp given
    obtain ⟨⟨held, here, type, heldKind, ofKind⟩, unassigned⟩ := List.forall_mem_cons.mp free
    have stored := outcome_storeSelf perform fuel current here
      (outcome_fieldOfLocal simple holds there)
    rw [ofKind.conform heldKind] at stored
    rw [List.map_cons, outcome_execAll_cons, stored, andThen_normal, List.map_cons, World.putFields_cons]
    obtain ⟨state, object, -⟩ := World.exists_instance here
    refine inductionHypothesis _ ?_ ?_
    · intro other member
      rw [World.field?_putField, if_neg (by simp [apart])]
      exact others other member
    · intro other member
      rw [World.field?_putField]
      by_cases same : other = name
      · subst same
        exact ⟨value other, by simp [object], type, ofKind, ofKind⟩
      · simpa [same] using unassigned other member

/-- A parameter holds what it is given. -/
theorem outcome_bindParameter (type : JavaType) (parameter : String) (value : Value) (point : Point) :
    outcome (bindParameters [.final type parameter] [value]) point =
      (.ok (), (point.1.declare parameter (coerce type value), point.2)) := rfl

/-- A constructor that takes another object and copies fields of it. -/
structure Copies (constructor : Constructor) (parameter : String) (names : List String) : Prop where
  parameters : ∃ type, constructor.parameters = [.final type parameter]
  body : constructor.body = names.map fun name => .set (.ofSelf name) (.field (.name parameter) name)
  simple : Text.split '.' parameter = [parameter]

/-- Such a constructor gives fields their initial values and then those of the other object. -/
theorem runConstructor_copies {id : ClassId} {decl : TypeDecl} {nesting : Nesting} {enclosing : List ClassId}
    {constructor : Constructor} {parameter : String} {names : List String} {value : String → Value}
    (initial : Field → Value) (stands : world.classes.Stands id decl nesting enclosing)
    (constructors : decl.constructors = [constructor])
    (initializers : decl.initializers = []) (copies : Copies constructor parameter names) (apart : source ≠ self)
    (evaluated : ∀ field ∈ instanceFields decl, ∀ e, field.initial = some e → ∀ world,
      outcome (eval (performer fuel) e) ({ type := id, self := some self }, world) =
        (.ok (initial field), ({ type := id, self := some self }, world)))
    (given : ∀ name ∈ names, world.field? source name = some (value name))
    (free : ∀ name ∈ names, ∃ held,
      (world.putFields self (initials (instanceFields decl) initial)).field? self name = some held ∧
        ∃ type, OfKind type held ∧ OfKind type (value name)) :
    performer (fuel + 1) (.runConstructor id self [.ref source]) world =
      (.ok (), (world.putFields self (initials (instanceFields decl) initial)).putFields self
        (names.map fun name => (name, value name))) := by
  obtain ⟨type, parameters⟩ := copies.parameters
  have chosen : [constructor].find? (fun candidate => candidate.parameters.length == [Value.ref source].length) =
      some constructor := by
    simp [parameters]
  have initialized : initFields (performer fuel) fuel id decl self world =
      (.ok (), world.putFields self (initials (instanceFields decl) initial)) :=
    initFields_eq fuel (fun _ => True) initializers (fun _ _ _ _ _ => trivial)
      (fun field member e initial' world _ => evaluated field member e initial' world) trivial
  let started : Frame := { type := id, self := some self }
  have bound : outcome (bindParameters constructor.parameters [.ref source]) (started, world) =
      (.ok (), (started.declare parameter (.ref source), world)) := by
    rw [parameters, outcome_bindParameter, coerce_ref]
  have begun : beginConstructor (performer fuel) fuel id (world.classes.get id) self constructor.body = do
      runSuper (performer fuel) (world.classes.get id).superclass self []
      initFields (performer fuel) fuel id (world.classes.get id).decl self
      return constructor.body := by
    rw [copies.body]
    cases names <;> rfl
  have prefixed : outcome (beginConstructor (performer fuel) fuel id (world.classes.get id) self constructor.body)
      (started.declare parameter (.ref source), world) =
        (.ok constructor.body, (started.declare parameter (.ref source),
          world.putFields self (initials (instanceFields decl) initial))) := by
    rw [begun, stands.superclass, stands.decl, outcome_bind, runSuper, outcome_liftM, run_pure, proceed_ok,
      outcome_bind, outcome_liftM, initialized]
    rfl
  have copied := outcome_copyAll (performer fuel) fuel (started.declare parameter (.ref source))
    (world.putFields self (initials (instanceFields decl) initial)) apart rfl copies.simple
    (by simp [Frame.get?_eq, started, Frame.declare, Frame.inInnermost, Frame.lookupIn_cons]) ?_ free
  · change runConstructor (performer fuel) fuel id self [.ref source] world = _
    simp only [runConstructor, run_bind, run_classInfo, stands.decl, constructors, chosen, within_eq]
    have whole : outcome (do
        bindParameters constructor.parameters [.ref source]
        let body ← beginConstructor (performer fuel) fuel id (world.classes.get id) self constructor.body
        discard (returned (← runAll (performer fuel) fuel body) : Run (Option Value))) (started, world) =
          (.ok (), (started.declare parameter (.ref source),
            (world.putFields self (initials (instanceFields decl) initial)).putFields self
              (names.map fun name => (name, value name)))) := by
      rw [outcome_bind, bound, proceed_ok, outcome_bind, prefixed, proceed_ok, outcome_bind, runAll, copies.body,
        copied, proceed_ok]
      rfl
    exact congrArg (fun ending => (ending.1, ending.2.2)) whole
  · intro name listed
    rw [World.field?_putFields_other apart]
    exact given name listed

end Copying

section Calls

variable {fuel : Nat} {owner : ClassId} {method : Method} {world : World} {self : Address}

/-- The frame that a static method starts with. -/
def staticFrame (owner : ClassId) (method : Method) : Frame := { type := owner, returnType := method.returnType }

/-- A call of a static method runs its body one level deeper when the class is initialized. -/
theorem performer_invokeClass {ready : World} {arguments : List Value} (static : method.isStatic = true)
    (prepared : performer fuel (.prepare owner) world = (.ok (), ready)) (room : ready.depth < depthLimit)
    {result : Except Unwind Flow} {after : Point}
    (ends : proceed (outcome (bindParameters method.parameters arguments)
        (staticFrame owner method, ready.atDepth (ready.depth + 1)))
      (fun _ => outcome (execAll (.ofPerformer (performer fuel)) fuel method.body)) = (result, after)) :
    performer (fuel + 1) (.invoke owner method none arguments) world =
      (callResult method.returnType result, after.2.atDepth (after.2.depth - 1)) := by
  have admitted : performer (fuel + 1) (.invoke owner method none arguments) world =
      counted (runMethod (performer fuel) fuel owner method none arguments) ready := by
    have shallow : ¬ready.depth ≥ depthLimit := by omega
    change invoke (performer fuel) fuel owner method none arguments world = _
    simp only [invoke, static, if_true, run_bind, prepared]
    change (if ready.depth ≥ depthLimit then _ else _ : Run Value) ready = _
    rw [if_neg shallow]
  have run : runMethod (performer fuel) fuel owner method none arguments (ready.atDepth (ready.depth + 1)) =
      (callResult method.returnType result, after.2) := by
    simp only [runMethod, static, if_true, within_eq, outcome_bind, runAll]
    rw [show (⟨owner, none, method.returnType, [{}]⟩ : Frame) = staticFrame owner method from rfl]
    revert ends
    rcases outcome (bindParameters method.parameters arguments)
      (staticFrame owner method, ready.atDepth (ready.depth + 1)) with ⟨unwind | _, middle⟩
    · rintro ⟨⟩
      rfl
    · simp only [proceed_ok]
      intro ends
      rw [outcome_bind, ends]
      rcases result with unwind | _ | _ | _ | _ <;> rfl
  rw [admitted, counted_eq, run]

/-- A call of a static method without parameters. -/
theorem performer_invokeStatic {ready : World} (static : method.isStatic = true) (bare : method.parameters = [])
    (prepared : performer fuel (.prepare owner) world = (.ok (), ready)) (room : ready.depth < depthLimit)
    {result : Except Unwind Flow} {after : Point}
    (ends : outcome (execAll (.ofPerformer (performer fuel)) fuel method.body)
      (staticFrame owner method, ready.atDepth (ready.depth + 1)) = (result, after)) :
    performer (fuel + 1) (.invoke owner method none []) world =
      (callResult method.returnType result, after.2.atDepth (after.2.depth - 1)) := by
  refine performer_invokeClass static prepared room ?_
  rw [bare]
  exact ends

theorem outcome_evalSelf {perform : Performer} {point : Point} (current : point.1.self = some self) :
    outcome (eval perform .self) point = (.ok (.ref self), point) := by
  simp only [Expression.self, eval_this, currentObject, outcome_bind, outcome_frame, proceed_ok, current, outcome_pure]

/-- A method that assigns its parameter to the field of that name and returns the object. -/
structure AssignsParameter (method : Method) (type : JavaType) (name : String) : Prop where
  bound : method.isStatic = false
  parameters : method.parameters = [.final type name]
  body : method.body = [.set (.ofSelf name) (.name name), .returns (some .self)]

theorem performer_assigns {type : JavaType} {name : String} {held value : Value} (assigns : AssignsParameter method type name)
    (room : world.depth < depthLimit) (holds : world.field? self name = some held) (heldKind : OfKind type held)
    (ofKind : OfKind type value) :
    performer (fuel + 1) (.invoke owner method (some self) [value]) world =
      (.ok (.ref self), world.putField self name value) := by
  let inside := world.atDepth (world.depth + 1)
  let started := (startFrame owner method self).declare name value
  have bound : outcome (bindParameters method.parameters [value]) (startFrame owner method self, inside) =
      (.ok (), (started, inside)) := by
    rw [assigns.parameters, outcome_bindParameter, ofKind.coerce]
  have read : outcome (eval (performer fuel) (.name name)) (started, inside) = (.ok value, (started, inside)) :=
    outcome_evalLocal (by
      simp [Frame.get?_eq, started, startFrame, Frame.declare, Frame.inInnermost, Frame.lookupIn_cons])
  have current : started.self = some self := rfl
  have holds : inside.field? self name = some held := holds
  have stored := outcome_storeSelf (performer fuel) fuel current holds read
  rw [ofKind.conform heldKind] at stored
  have gives : outcome (eval (performer fuel) .self) (started, inside.putField self name value) =
      (.ok (.ref self), (started, inside.putField self name value)) := outcome_evalSelf current
  have ends : proceed (outcome (bindParameters method.parameters [value]) (startFrame owner method self, inside))
      (fun _ => outcome (execAll (.ofPerformer (performer fuel)) fuel method.body)) =
        (.ok (.returns (.ref self)), (started, inside.putField self name value)) := by
    rw [bound, proceed_ok, assigns.body, outcome_execAll_cons, stored, andThen_normal, outcome_execAll_single,
      outcome_returns gives]
  rw [performer_invoke assigns.bound room ends, callResult, coerce_ref]
  have depth : (world.putField self name value).depth = world.depth := World.depth_putField ..
  simp only [inside, World.putField_atDepth, World.depth_atDepth, Nat.add_sub_cancel, World.atDepth_atDepth]
  rw [← depth, World.atDepth_depth]

/-- A new object as the value of an expression. -/
theorem outcome_make {perform : Performer} {frame : Frame} {after : World} {type : JavaType} {id : ClassId}
    {arguments : List Expression} {values : List Value} {value : Value}
    (given : outcome (evalAll perform arguments) (frame, world) = (.ok values, (frame, world)))
    (meant : resolveType world.classes frame type.name = some (.user id))
    (made : perform (.construct id values (creationFor world frame id)) world = (.ok value, after)) :
    outcome (eval perform (.make type arguments)) (frame, world) = (.ok value, (frame, after)) := by
  simp only [Expression.make, eval_create, outcome_bind, given, proceed_ok, create, outcome_frame, outcome_world, meant,
    outcome_liftM, made]

/-- A static method of a class itself is called. -/
theorem invokeStatic_own {perform : Performer} {id : ClassId} {called : String}
    (plain : (world.classes.get id).decl.isEnum = false)
    (found : world.classes.method? id called 0 = some (owner, method)) :
    invokeStatic perform id called [] world = perform (.invoke owner method none []) world := by
  have ordinary : enumMethod? perform (world.classes.get id) id called [] = none := by simp [enumMethod?, plain]
  have found : world.classes.method? id called ([] : List Value).length = some (owner, method) := found
  simp only [invokeStatic, run_bind, run_classInfo, ordinary, run_classes, found]

/-- A call of a static method of a class that is named. -/
theorem outcome_callType {perform : Performer} {frame : Frame} {name called : String} {id : ClassId}
    (unbound : outcome (lookup perform name) (frame, world) = (.ok none, (frame, world)))
    (simple : Text.split '.' name = [name]) (ordinary : name ≠ "super")
    (meant : resolveType world.classes frame name = some (.user id))
    (plain : (world.classes.get id).decl.isEnum = false)
    (found : world.classes.method? id called 0 = some (owner, method)) :
    outcome (eval perform (.callOn (.name name) called [])) (frame, world) =
      outcome (liftM (perform (.invoke owner method none [])) : Code Value) (frame, world) := by
  have received : outcome (asReceiver perform (.name name) (eval perform (.name name))) (frame, world) =
      (.ok (.type (.user id)), (frame, world)) :=
    outcome_receiverType (by rw [simple, List.headD_cons, unbound]) meant
  rw [outcome_callReceived (asName?_ne_super ordinary) received (outcome_evalAll_nil _ _), outcome_liftM, outcome_liftM,
    callOn, invokeStatic_own plain found]

end Calls

/-- The name of a type in code that declares no type. -/
theorem resolveType_simple {frame : Frame} {name : String} (classes : ClassTable) (free : frame.type? name = none)
    (simple : Text.split '.' name = [name]) :
    resolveType classes frame name = classes.resolve (some frame.type) name := by
  rw [resolveType, simple]
  simp only [free]

/-- The name of a type is no variable, field or static field. -/
theorem outcome_lookup_none {perform : Performer} {frame : Frame} {world : World} {self : Address} {state : Instance}
    {name : String} (current : frame.self = some self) (free : frame.get? name = none)
    (there : world.instance? self = some state) (outers : state.outers = [])
    (unheld : List.lookup name state.fields = none) (captured : state.captured = [])
    (static : staticInScope? world.classes frame name = none) :
    outcome (lookup perform name) (frame, world) = (.ok none, (frame, world)) := by
  have object : world.heap.instance? (.ref self) = some state := there
  have objects : currentObjects world.heap frame = [(self, state)] := by
    simp [currentObjects, current, object, outers]
  simp only [lookup, outcome_bind, outcome_frame, proceed_ok, free, outcome_heap, objects, List.findSome?_cons, unheld,
    captured, List.lookup_nil, Option.or_none, List.findSome?_nil, outcome_classes, static, outcome_pure]

end JavaWeave.Interpreter
