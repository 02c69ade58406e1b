import JavaWeave.Proofs.Builder.Members
import JavaWeave.Proofs.Text.Pieces

namespace JavaWeave.Weave

open Syntax Interpreter

theorem settle_ok {action : Run α} {value : α} {world after : World} (ends : action world = (.ok value, after)) :
    settle action world = (.ok value, after) := by
  change ((action world).1.mapError (action world).2.report, (action world).2) = _
  rw [ends]
  rfl

/-- What a field holds before it is given anything: its initial value if it has one. -/
def startValue (type : JavaType) (initial : Option Expression) : Value :=
  match initial with
  | some (.literal value) => .ofLiteral value
  | _ => .zero type

namespace BuilderPlan

variable {plan : BuilderPlan} {stamp : Origin → Origin} {place : Nat} {outer inner : ClassId} {world : World}
  {fuel : Nat}

/-- The class of the plan, woven, and its builder are classes of the table. -/
abbrev Housed (plan : BuilderPlan) (stamp : Origin → Origin) (place : Nat) (classes : ClassTable)
    (outer inner : ClassId) : Prop :=
  classes.Houses outer inner (plan.product "create" stamp place) (plan.builder stamp)

/-- What each field of a new builder holds, by its name. -/
def startGiven (plan : BuilderPlan) (name : String) : Value :=
  ((plan.fields.held.find? (·.name == name)).map fun field => startValue field.type field.initial).getD .null

/-- An object of the builder. It belongs to no other object, and none of its fields is named like the class. -/
structure IsBuilder (plan : BuilderPlan) (inner : ClassId) (state : Instance) : Prop where
  type : state.type = inner
  outers : state.outers = []
  captured : state.captured = []
  unheld : List.lookup plan.owner.name state.fields = none

/-- A builder that has been given values and waits for more. -/
structure Awaits (plan : BuilderPlan) (stamp : Origin → Origin) (place : Nat) (outer inner : ClassId) (world : World)
    (address : Address) (given : String → Value) : Prop where
  housed : plan.Housed stamp place world.classes outer inner
  begun : (world.classes.get outer).state.stage ≠ .pending
  depth : world.depth = 0
  object : ∃ state, world.instance? address = some state ∧ plan.IsBuilder inner state
  holds : ∀ field ∈ plan.fields.held, world.field? address field.name = some (given field.name)
  kinds : ∀ field ∈ plan.fields.held, OfKind field.type (given field.name)

namespace Sound

variable (sound : plan.Sound)
include sound

theorem startGiven_eq {field : BuilderField} (held : field ∈ plan.fields.held) :
    plan.startGiven field.name = startValue field.type field.initial := by
  rw [startGiven]
  cases found : plan.fields.held.find? (·.name == field.name) with
  | none => exact absurd (beq_self_eq_true _) (List.find?_eq_none.mp found field held)
  | some other =>
    have same : other.name = field.name := by simpa using List.find?_some found
    rw [sound.held_ext (List.mem_of_find?_eq_some found) held same]
    rfl

theorem ofKind_start {field : BuilderField} (held : field ∈ plan.fields.held) :
    OfKind field.type (startValue field.type field.initial) := by
  cases initial : field.initial with
  | none => exact sound.ofKind_zero held
  | some e =>
    obtain ⟨value, rfl, ofKind⟩ := sound.initial_literal held initial
    exact ofKind

theorem simple_owner : Text.split '.' plan.owner.name = [plan.owner.name] := Text.split_of_not_mem sound.simple

theorem simple_builder : Text.split '.' plan.builderName = [plan.builderName] := by
  refine Text.split_of_not_mem ?_
  have simple := sound.simple
  simp only [builderName, String.toList_append, List.mem_append, not_or]
  exact ⟨⟨by decide, simple⟩, by decide⟩

omit sound in
theorem builderName_ne : plan.builderName ≠ plan.owner.name := by
  intro same
  have lengths : (plan.builderName).length = plan.owner.name.length := congrArg String.length same
  have mark : "$".length = 1 := rfl
  rw [builderName, String.length_append, String.length_append] at lengths
  omega

/-- A builder stays one when its fields are assigned. -/
theorem isBuilder_put {state : Instance} (builder : plan.IsBuilder inner state) {field : BuilderField}
    (held : field ∈ plan.fields.held) (value : Value) :
    plan.IsBuilder inner { state with fields := state.fields.put field.name value } where
  type := builder.type
  outers := builder.outers
  captured := builder.captured
  unheld := by rw [Bindings.lookup_put, if_neg (sound.name_ne held).symm, builder.unheld]

/-- A value for a field that the builder holds. -/
theorem awaits_put {address : Address} {given : String → Value}
    (awaits : plan.Awaits stamp place outer inner world address given) {field : BuilderField}
    (held : field ∈ plan.fields.held) {value : Value} (ofKind : OfKind field.type value) :
    plan.Awaits stamp place outer inner (world.putField address field.name value) address
      (Function.update given field.name value) := by
  obtain ⟨state, there, builder⟩ := awaits.object
  exact {
    housed := by rw [World.classes_putField]; exact awaits.housed
    begun := by rw [World.classes_putField]; exact awaits.begun
    depth := by rw [World.depth_putField]; exact awaits.depth
    object := ⟨_, by rw [World.instance?_putField, if_pos rfl, there]; rfl, sound.isBuilder_put builder held value⟩
    holds := by
      intro other held'
      rw [World.field?_putField, there]
      by_cases same : other.name = field.name
      · simp [same]
      · simpa [same] using awaits.holds other held'
    kinds := by
      intro other held'
      by_cases same : other.name = field.name
      · obtain rfl := sound.held_ext held' held same
        simpa using ofKind
      · simpa [same] using awaits.kinds other held' }

/-- Giving a field a value. -/
theorem awaits_setter {address : Address} {given : String → Value}
    (awaits : plan.Awaits stamp place outer inner world address given) {field : BuilderField}
    (held : field ∈ plan.fields.held) {value : Value} (ofKind : OfKind field.type value) (fuel : Nat) :
    ∃ after, callMethod (fuel + 1) (.ref address) field.name [value] world = (.ok (.ref address), after) ∧
      plan.Awaits stamp place outer inner after address (Function.update given field.name value) := by
  obtain ⟨state, there, builder⟩ := awaits.object
  obtain ⟨method, found, assigns⟩ := sound.find_setter held
  have answered : world.classes.method? state.type field.name [value].length = some (inner, method) := by
    rw [builder.type]
    exact (awaits.housed.last.method? field.name 1).trans (congrArg (Option.map (inner, ·)) found)
  have room : world.depth < depthLimit := by rw [awaits.depth]; decide
  have ran : performer (fuel + 1) (.invoke inner method (some address) [value]) world =
      (.ok (.ref address), world.putField address field.name value) :=
    performer_assigns assigns room (awaits.holds field held) (awaits.kinds field held) ofKind
  refine ⟨world.putField address field.name value, ?_, sound.awaits_put awaits held ofKind⟩
  rw [callMethod]
  exact settle_ok ((dispatch_own there answered).trans ran)

theorem isEnum_own (housed : plan.Housed stamp place world.classes outer inner) :
    (world.classes.get outer).decl.isEnum = false := by
  rw [housed.own.decl, TypeDecl.isEnum]
  change (plan.owner.kind == .enum) = false
  rw [sound.owner.kind]
  rfl

omit sound in
theorem fields_builder : (plan.builder stamp).fields = plan.fields.held.map fun field =>
    Field.restamp stamp { modifiers := .ofList [.privateAccess], type := field.type, name := field.name,
                          initial := plan.initialValue field } := by
  rw [builder, TypeDecl.restamp, builderDecl, List.map_map]
  rfl

omit sound in
theorem instanceFields_builder : instanceFields (plan.builder stamp) = (plan.builder stamp).fields := by
  have bound : (Modifiers.ofList [.privateAccess]).has .static = false := by decide
  rw [instanceFields, fields_builder, List.filter_eq_self]
  exact List.forall_mem_map.mpr fun field _ => by
    change (!(Modifiers.ofList [.privateAccess]).has .static) = true
    rw [bound]
    rfl

theorem distinct_builder : ((instanceFields (plan.builder stamp)).map (·.name)).Nodup := by
  rw [instanceFields_builder, fields_builder, List.map_map]
  exact sound.distinct_held

/-- A field that has an initial value is optional. -/
theorem optional_of_initial {field : BuilderField} (held : field ∈ plan.fields.held) {e : Expression}
    (initial : field.initial = some e) : field ∈ plan.fields.optional := by
  refine (List.mem_append.mp held).resolve_left fun required => ?_
  rw [sound.required] at required
  obtain ⟨declared, there, role, whole⟩ := Plain.mem_heldFields required
  have given : declared.initial = some e := by rwa [whole] at initial
  simp only [fieldRole, given, Option.isNone_some, Bool.false_and, Bool.false_eq_true, if_false] at role
  split at role
  · cases role
  · split at role <;> cases role

/-- The initial value of an optional field is given by its method, wherever it is needed. -/
theorem outcome_default {frame : Frame} {address : Address} (bare : frame.Bare inner address) {field : BuilderField}
    (held : field ∈ plan.fields.held) {literal : Literal} (initial : field.initial = some (.literal literal))
    (allowed : plan.allowReset = true) (housed : plan.Housed stamp place world.classes outer inner)
    (begun : (world.classes.get outer).state.stage ≠ .pending) (room : world.depth < depthLimit)
    (object : ∃ state, world.instance? address = some state ∧ plan.IsBuilder inner state) :
    outcome (eval (performer (fuel + 2)) (plan.resetValue field)) (frame, world) =
      (.ok (.ofLiteral literal), (frame, world)) := by
  obtain ⟨state, there, builder⟩ := object
  obtain ⟨method, found, gives⟩ := sound.find_default (sound.optional_of_initial held initial) initial allowed place
  obtain ⟨value, same, ofKind⟩ := sound.initial_literal held initial
  cases same
  have static : staticInScope? world.classes frame plan.owner.name = none := by
    have own : world.classes.staticOwner? outer plan.owner.name = none := by
      refine housed.own.staticOwner? ?_ sound.owner.constants
      refine List.forall_mem_map.mpr fun declared listed => ?_
      rw [handOver]
      split <;> exact sound.apart declared listed
    have last : world.classes.staticOwner? inner plan.owner.name = none := by
      refine housed.last.staticOwner? ?_ rfl
      rw [fields_builder]
      exact List.forall_mem_map.mpr fun other held => sound.name_ne held
    simp [staticInScope?, bare.type, ClassTable.lexical, housed.last.enclosing, own, last]
  have unbound : outcome (lookup (performer (fuel + 2)) plan.owner.name) (frame, world) = (.ok none, (frame, world)) :=
    outcome_lookup_none bare.self (bare.locals _) there builder.outers builder.unheld builder.captured static
  have meant : resolveType world.classes frame plan.owner.name = some (.user outer) :=
    (bare.resolveType ..).trans (housed.resolve_outer sound.simple_owner builderName_ne)
  have answered := (housed.own.method? (defaultMethodName field.name) 0).trans (congrArg (Option.map (outer, ·)) found)
  have ends : outcome (execAll (.ofPerformer (performer (fuel + 1))) (fuel + 1) method.body)
      (staticFrame outer method, world.atDepth (world.depth + 1)) =
        (.ok (.returns (.ofLiteral literal)), (staticFrame outer method, world.atDepth (world.depth + 1))) := by
    rw [gives.body, outcome_execAll_single]
    exact outcome_returns (outcome_evalLiteral ..)
  have ran := performer_invokeStatic gives.static gives.parameters (prepare_begun begun) room ends
  rw [resetValue, initial, Option.isSome_some, if_pos rfl,
    outcome_callType unbound sound.simple_owner sound.ordinary meant (sound.isEnum_own housed) answered,
    outcome_liftM, ran, callResult, gives.returnType, ofKind.coerce]
  rfl

/-- What a field is set back to is what a new builder holds. -/
theorem outcome_resetValue {frame : Frame} {address : Address} (bare : frame.Bare inner address) {field : BuilderField}
    (held : field ∈ plan.fields.held) (allowed : plan.allowReset = true)
    (housed : plan.Housed stamp place world.classes outer inner)
    (begun : (world.classes.get outer).state.stage ≠ .pending) (room : world.depth < depthLimit)
    (object : ∃ state, world.instance? address = some state ∧ plan.IsBuilder inner state) :
    outcome (eval (performer (fuel + 2)) (plan.resetValue field)) (frame, world) =
      (.ok (plan.startGiven field.name), (frame, world)) := by
  rw [sound.startGiven_eq held]
  cases initial : field.initial with
  | some e =>
    obtain ⟨literal, rfl, -⟩ := sound.initial_literal held initial
    exact sound.outcome_default bare held initial allowed housed begun room object
  | none =>
    obtain ⟨literal, written, value⟩ := literal_zero field.type
    rw [resetValue, initial, Option.isSome_none, if_neg Bool.false_ne_true, written, outcome_evalLiteral, value]
    rfl

/-- An initial value as the builder evaluates it. -/
theorem outcome_initialValue {frame : Frame} {address : Address} (bare : frame.Bare inner address)
    {field : BuilderField} (held : field ∈ plan.fields.held)
    {e : Expression} (initial : plan.initialValue field = some e)
    (housed : plan.Housed stamp place world.classes outer inner)
    (begun : (world.classes.get outer).state.stage ≠ .pending) (room : world.depth < depthLimit)
    (object : ∃ state, world.instance? address = some state ∧ plan.IsBuilder inner state) :
    outcome (eval (performer (fuel + 2)) e) (frame, world) = (.ok (plan.startGiven field.name), (frame, world)) := by
  rw [initialValue] at initial
  split at initial
  next needed =>
    cases initial
    exact sound.outcome_resetValue bare held (Bool.and_eq_true_iff.mp needed).2 housed begun room object
  next =>
    obtain ⟨literal, rfl, -⟩ := sound.initial_literal held initial
    rw [sound.startGiven_eq held, initial]
    exact outcome_evalLiteral ..

theorem literal_product : LiteralClass (plan.product "create" stamp place) where
  constants := sound.owner.constants
  initializers := sound.owner.initializers
  literal field listed := by
    obtain ⟨declared, among, rfl⟩ := List.mem_map.mp (List.mem_filter.mp listed).1
    intro e initial
    rw [handOver] at initial
    split at initial
    · cases initial
    · exact sound.owner.literal declared among e initial

omit sound in
theorem literal_builder : LiteralClass (plan.builder stamp) where
  constants := rfl
  initializers := rfl
  literal field listed := by
    have bound : (Modifiers.ofList [.privateAccess]).has .static = false := by decide
    obtain ⟨among, static⟩ := List.mem_filter.mp listed
    rw [fields_builder] at among
    obtain ⟨held, -, rfl⟩ := List.mem_map.mp among
    change ((Modifiers.ofList [.privateAccess]).has .static || false) = true at static
    rw [bound] at static
    cases static

omit sound in
/-- A builder belongs to no other object. -/
theorem creationFor_builder (housed : plan.Housed stamp place world.classes outer inner) (frame : Frame) :
    creationFor world frame inner = {} := by
  have static : (Modifiers.ofList [.privateAccess, .static]).has .static = true := by decide
  have free : (world.classes.get inner).isInner = false := by
    rw [ClassInfo.isInner, housed.last.nesting, housed.last.decl]
    change (true && !(Modifiers.ofList [.privateAccess, .static]).has .static) = false
    rw [static]
    rfl
  simp [creationFor, housed.last.nesting, housed.last.enclosing, free]

/-- A new builder holds what the fields start with. -/
theorem construct_builder (before : plan.Housed stamp place world.classes outer inner)
    (begun : (world.classes.get outer).state.stage ≠ .pending) (room : world.depth < depthLimit) :
    ∃ address after, performer (fuel + 4) (.construct inner [] {}) world = (.ok (.ref address), after) ∧
      after.depth = world.depth ∧ plan.Awaits stamp place outer inner (after.atDepth 0) address plan.startGiven := by
  obtain ⟨classes, prepared, advanced, -⟩ := prepare_literal before.last literal_builder
  have housed := before.alike advanced.toAlike sound.owner.superclass rfl
  replace begun : (classes.get outer).state.stage ≠ .pending := by
    rw [advanced.others outer before.apart.symm]
    exact begun
  let made := world.withClasses classes
  let born := classes.born inner {}
  -- Evaluating an initial value needs the new object, but only what no assignment of a field changes.
  let inv (current : World) : Prop := current.classes = classes ∧ current.depth = world.depth ∧
    ∃ state, current.instance? made.frontier = some state ∧ plan.IsBuilder inner state
  have zero : born.fields = zeros (instanceFields (plan.builder stamp)) :=
    initialFields_eq housed.last sound.distinct_builder
  have unheld : List.lookup plan.owner.name born.fields = none := by
    rw [zero, List.lookup_eq_none_iff, instanceFields_builder, fields_builder]
    intro entry listed
    simp only [zeros, List.mem_map, exists_exists_and_eq_and] at listed
    obtain ⟨field, held, rfl⟩ := listed
    simpa [Field.restamp] using (sound.name_ne held).symm
  have start : inv (made.grown (.ofClass born)) :=
    ⟨rfl, rfl, born, World.instance?_grown_frontier .., rfl, rfl, rfl, unheld⟩
  have kept : ∀ field ∈ instanceFields (plan.builder stamp), ∀ current value, inv current →
      inv (current.putField made.frontier field.name value) := by
    rintro field listed current value ⟨same, depth, state, there, builder⟩
    rw [instanceFields_builder, fields_builder] at listed
    obtain ⟨other, held, rfl⟩ := List.mem_map.mp listed
    exact ⟨by rw [World.classes_putField, same], by rw [World.depth_putField, depth], _,
      by rw [World.instance?_putField, if_pos rfl, there]; rfl, sound.isBuilder_put builder held value⟩
  have evaluated : ∀ field ∈ instanceFields (plan.builder stamp), ∀ e, field.initial = some e → ∀ current, inv current →
      outcome (eval (performer (fuel + 2)) e) ({ type := inner, self := some made.frontier }, current) =
        (.ok (plan.startGiven field.name), ({ type := inner, self := some made.frontier }, current)) := by
    rintro field listed e initial current ⟨rfl, depth, object⟩
    rw [instanceFields_builder, fields_builder] at listed
    obtain ⟨other, held, rfl⟩ := List.mem_map.mp listed
    exact sound.outcome_initialValue ⟨rfl, rfl, fun _ => rfl, fun _ => rfl⟩ held initial housed begun (depth ▸ room)
      object
  have constructed := runConstructor_bare
    housed.last rfl rfl kept evaluated start
  refine ⟨made.frontier, _, construct_eq before.last rfl ?_ prepared constructed, World.depth_putFields, ?_⟩
  · exact (by decide : (Modifiers.ofList [.privateAccess, .static]).has .abstract = false)
  · obtain ⟨same, -, object⟩ := World.putFields_induction (fun entry listed current holds => by
      obtain ⟨field, member, name⟩ := exists_of_mem_initials listed
      exact name ▸ kept field member current entry.2 holds) start
    exact {
      housed := by
        rw [World.classes_atDepth, same]
        exact housed
      begun := by
        rw [World.classes_atDepth, same]
        exact begun
      depth := rfl
      object := object
      holds := by
        intro field held
        let written : Field := Field.restamp stamp
          { modifiers := .ofList [.privateAccess], type := field.type, name := field.name,
            initial := plan.initialValue field }
        have listed : written ∈ instanceFields (plan.builder stamp) := by
          rw [instanceFields_builder, fields_builder]
          exact List.mem_map_of_mem held
        have untouched : (made.grown (.ofClass born)).field? made.frontier field.name = some (.zero field.type) := by
          rw [World.field?, World.instance?_grown_frontier, Option.bind_some, zero]
          exact lookup_zeros sound.distinct_builder listed
        rw [World.field?_atDepth, World.field?_putFields (World.instance?_grown_frontier ..), untouched,
          show field.name = written.name from rfl, lastGiven_initials sound.distinct_builder listed]
        change Option.or ((plan.initialValue field).map fun _ =>
          coerce field.type (plan.startGiven field.name)) _ = some (plan.startGiven field.name)
        rw [sound.startGiven_eq held, (sound.ofKind_start held).coerce]
        cases given : field.initial with
        | none => simp [initialValue, given, startValue]
        | some e =>
          have some : (plan.initialValue field).isSome := by
            rw [initialValue]
            split
            · rfl
            · simp [given]
          obtain ⟨e', written⟩ := Option.isSome_iff_exists.mp some
          simp [written]
      kinds := fun field held => sound.startGiven_eq held ▸ sound.ofKind_start held }

/-- The entry makes a new builder. -/
theorem awaits_create (housed : plan.Housed stamp place world.classes outer inner) (depth : world.depth = 0)
    (fuel : Nat) :
    ∃ address after, callStatic (fuel + 5) plan.owner.name "create" [] world = (.ok (.ref address), after) ∧
      plan.Awaits stamp place outer inner after address plan.startGiven := by
  obtain ⟨classes, prepared, advanced, begun⟩ := prepare_literal housed.own sound.literal_product
  have ready := housed.alike advanced.toAlike sound.owner.superclass rfl
  let inside := (world.withClasses classes).atDepth (world.depth + 1)
  have room : world.depth < depthLimit := by rw [depth]; decide
  have deeper : inside.depth < depthLimit := by
    change world.depth + 1 < depthLimit
    rw [depth]
    decide
  obtain ⟨address, after, made, still, awaits⟩ := sound.construct_builder ready begun deeper
  let entry := (plan.entryMethod "create").restamp stamp
  have meant : resolveType inside.classes (staticFrame outer entry) plan.builderType.name = some (.user inner) :=
    (resolveType_simple inside.classes rfl sound.simple_builder).trans
      (ready.resolve_inner sound.simple_builder builderName_ne)
  have gives : outcome (eval (performer (fuel + 4)) (.make plan.builderType [])) (staticFrame outer entry, inside) =
      (.ok (.ref address), (staticFrame outer entry, after)) :=
    outcome_make rfl meant (by rw [creationFor_builder ready]; exact made)
  have ends : outcome (execAll (.ofPerformer (performer (fuel + 4))) (fuel + 4) entry.body)
      (staticFrame outer entry, inside) = (.ok (.returns (.ref address)), (staticFrame outer entry, after)) :=
    (outcome_execAll_single ..).trans (outcome_returns gives)
  have ran := performer_invokeStatic static_entry rfl prepared room ends
  rw [callResult, coerce_ref] at ran
  have named : classNamed plan.owner.name world = (.ok outer, world) := by
    have resolved : world.classes.resolve none plan.owner.name = some (.user outer) := housed.resolve_top
    simp only [classNamed, run_bind, run_classes, resolved, run_pure]
  have answered := (housed.own.method? "create" 0).trans (congrArg (Option.map (outer, ·)) (find_entry place))
  refine ⟨address, after.atDepth 0, settle_ok ?_, awaits⟩
  have whole : invokeStatic (performer (fuel + 5)) outer "create" [] world = (.ok (.ref address), after.atDepth 0) := by
    rw [invokeStatic_own (sound.isEnum_own housed) answered, ran, still]
    change (_, after.atDepth world.depth) = _
    rw [depth]
  simp only [run_bind, named, whole]

omit sound in
theorem name_handOver (field : Field) : (handOver field).name = field.name := by
  rw [handOver]
  split <;> rfl

omit sound in
/-- A field that is held belongs to the object and has no initial value of its own. -/
theorem handOver_eq {field : Field} (held : fieldRole [] .plain field = .required ∨ fieldRole [] .plain field = .optional) :
    handOver field = { field with initial := none } ∧ field.isStatic = false := by
  have bound : field.isStatic = false := by
    by_contra static
    rw [Bool.not_eq_false] at static
    rw [fieldRole, static] at held
    rcases held with role | role <;> cases role
  refine ⟨?_, bound⟩
  rw [handOver]
  rcases held with required | optional
  · have bare : field.initial = none := by
      rw [fieldRole] at required
      split at required
      · cases required
      · split at required
        next own => simpa using (Bool.and_eq_true_iff.mp own).1
        next => split at required <;> cases required
    rw [required, if_neg (by decide)]
    cases field
    cases bare
    rfl
  · rw [if_pos optional]

theorem distinct_product : ((instanceFields (plan.product "create" stamp place)).map (·.name)).Nodup := by
  have names : (plan.owner.fields.map handOver).map (·.name) = plan.owner.fields.map (·.name) := by
    rw [List.map_map]
    exact List.map_congr_left fun field _ => name_handOver field
  exact (names ▸ sound.distinct).sublist (List.filter_sublist.map _)

theorem handed_over {field : BuilderField} (held : field ∈ plan.fields.held) :
    ∃ written ∈ instanceFields (plan.product "create" stamp place),
      written.name = field.name ∧ written.type = field.type ∧ written.initial = none := by
  have each {role : FieldRole} (listed : field ∈ heldFields plan.owner role) (own : role = .required ∨ role = .optional) :
      ∃ written ∈ instanceFields (plan.product "create" stamp place),
        written.name = field.name ∧ written.type = field.type ∧ written.initial = none := by
    obtain ⟨declared, there, rfl, whole⟩ := Plain.mem_heldFields listed
    obtain ⟨same, bound⟩ := handOver_eq own
    refine ⟨handOver declared, List.mem_filter.mpr ⟨List.mem_map_of_mem (List.mem_of_getElem? there), ?_⟩, ?_⟩
    · rw [same]
      change (!declared.isStatic) = true
      rw [bound]
      rfl
    · rw [same, whole]
      exact ⟨rfl, rfl, rfl⟩
  rw [BuilderFields.held, sound.required, sound.optional] at held
  rcases List.mem_append.mp held with required | optional
  · exact each required (.inl rfl)
  · exact each optional (.inr rfl)

omit sound in
theorem copies_builderConstructor :
    Copies (plan.builderConstructor.restamp stamp) "builder" (plan.fields.held.map (·.name)) where
  parameters := ⟨_, rfl⟩
  body := by
    rw [List.map_map]
    rfl
  simple := Text.split_of_not_mem (by decide)

/-- An object that is built holds what its builder was given. -/
theorem holds_build {address : Address} {given : String → Value}
    (awaits : plan.Awaits stamp place outer inner world address given) (fuel : Nat) :
    ∃ built after, callMethod (fuel + 3) (.ref address) "build" [] world = (.ok (.ref built), after) ∧
      plan.Housed stamp place after.classes outer inner ∧
      (∃ state, after.instance? built = some state ∧ state.type = outer) ∧
      ∀ field ∈ plan.fields.held, after.field? built field.name = some (given field.name) := by
  obtain ⟨builder, there, own⟩ := awaits.object
  let inside := world.atDepth (world.depth + 1)
  let born := world.classes.born outer {}
  let made := inside.grown (.ofClass born)
  let values := initials (instanceFields (plan.product "create" stamp place)) fun field =>
    startValue field.type field.initial
  have present : inside.instance? address = some builder := there
  have apart : address ≠ inside.frontier := by
    intro same
    have taken := World.instance?_eq_some.mp present
    rw [same, World.get?_frontier] at taken
    cases taken
  have evaluated : ∀ field ∈ instanceFields (plan.product "create" stamp place), ∀ e, field.initial = some e →
      ∀ world, outcome (eval (performer fuel) e) ({ type := outer, self := some inside.frontier }, world) =
        (.ok (startValue field.type field.initial), ({ type := outer, self := some inside.frontier }, world)) := by
    intro field listed e initial current
    obtain ⟨declared, among, rfl⟩ := List.mem_map.mp (List.mem_filter.mp listed).1
    have literal : ∃ value, e = .literal value := by
      rw [handOver] at initial
      split at initial
      · cases initial
      · exact sound.owner.literal declared among e initial
    obtain ⟨value, rfl⟩ := literal
    rw [initial]
    exact outcome_evalLiteral ..
  have free : ∀ field ∈ plan.fields.held,
      (made.putFields inside.frontier values).field? inside.frontier field.name = some (.zero field.type) := by
    intro field held
    obtain ⟨written, listed, name, type, bare⟩ := sound.handed_over held
    rw [World.field?_putFields (World.instance?_grown_frontier ..), ← name,
      lastGiven_initials sound.distinct_product listed, bare, Option.map_none, Option.none_or, World.field?,
      World.instance?_grown_frontier, Option.bind_some]
    change List.lookup written.name (initialFields world.classes outer) = _
    rw [initialFields_eq awaits.housed.own sound.distinct_product, lookup_zeros sound.distinct_product listed, type]
  have constructed : performer (fuel + 1) (.runConstructor outer inside.frontier [.ref address]) made = _ :=
    runConstructor_copies (fun field => startValue field.type field.initial) awaits.housed.own rfl sound.owner.initializers
    copies_builderConstructor apart evaluated
    (List.forall_mem_map.mpr fun field held => World.field?_grown_of_some _ _ (awaits.holds field held) _)
    (List.forall_mem_map.mpr fun field held =>
      ⟨_, free field held, field.type, sound.ofKind_zero held, awaits.kinds field held⟩)
  have built : performer (fuel + 2) (.construct outer [.ref address] {}) inside = (.ok (.ref inside.frontier), _) :=
    construct_eq awaits.housed.own
    (by change (plan.owner.kind == .interface) = false; rw [sound.owner.kind]; rfl) sound.concrete
    (prepare_begun awaits.begun) constructed
  let method := plan.buildStep.implementation.restamp stamp
  let started := startFrame inner method address
  have meant : resolveType inside.classes started plan.owner.selfType.name = some (.user outer) :=
    (resolveType_simple inside.classes rfl sound.simple_owner).trans
      (awaits.housed.resolve_outer sound.simple_owner builderName_ne)
  have alone : creationFor inside started outer = {} := by
    have nesting : (inside.classes.get outer).nesting = .topLevel := awaits.housed.own.nesting
    rw [creationFor, nesting]
  have self : outcome (evalAll (performer (fuel + 2)) [.self]) (started, inside) =
      (.ok [.ref address], (started, inside)) := by
    have itself : outcome (eval (performer (fuel + 2)) .self) (started, inside) =
        (.ok (.ref address), (started, inside)) := outcome_evalSelf rfl
    simp only [evalAll_cons, evalAll_nil, outcome_bind, itself, proceed_ok, outcome_pure]
  have gives := outcome_make self meant (by rw [alone]; exact built)
  have ends := (outcome_execAll_single (.ofPerformer (performer (fuel + 2))) (fuel + 2) _ (started, inside)).trans
    (outcome_returns gives)
  have room : world.depth < depthLimit := by rw [awaits.depth]; decide
  have bound : method.isStatic = false := (bound_implementation .build).2
  have ran := performer_invoke_bare bound rfl room ends
  rw [callResult, coerce_ref] at ran
  have answered : world.classes.method? builder.type "build" 0 = some (inner, method) := by
    rw [own.type]
    exact (awaits.housed.last.method? "build" 0).trans (congrArg (Option.map (inner, ·)) sound.find_build)
  obtain ⟨fields, object⟩ := World.instance?_putFields
    (World.instance?_grown_frontier ..)
  refine ⟨inside.frontier, _, settle_ok ((dispatch_own there answered).trans ran), ?_, ?_, ?_⟩
  · simp only [World.classes_atDepth, World.classes_putFields]
    exact awaits.housed
  · obtain ⟨fields', object'⟩ := World.instance?_putFields object
    exact ⟨_, object', rfl⟩
  · intro field held
    rw [World.field?_atDepth, World.field?_putFields object, lastGiven, ← List.map_reverse,
      List.lookup_graph given (List.mem_reverse.mpr (List.mem_map_of_mem held))]
    rfl

end Sound

end BuilderPlan

end JavaWeave.Weave
