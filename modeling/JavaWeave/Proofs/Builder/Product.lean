import JavaWeave.Proofs.Builder.Protocol
import JavaWeave.Proofs.Syntax.Straight

namespace JavaWeave.Weave

open Syntax

theorem leaves_lowering (span : Option Span) (context : String) : (lowering span context).Leaves where
  expression _ _ _ := rfl
  statement _ _ straight := by cases straight <;> rfl

/-- What is written into a class comes from the place of its annotation. -/
def stampAt (span : Option Span) (origin : Origin) : Origin := origin.stamp span

/-- An edit that carries code without classes, or nothing. -/
inductive StraightEdit : Edit → Prop where
  | method {method : Method} (body : ∀ s ∈ method.body, StraightStep s) : StraightEdit (.injectMethod method)
  | constructor {constructor : Constructor} (body : ∀ s ∈ constructor.body, StraightStep s) :
      StraightEdit (.injectConstructor constructor)
  | type {type : TypeDecl} (straight : StraightType type) (none : type.memberTypes = []) :
      StraightEdit (.injectType type)
  | initializer (field : Nat) : StraightEdit (.removeFieldInitializer field)

/-- The edit with new origins. -/
def Edit.restamp (stamp : Origin → Origin) : Edit → Edit
  | .injectMethod method => .injectMethod (method.restamp stamp)
  | .injectConstructor constructor => .injectConstructor (constructor.restamp stamp)
  | .injectType type => .injectType (type.restamp stamp)
  | edit => edit

theorem lower_straight (type : TypeDecl) (span : Option Span) (all : List Edit) {edit : Edit}
    (straight : StraightEdit edit) : edit.lower type span all = .ok (edit.restamp (stampAt span)) := by
  cases straight with
  | method body =>
    rw [Edit.lower, lowerMethod, Reviser.onMethod_straight (leaves_lowering ..) _ body]
    rfl
  | constructor body =>
    rw [Edit.lower, lowerConstructor, Reviser.onConstructor_straight (leaves_lowering ..) _ body]
    rfl
  | @type decl straight none =>
    have lowered : lowerType span decl = .ok (decl.restamp (stampAt span)) := by
      rw [lowerType, Reviser.onType_straight (leaves_lowering ..) _ straight, none]
      change Except.ok { decl.restamp (stampAt span) with memberTypes := [] } = _
      rw [TypeDecl.restamp, none]
    rw [Edit.lower, lowered]
    rfl
  | initializer => rfl

/-- The fields of a class that have a role, as a builder holds them that sets all of them as a whole. -/
def heldFields (type : TypeDecl) (role : FieldRole) : List BuilderField :=
  (indexed type.fields).filterMap fun (index, field) =>
    if fieldRole [] .plain field = role then
      some { index, name := field.name, type := field.type, initial := field.initial, shape := .plain }
    else none

/-- A class with nothing but fields, each with a literal for an initial value or with none. -/
structure FieldClass (type : TypeDecl) : Prop where
  kind : type.kind = .plain
  superclass : type.superclass = none
  constants : type.constants = []
  initializers : type.initializers = []
  constructors : type.constructors = []
  methods : type.methods = []
  memberTypes : type.memberTypes = []
  literal : ∀ field ∈ type.fields, ∀ e, field.initial = some e → ∃ value, e = .literal value

/-- A plan for such a class. -/
structure BuilderPlan.Plain (plan : BuilderPlan) : Prop where
  owner : FieldClass plan.owner
  required : plan.fields.required = heldFields plan.owner .required
  optional : plan.fields.optional = heldFields plan.owner .optional

namespace BuilderPlan

section Straight

variable {plan : BuilderPlan}

theorem straight_zero (type : JavaType) : Straight type.zero := by
  rw [JavaType.zero]
  split
  · split <;> exact .literal _
  · exact .literal _

theorem straight_resetValue (field : BuilderField) : Straight (plan.resetValue field) := by
  rw [resetValue]
  split
  · exact .callOn (.name _) nofun
  · exact straight_zero _

theorem straight_setOfSelf {name : String} {e : Expression} (inner : Straight e) :
    StraightStep (.set (.ofSelf name) e) := .expression (.set (.field (.this none)) inner)

theorem straight_fluent {signature : Method} {body : List Statement} (each : ∀ s ∈ body, StraightStep s) :
    ∀ s ∈ (Step.fluent signature body).body, StraightStep s := by
  intro s member
  rcases List.mem_append.mp member with member | member
  · exact each s member
  · cases List.mem_singleton.mp member
    exact .returns (.this none)

/-- The setter of a field that is given as a whole. -/
def setter (plan : BuilderPlan) (field : BuilderField) (returns : JavaType) : Step :=
  .fluent { returnType := returns, name := plan.setterName field.name,
            parameters := [.final field.type field.name] }
    [.set (.ofSelf field.name) (.name field.name)]

/-- The steps of a builder for a class of fields: setters, the one that builds, and the one that starts again. -/
inductive PlainStep (plan : BuilderPlan) : Step → Prop where
  | setter {field : BuilderField} (held : field ∈ plan.fields.held) (returns : JavaType) :
      PlainStep plan (plan.setter field returns)
  | build : PlainStep plan plan.buildStep
  | reset : PlainStep plan plan.resetStep

theorem PlainStep.body {step : Step} (plainStep : plan.PlainStep step) : ∀ s ∈ step.body, StraightStep s := by
  cases plainStep with
  | setter =>
    refine straight_fluent fun s member => ?_
    cases List.mem_singleton.mp member
    exact straight_setOfSelf (.name _)
  | build =>
    intro s member
    cases List.mem_singleton.mp member
    exact .returns (.make fun e member => by cases List.mem_singleton.mp member; exact .this none)
  | reset =>
    refine straight_fluent fun s member => ?_
    obtain ⟨field, -, rfl⟩ := List.mem_map.mp member
    exact straight_setOfSelf (straight_resetValue field)

theorem PlainStep.declaration {step : Step} (plainStep : plan.PlainStep step) : step.declaration.body = [] := by
  cases plainStep <;> rfl

namespace Plain

variable (plain : plan.Plain)
include plain

theorem extensions : plan.extensions = { usable := [], rejected := [] } := by
  rw [BuilderPlan.extensions, plain.owner.methods]
  rfl

theorem shape {field : BuilderField} (held : field ∈ plan.fields.held) : field.shape = .plain := by
  rw [BuilderFields.held, plain.required, plain.optional] at held
  have each {role : FieldRole} (member : field ∈ heldFields plan.owner role) : field.shape = .plain := by
    obtain ⟨_, -, made⟩ := List.mem_filterMap.mp member
    simp only [Option.ite_none_right_eq_some, Option.some.injEq] at made
    rw [← made.2]
  exact (List.mem_append.mp held).elim each each

theorem setterSteps {field : BuilderField} (held : field ∈ plan.fields.held) (returns : JavaType) :
    plan.setterSteps field returns = [plan.setter field returns] := by
  rw [BuilderPlan.setterSteps, plain.shape held]
  rfl

theorem plainStep {interface : StepInterface} (listed : interface ∈ plan.allInterfaces []) {step : Step}
    (member : step ∈ interface.steps) : plan.PlainStep step := by
  rw [allInterfaces, plain.extensions] at listed
  rcases List.mem_append.mp listed with listed | listed
  · obtain ⟨place, found⟩ := List.getElem?_of_mem listed
    rw [getElem?_requiredInterfaces] at found
    obtain ⟨field, there, rfl⟩ := Option.map_eq_some_iff.mp found
    have held : field ∈ plan.fields.held := List.mem_append_left _ (List.mem_of_getElem? there)
    simp only [List.filter_nil, ite_self, List.map_nil, List.nil_append, plain.setterSteps held] at member
    cases List.mem_singleton.mp member
    exact .setter held _
  · cases List.mem_singleton.mp listed
    simp only [optionalInterface, List.filter_nil, List.map_nil, List.append_nil] at member
    rcases List.mem_append.mp member with member | member
    · rcases List.mem_append.mp member with member | member
      · obtain ⟨field, optional, member⟩ := List.mem_flatMap.mp member
        have held : field ∈ plan.fields.held := List.mem_append_right _ optional
        rw [plain.setterSteps held] at member
        cases List.mem_singleton.mp member
        exact .setter held _
      · cases List.mem_singleton.mp member
        exact .build
    · split at member
      · cases List.mem_singleton.mp member
        exact .reset
      · cases member

/-- Each field that is held has its setter. -/
theorem exists_setter {field : BuilderField} (held : field ∈ plan.fields.held) :
    ∃ interface ∈ plan.allInterfaces [], ∃ returns, plan.setter field returns ∈ interface.steps := by
  rcases List.mem_append.mp held with required | optional
  · obtain ⟨place, there⟩ := List.getElem?_of_mem required
    have found := plan.getElem?_requiredInterfaces plan.extensions.usable place
    rw [there, Option.map_some] at found
    refine ⟨_, List.mem_append_left _ (List.mem_of_getElem? found), plan.stepType (place + 1), ?_⟩
    rw [plain.setterSteps held]
    exact List.mem_append_right _ List.mem_cons_self
  · refine ⟨_, List.mem_append_right _ List.mem_cons_self, plan.optionalType, ?_⟩
    have own : plan.setter field plan.optionalType ∈ plan.setterSteps field plan.optionalType := by
      rw [plain.setterSteps held]
      exact List.mem_cons_self
    simp only [optionalInterface, List.mem_append, List.mem_flatMap]
    exact .inl (.inl (.inl (.inl ⟨field, optional, own⟩)))

omit plain in
theorem exists_build : ∃ interface ∈ plan.allInterfaces [], plan.buildStep ∈ interface.steps := by
  refine ⟨_, List.mem_append_right _ List.mem_cons_self, ?_⟩
  simp [optionalInterface]

omit plain in
theorem exists_reset (allowed : plan.allowReset = true) (forwarding : List Step) :
    ∃ interface ∈ plan.allInterfaces forwarding, plan.resetStep ∈ interface.steps := by
  refine ⟨_, List.mem_append_right _ List.mem_cons_self, ?_⟩
  simp [optionalInterface, allowed]

/-- The new types of the class are without classes in their code. -/
theorem straight_interfaceDecl {interface : StepInterface} (listed : interface ∈ plan.allInterfaces []) :
    StraightType (plan.interfaceDecl interface) where
  constants := rfl
  initializers := rfl
  fields := nofun
  constructors := nofun
  methods method member s inside := by
    obtain ⟨step, own, rfl⟩ := List.mem_map.mp member
    rw [(plain.plainStep listed own).declaration] at inside
    cases inside

theorem straight_initialValue {field : BuilderField} (held : field ∈ plan.fields.held) {e : Expression}
    (initial : plan.initialValue field = some e) : Straight e := by
  have each {role : FieldRole} (member : field ∈ heldFields plan.owner role) :
      ∀ e, field.initial = some e → Straight e := by
    obtain ⟨⟨index, declared⟩, listed, made⟩ := List.mem_filterMap.mp member
    simp only [Option.ite_none_right_eq_some, Option.some.injEq] at made
    intro e initial
    rw [← made.2] at initial
    obtain ⟨value, rfl⟩ := plain.owner.literal declared (List.mem_of_getElem? (mem_indexed.mp listed)) e initial
    exact .literal value
  have own : ∀ e, field.initial = some e → Straight e := by
    rw [BuilderFields.held, plain.required, plain.optional] at held
    exact (List.mem_append.mp held).elim each each
  rw [initialValue] at initial
  split at initial
  · cases initial
    exact straight_resetValue field
  · exact own e initial

theorem straight_builderDecl : StraightType (plan.builderDecl (plan.allInterfaces [])) where
  constants := rfl
  initializers := rfl
  fields declared member e initial := by
    obtain ⟨field, held, rfl⟩ := List.mem_map.mp member
    exact plain.straight_initialValue held initial
  constructors := nofun
  methods method member s inside := by
    obtain ⟨interface, listed, member⟩ := List.mem_flatMap.mp member
    obtain ⟨step, own, rfl⟩ := List.mem_map.mp member
    exact (plain.plainStep listed own).body s inside

omit plain in
theorem mem_heldFields {role : FieldRole} {field : BuilderField} (held : field ∈ heldFields plan.owner role) :
    ∃ declared, plan.owner.fields[field.index]? = some declared ∧ fieldRole [] .plain declared = role ∧
      field = { index := field.index, name := declared.name, type := declared.type, initial := declared.initial,
                shape := .plain } := by
  obtain ⟨⟨index, declared⟩, listed, made⟩ := List.mem_filterMap.mp held
  simp only [Option.ite_none_right_eq_some, Option.some.injEq] at made
  obtain ⟨own, rfl⟩ := made
  exact ⟨declared, mem_indexed.mp listed, own, rfl⟩

omit plain in
theorem heldFields_of {role : FieldRole} {index : Nat} {declared : Field}
    (there : plan.owner.fields[index]? = some declared) (own : fieldRole [] .plain declared = role) :
    { index, name := declared.name, type := declared.type, initial := declared.initial, shape := .plain } ∈
      heldFields plan.owner role :=
  List.mem_filterMap.mpr ⟨(index, declared), mem_indexed.mpr there, by simp [own]⟩

/-- The edits of a builder for a class of fields. -/
theorem edits_eq (entry : String) :
    plan.edits entry [] = [Edit.injectConstructor plan.builderConstructor, Edit.injectMethod (plan.entryMethod entry)]
      ++ (plan.fields.optional.flatMap plan.initialEdits
      ++ ((plan.allInterfaces []).map (fun interface => Edit.injectType (plan.interfaceDecl interface))
      ++ [Edit.injectType (plan.builderDecl (plan.allInterfaces []))])) := by
  have free : plan.owner.hasMethod entry (some 0) = false := by
    rw [TypeDecl.hasMethod, TypeDecl.method?, plain.owner.methods]
    rfl
  rw [edits, constructorEdit, plain.owner.constructors, entryEdits, free, plain.extensions]
  simp [indexed, List.map_eq_flatMap]

theorem straight_edits (entry : String) : ∀ edit ∈ plan.edits entry [], StraightEdit edit := by
  rw [plain.edits_eq]
  intro edit member
  simp only [List.mem_append, List.mem_cons, List.not_mem_nil, or_false, List.mem_flatMap, List.mem_map] at member
  rcases member with (rfl | rfl) | ⟨field, optional, member⟩ | ⟨interface, listed, rfl⟩ | rfl
  · refine .constructor fun s inside => ?_
    obtain ⟨field, -, rfl⟩ := List.mem_map.mp inside
    exact straight_setOfSelf (.field (.name _))
  · refine .method fun s inside => ?_
    cases List.mem_singleton.mp inside
    exact .returns (.make nofun)
  · rw [initialEdits] at member
    cases initial : field.initial with
    | none =>
      rw [initial] at member
      cases member
    | some e =>
      rw [initial] at member
      rcases List.mem_append.mp member with member | member
      · split at member
        · cases List.mem_singleton.mp member
          refine .method fun s inside => ?_
          cases List.mem_singleton.mp inside
          rw [plain.optional] at optional
          obtain ⟨declared, there, -, same⟩ := mem_heldFields optional
          rw [same] at initial
          obtain ⟨value, rfl⟩ := plain.owner.literal declared (List.mem_of_getElem? there) e initial
          exact .returns (.literal value)
        · cases member
      · cases List.mem_singleton.mp member
        exact .initializer _
  · exact .type (plain.straight_interfaceDecl listed) rfl
  · exact .type plain.straight_builderDecl rfl

end Plain

/-- The methods that give the initial values, where they are needed again and again. -/
def defaultMethods (plan : BuilderPlan) : List Method :=
  if plan.allowReset then plan.fields.optional.filterMap fun field => field.initial.map (plan.defaultMethod field)
  else []

/-- The types that come into a class of fields. -/
def memberTypes (plan : BuilderPlan) : List TypeDecl :=
  (plan.allInterfaces []).map plan.interfaceDecl ++ [plan.builderDecl (plan.allInterfaces [])]

end Straight

end BuilderPlan

/-- The field of a class that has a builder. The initial value of an optional field goes to the builder. -/
def handOver (field : Field) : Field :=
  if fieldRole [] .plain field = .optional then { field with initial := none } else field

/-- The class of fields with its builder, its annotation used up. -/
def BuilderPlan.product (plan : BuilderPlan) (entry : String) (stamp : Origin → Origin) (place : Nat) : TypeDecl :=
  { plan.owner with
    annotations := keepPlaces (fun other => !(other == place)) plan.owner.annotations
    fields := plan.owner.fields.map handOver
    constructors := [plan.builderConstructor.restamp stamp]
    methods := (plan.entryMethod entry :: plan.defaultMethods).map (·.restamp stamp)
    memberTypes := plan.memberTypes.map (·.restamp stamp) }

namespace BuilderPlan.Plain

variable {plan : BuilderPlan} (plain : plan.Plain)
include plain

/-- The parts that the edits bring, in their order. -/
theorem filterMap_edits {β : Type} (part? : Edit → Option β) (entry : String) (stamp : Origin → Origin) :
    ((plan.edits entry []).map (Edit.restamp stamp)).filterMap part? =
      (part? (.injectConstructor (plan.builderConstructor.restamp stamp))).toList ++
      (part? (.injectMethod ((plan.entryMethod entry).restamp stamp))).toList ++
      plan.fields.optional.flatMap (fun field => field.initial.toList.flatMap fun e =>
        (if plan.allowReset then (part? (.injectMethod ((plan.defaultMethod field e).restamp stamp))).toList else []) ++
          (part? (.removeFieldInitializer field.index)).toList) ++
      plan.memberTypes.filterMap fun type => part? (.injectType (type.restamp stamp)) := by
  have single (edit : Edit) : [edit].filterMap part? = (part? edit).toList := by
    cases found : part? edit <;> simp [found]
  have each (field : BuilderField) : ((plan.initialEdits field).map (Edit.restamp stamp)).filterMap part? =
      field.initial.toList.flatMap fun e =>
        (if plan.allowReset then (part? (.injectMethod ((plan.defaultMethod field e).restamp stamp))).toList else []) ++
          (part? (.removeFieldInitializer field.index)).toList := by
    rw [initialEdits]
    cases field.initial with
    | none => rfl
    | some e =>
      cases plan.allowReset <;>
        simp [Edit.restamp, ← single, ← List.filterMap_append]
  have pair (first second : Edit) : [first, second].filterMap part? = (part? first).toList ++ (part? second).toList := by
    rw [← single, ← single, ← List.filterMap_append]
    rfl
  have types : (((plan.allInterfaces []).map (fun interface => Edit.injectType (plan.interfaceDecl interface))
      ++ [Edit.injectType (plan.builderDecl (plan.allInterfaces []))]).map (Edit.restamp stamp)).filterMap part? =
        plan.memberTypes.filterMap fun type => part? (.injectType (type.restamp stamp)) := by
    have listed : (plan.allInterfaces []).map (fun interface => Edit.injectType (plan.interfaceDecl interface))
        ++ [Edit.injectType (plan.builderDecl (plan.allInterfaces []))] = plan.memberTypes.map Edit.injectType := by
      rw [memberTypes, List.map_append, List.map_map]
      rfl
    rw [listed, List.map_map, List.filterMap_map]
    rfl
  rw [plain.edits_eq, List.map_append, List.filterMap_append, List.map_append, List.filterMap_append, types,
    List.map_flatMap, List.filterMap_flatMap, funext each, ← List.append_assoc]
  exact congrArg (· ++ _ ++ _) (pair _ _)

omit plain in
/-- The edits of a field take its initial value. -/
theorem foldl_onField (index : Nat) (edits : List Edit) (field : Field) :
    (editsOf (.field index) edits).foldl Edit.onField field =
      if edits.any (fun edit => edit.subject? = some (.field index)) then { field with initial := none } else field := by
  induction edits generalizing field with
  | nil => rfl
  | cons edit edits inductionHypothesis =>
    rw [editsOf_cons, List.any_cons]
    by_cases own : edit.subject? = some (.field index)
    · obtain ⟨_, rfl⟩ : ∃ place, edit = .removeFieldInitializer place := by
        cases edit with
        | removeFieldInitializer place =>
          cases own
          exact ⟨_, rfl⟩
        | _ => cases own
      rw [if_pos own, List.foldl_cons, inductionHypothesis]
      simp [own, Edit.onField]
    · simp only [own, if_false, decide_false, Bool.false_or, inductionHypothesis]

/-- Edits of fields are there for the optional ones that have an initial value. -/
theorem any_edits (entry : String) (stamp : Origin → Origin) (index : Nat) :
    ((plan.edits entry []).map (Edit.restamp stamp)).any (fun edit => edit.subject? = some (.field index)) = true ↔
      ∃ field ∈ plan.fields.optional, field.initial.isSome ∧ field.index = index := by
  have own (edit : Edit) : (edit.restamp stamp).subject? = edit.subject? := by cases edit <;> rfl
  have initial (field : BuilderField) :
      (∃ edit ∈ plan.initialEdits field, edit.subject? = some (.field index)) ↔
        field.initial.isSome ∧ field.index = index := by
    rw [initialEdits]
    cases field.initial <;> cases plan.allowReset <;> simp [Edit.subject?]
  simp only [List.any_map, List.any_eq_true, Function.comp_apply, own, decide_eq_true_eq, plain.edits_eq,
    List.mem_append, List.mem_flatMap, or_and_right, exists_or, List.mem_cons, List.mem_map, List.not_mem_nil]
  constructor
  · rintro ((⟨_, rfl, other⟩ | ⟨_, rfl, other⟩ | ⟨_, ⟨⟩, _⟩) | ⟨edit, ⟨field, optional, member⟩, same⟩ |
      ⟨_, ⟨_, -, rfl⟩, other⟩ | ⟨_, rfl, other⟩ | ⟨_, ⟨⟩, _⟩)
    · cases other
    · cases other
    · exact ⟨field, optional, (initial field).mp ⟨edit, member, same⟩⟩
    · cases other
    · cases other
  · rintro ⟨field, optional, given⟩
    obtain ⟨edit, member, same⟩ := (initial field).mpr given
    exact .inr (.inl ⟨edit, ⟨field, optional, member⟩, same⟩)

/-- The fields of the class lose what goes to the builder. -/
theorem fields_product (entry : String) (stamp : Origin → Origin) (place : Nat)
    (removed : removedSites (some (.type place)) ((plan.edits entry []).map (Edit.restamp stamp)) = [.type place]) :
    plan.owner.fields.mapIdx (revisedField (removedSites (some (.type place)) ((plan.edits entry []).map
      (Edit.restamp stamp))) ((plan.edits entry []).map (Edit.restamp stamp))) = plan.owner.fields.map handOver := by
  apply List.ext_getElem?
  intro index
  rw [List.getElem?_mapIdx, List.getElem?_map]
  cases there : plan.owner.fields[index]? with
  | none => rfl
  | some field =>
    have unmoved : keepPlaces (fun other => !([.type place] : List Site).contains (.field index other))
        field.annotations = field.annotations := keepPlaces_of_all _ (by simp)
    simp only [Option.map_some, revisedField, removed, unmoved, foldl_onField, handOver]
    congr 1
    by_cases optional : fieldRole [] .plain field = .optional
    · rw [if_pos optional]
      split
      · rfl
      next without =>
        have bare : field.initial = none := Option.not_isSome_iff_eq_none.mp fun given =>
          without ((plain.any_edits entry stamp index).mpr
            ⟨_, by rw [plain.optional]; exact heldFields_of there optional, given, rfl⟩)
        rw [← bare]
    · have unchanged : ¬ ((plan.edits entry []).map (Edit.restamp stamp)).any
          (fun edit => edit.subject? = some (.field index)) = true := by
        intro found
        obtain ⟨held, member, -, rfl⟩ := (plain.any_edits entry stamp index).mp found
        rw [plain.optional] at member
        obtain ⟨declared, other, own, -⟩ := mem_heldFields member
        rw [there] at other
        cases other
        exact optional own
      rw [if_neg optional, if_neg unchanged]
      cases field
      rfl

theorem assembled_product (entry : String) (stamp : Origin → Origin) (place : Nat) :
    assembled plan.owner (some (.type place)) ((plan.edits entry []).map (Edit.restamp stamp)) =
      plan.product entry stamp place := by
  have nothing (α : Type) (fields : List BuilderField) :
      fields.flatMap (fun field => field.initial.toList.flatMap fun _ => ([] : List α)) = [] := by
    simp [List.flatMap_eq_nil_iff]
  have parts {β : Type} (part? : Edit → Option β) := plain.filterMap_edits part? entry stamp
  have newConstructors := parts Edit.newConstructor?
  have newMethods := parts Edit.newMethod?
  have newTypes := parts Edit.newType?
  have newFields := parts Edit.newField?
  have newInitializers := parts Edit.newInitializer?
  have newConstants := parts Edit.newConstants?
  have removed := parts Edit.removedSite?
  simp only [Edit.newConstructor?, Edit.newMethod?, Edit.newType?, Edit.newField?, Edit.newInitializer?,
    Edit.newConstants?, Edit.removedSite?, Option.toList_none, Option.toList_some, ite_self, List.append_nil,
    List.nil_append, nothing, List.filterMap_none, List.filterMap_eq_map']
    at newConstructors newMethods newTypes newFields newInitializers newConstants removed
  have kept : conversion? ((plan.edits entry []).map (Edit.restamp stamp)) = none := by
    rw [conversion?, ← List.head?_filterMap, List.filterMap_reverse, newConstants]
    rfl
  have sites : removedSites (some (.type place)) ((plan.edits entry []).map (Edit.restamp stamp)) =
      [.type place] := by
    rw [removedSites, removed]
    rfl
  have defaults : plan.fields.optional.flatMap (fun field => field.initial.toList.flatMap fun e =>
      if plan.allowReset then [(plan.defaultMethod field e).restamp stamp] else []) =
        plan.defaultMethods.map (·.restamp stamp) := by
    rw [defaultMethods]
    cases plan.allowReset with
    | false => simp
    | true =>
      rw [if_pos rfl, List.map_filterMap, List.filterMap_eq_flatMap_toList]
      congr 1
      funext field
      cases field.initial <;> rfl
  have own := plain.owner
  rw [assembled, product, kept, newConstructors, newMethods, newTypes, newFields, newInitializers,
    plain.fields_product _ _ _ sites, sites, own.constructors, own.methods, own.memberTypes, own.initializers,
    own.constants, defaults]
  simp [beq_eq_decide]

/-- The class goes through with its builder. -/
theorem commit_eq (span : Option Span) (entry : String) {place : Nat} (there : place < plan.owner.annotations.length) :
    commit plan.owner span (some (.type place)) (plan.edits entry []) =
      .ok (plan.product entry (stampAt span) place) := by
  refine commit_eq_ok.mpr ⟨?_, ?_, (plan.edits entry []).map (Edit.restamp (stampAt span)), ?_, ?_⟩
  · rintro _ ⟨⟩
    simp [Site.check, checkIndex, there]
  · intro edit member
    cases plain.straight_edits entry edit member with
    | initializer index =>
      have taken : ((plan.edits entry []).map (Edit.restamp id)).any
          (fun edit => edit.subject? = some (.field index)) = true :=
        List.any_eq_true.mpr ⟨_, List.mem_map_of_mem member, by simp [Edit.restamp, Edit.subject?]⟩
      obtain ⟨field, optional, -, rfl⟩ := (plain.any_edits entry id index).mp taken
      rw [plain.optional] at optional
      obtain ⟨declared, there, -, -⟩ := mem_heldFields optional
      obtain ⟨bound, -⟩ := List.getElem?_eq_some_iff.mp there
      simp [Edit.check, checkIndex, bound]
    | _ => rfl
  · rw [List.map_map]
    exact List.map_congr_left fun edit member => lower_straight _ _ _ (plain.straight_edits entry edit member)
  · exact (plain.assembled_product entry _ place).symm

end BuilderPlan.Plain

end JavaWeave.Weave
