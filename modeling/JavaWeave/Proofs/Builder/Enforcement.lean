import JavaWeave.Proofs.Builder.Protocol

/-! Whoever calls nothing but what the interfaces of a builder declare, each method on what the call before
returned, gives all required fields before building, and again after each reset. -/

namespace JavaWeave.Weave

open Syntax

theorem Chain.reaches {interfaces : List TypeDecl} {type : JavaType} {calls : List Method}
    (chain : Chain interfaces type calls) : ∃ interface ∈ interfaces, interface.name = type.name := by
  cases chain with
  | built declared reached => exact ⟨_, declared, reached⟩
  | called declared reached => exact ⟨_, declared, reached⟩

theorem exists_of_forall₂ {α β : Type} {relation : α → β → Prop} {items : List α} {others : List β} {other : β}
    (related : List.Forall₂ relation items others) (member : other ∈ others) :
    ∃ item ∈ items, relation item other := by
  induction related with
  | nil => cases member
  | cons first _ inductionHypothesis =>
    rcases List.mem_cons.mp member with rfl | member
    · exact ⟨_, List.mem_cons_self, first⟩
    · obtain ⟨item, listed, holds⟩ := inductionHypothesis member
      exact ⟨item, List.mem_cons_of_mem _ listed, holds⟩

theorem sinceReset_of_none {calls : List Method} (none : calls.any isReset = false) : sinceReset calls = calls := by
  cases calls with
  | nil => rfl
  | cons method rest =>
    rw [List.any_cons, Bool.or_eq_false_iff] at none
    rw [sinceReset, none.1, none.2]
    rfl

section Gives

variable {leading : String} {type : TypeDecl} {required fields : List Field} {calls : List Method}

theorem Gives.cons (gives : Gives leading type required fields calls) {field : Field} {method : Method}
    (sets : Sets leading field method) : Gives leading type required (field :: fields) (method :: calls) := by
  rcases gives with given | ⟨extension, called, all⟩
  · exact .inl (.cons sets given)
  · exact .inr ⟨extension, List.mem_cons_of_mem _ called, all⟩

end Gives

/-- An extension that gives the required fields assigns each of them. -/
theorem assigns_of_judge {type : TypeDecl} {required : List String} {method : Method}
    (judged : judgeExtension type required method = .usable true) {name : String} (member : name ∈ required) :
    Assigns method.body name := by
  rw [judgeExtension] at judged
  split at judged
  · cases judged
  simp only [List.partition_eq_filter_filter] at judged
  split at judged
  · cases judged
  split at judged
  · rename_i noneMissing
    have assigned : name ∈ (assignedNames method.body).filter type.hasField := by
      have := List.filter_eq_nil_iff.mp (List.isEmpty_iff.mp noneMissing) name member
      simpa using this
    obtain ⟨visit, visited, named⟩ := List.mem_filterMap.mp (List.mem_filter.mp assigned).1
    obtain ⟨statement, own, visited⟩ := List.mem_flatMap.mp visited
    refine ⟨statement, own, visit, visited, ?_⟩
    split at named
    · rename_i e met
      simp only [Option.ite_none_right_eq_some, Option.isNone_iff_eq_none] at named
      obtain ⟨outside, named⟩ := named
      refine ⟨outside, ?_⟩
      rw [met]
      unfold assignedName? at named
      split at named
      · cases named
        exact ⟨_, _, .inl rfl⟩
      · cases named
        exact ⟨_, _, .inr rfl⟩
      · cases named
    · cases named
  · cases judged

section Run

variable {plan : BuilderPlan} {entry : String} {type : TypeDecl} {interfaces : List TypeDecl} {builder : TypeDecl}

theorem Added.names {forwarding : List Step} (added : Added plan entry forwarding type interfaces builder) :
    interfaces.map (·.name) = plan.stepNames := by
  rw [← plan.allInterfaces_names forwarding, ← List.forall₂_eq_eq_eq, List.forall₂_map_left_iff,
    List.forall₂_map_right_iff]
  exact added.interfaces.flip.imp fun _ _ alike => alike.name

/-- The interface that a type names is the one that stands at its place. -/
theorem Added.planned (added : Added plan entry [] type interfaces builder) (distinct : plan.stepNames.Nodup)
    {place : Nat} {interface : TypeDecl} (declared : interface ∈ interfaces)
    (named : plan.stepNames[place]? = some interface.name) :
    ∃ planned, (plan.allInterfaces [])[place]? = some planned ∧ AlikeType (plan.interfaceDecl planned) interface := by
  obtain ⟨index, inside, rfl⟩ := List.getElem_of_mem declared
  have same : index = place := by
    rw [← added.names] at distinct named
    have length : index < (interfaces.map (·.name)).length := by rwa [List.length_map]
    refine (List.getElem?_inj length distinct).mp ?_
    rw [named, List.getElem?_map, List.getElem?_eq_getElem inside, Option.map_some]
  subst same
  obtain ⟨length, alike⟩ := List.forall₂_iff_get.mp added.interfaces
  have before : index < (plan.allInterfaces []).length := length ▸ inside
  exact ⟨_, List.getElem?_eq_getElem before, alike index before inside⟩

variable (added : Added plan entry [] type interfaces builder) (distinct : plan.stepNames.Nodup)
  (plain : ∀ field ∈ plan.fields.required, field.shape = .plain)
  (proper : ∀ method ∈ plan.owner.methods, annotated method.annotations extensionNote = true →
    method.name ≠ "build" ∧ method.name ≠ "reset")

include added distinct plain proper in
/-- One call: what an interface declares is one of the moves from its place. -/
theorem Added.moves {place : Nat} {interface : TypeDecl} (declared : interface ∈ interfaces)
    (named : plan.stepNames[place]? = some interface.name) {method : Method} (member : method ∈ interface.methods) :
    ∃ next, plan.Moves place method next ∧ method.returnType = plan.arrival next := by
  obtain ⟨planned, listed, alike⟩ := added.planned distinct declared named
  obtain ⟨stub, stubs, same⟩ := exists_of_forall₂ alike.methods member
  obtain ⟨step, steps, rfl⟩ := List.mem_map.mp stubs
  obtain ⟨next, moves, returns⟩ := BuilderPlan.moves_of_step plain proper listed steps
  exact ⟨next, moves.of_alike plan same, same.returnType.trans returns⟩

variable (other : plan.owner.name ∉ plan.stepNames) {fields : List Field}
  (agree : plan.fields.required.map (fun field => (field.name, field.type)) =
    fields.map fun field => (field.name, field.type))

include added distinct plain proper other agree in
/-- All calls up to the one that builds: what is still to be given at a place is given behind it, and everything is
given again behind a reset. -/
theorem Added.gives {place : Nat} (inside : place ≤ plan.lastPlace) {current : JavaType}
    (here : current.name = (plan.stepType place).name) {calls : List Method} (chain : Chain interfaces current calls) :
    Gives plan.leading plan.owner fields (if calls.any isReset then fields else fields.drop place)
      (sinceReset calls) := by
  have named : plan.stepNames[place]? = some current.name := by rw [here, plan.stepType_name inside]
  have length : fields.length = plan.lastPlace := by
    simpa [BuilderPlan.lastPlace] using (congrArg List.length agree).symm
  induction chain generalizing place with
  | @built current interface method declared reached optional member builds =>
    have last : place = plan.lastPlace := by
      have length : place < plan.stepNames.length := (List.getElem?_eq_some_iff.mp named).1
      refine (List.getElem?_inj length distinct).mp ?_
      rw [named, plan.getElem?_stepNames_lastPlace, ← reached, optional]
      rfl
    have goes : isReset method = false := by simp [isReset, builds.1]
    rw [List.any_cons, List.any_nil, goes, last, ← length, List.drop_length]
    exact .inl .nil
  | @called current interface method calls declared reached member rest inductionHypothesis =>
    obtain ⟨next, moves, returns⟩ := added.moves distinct plain proper declared (reached ▸ named) member
    cases next with
    | none =>
      obtain ⟨beyond, listed, name⟩ := rest.reaches
      rw [returns] at name
      exact absurd (added.names ▸ List.mem_map.mpr ⟨beyond, listed, name⟩) other
    | some next =>
      have ahead : next ≤ plan.lastPlace := moves.inside
      have given := inductionHypothesis ahead (by rw [returns]; rfl) (by rw [returns]; exact plan.stepType_name ahead)
      rw [sinceReset, List.any_cons]
      cases later : calls.any isReset with
      | true =>
        rw [Bool.or_true]
        rwa [later] at given
      | false =>
        rw [later, sinceReset_of_none later] at given
        cases moves with
        | @given _ field _ found name parameters =>
          have goes : isReset method = false := by
            rw [isReset, Bool.and_eq_false_iff, List.isEmpty_eq_false_iff]
            exact .inr fun none => by simp [none] at parameters
          obtain ⟨asked, listed, same⟩ : ∃ asked, fields[place]? = some asked ∧
              (asked.name, asked.type) = (field.name, field.type) := by
            have there := congrArg (·[place]?) agree
            simp only [List.getElem?_map, found, Option.map_some] at there
            exact Option.map_eq_some_iff.mp there.symm
          obtain ⟨sameName, sameType⟩ := Prod.mk.inj same
          obtain ⟨within, rfl⟩ := List.getElem?_eq_some_iff.mp listed
          rw [goes, Bool.or_false, List.drop_eq_getElem_cons within]
          exact given.cons ⟨by rw [name, sameName]; rfl, by rw [parameters, sameType]⟩
        | @replaced extension _ usable gives name parameters =>
          obtain ⟨own, noted, judged⟩ := BuilderPlan.mem_extensions usable
          have goes : isReset method = false := by simp [isReset, name, (proper _ own noted).2]
          rw [goes]
          have assigns (field : Field) (member : field ∈ fields) : Assigns extension.method.body field.name := by
            have named := congrArg (List.map Prod.fst) agree
            simp only [List.map_map, Function.comp_def] at named
            refine assigns_of_judge (gives ▸ judged) ?_
            rw [BuilderFields.requiredNames, named]
            exact List.mem_map.mpr ⟨field, member, rfl⟩
          exact .inr ⟨method, List.mem_cons_self, extension.method, own, noted, name, parameters, assigns,
            fun field member unhidden => (assigns field member).assignsField unhidden.2 unhidden.1⟩
        | kept stays unbuilt =>
          rw [stays, ← length, List.drop_length]
          exact .inl .nil
        | restarted again =>
          rw [again]
          exact given

include added distinct plain proper in
/-- An interface of a required field declares no method that builds. -/
theorem Added.not_isBuild {interface : TypeDecl} (declared : interface ∈ interfaces)
    (required : interface.name ≠ BuilderPlan.optionalName) {method : Method} (member : method ∈ interface.methods) :
    ¬ IsBuild method := by
  have listed : interface.name ∈ plan.stepNames := added.names ▸ List.mem_map_of_mem declared
  obtain ⟨place, named⟩ := List.getElem?_of_mem listed
  have before : place ≠ plan.lastPlace := by
    rintro rfl
    rw [plan.getElem?_stepNames_lastPlace] at named
    exact required (Option.some.inj named).symm
  obtain ⟨next, moves, -⟩ := added.moves distinct plain proper declared named member
  cases moves with
  | given found name parameters => exact fun builds => by simp [builds.2] at parameters
  | replaced usable gives name parameters =>
    obtain ⟨own, noted, -⟩ := BuilderPlan.mem_extensions usable
    exact fun builds => (proper _ own noted).1 (name ▸ builds.1)
  | kept | restarted | built => exact absurd rfl before

include added in
/-- The class of a builder has every method that an interface declares. -/
theorem Added.implements {interface : TypeDecl} (declared : interface ∈ interfaces) {stub : Method}
    (member : stub ∈ interface.methods) : ∃ method ∈ builder.methods, method.name = stub.name ∧
      method.parameters = stub.parameters ∧ method.returnType = stub.returnType ∧ method.thrown = stub.thrown := by
  obtain ⟨planned, listed, alike⟩ := exists_of_forall₂ added.interfaces declared
  obtain ⟨declaration, stubs, same⟩ := exists_of_forall₂ alike.methods member
  obtain ⟨step, steps, rfl⟩ := List.mem_map.mp stubs
  have own : step.implementation ∈ (plan.builderDecl (plan.allInterfaces [])).methods :=
    List.mem_flatMap.mpr ⟨planned, listed, List.mem_map_of_mem steps⟩
  obtain ⟨method, methods, implemented⟩ := exists_of_forall₂ added.builder.methods.flip own
  exact ⟨method, methods, implemented.name.trans same.name.symm, implemented.parameters.trans same.parameters.symm,
    implemented.returnType.trans same.returnType.symm, implemented.thrown.trans same.thrown.symm⟩

end Run

/-- The types that a class has gained enforce that whoever builds has given all required fields. Building starts with
a type, which the method for it returns unless the class had a method of its name before. -/
structure Enforces (entry leading : String) (excluded : List String) (before after : TypeDecl) (first : JavaType) :
    Prop where
  starts : (addedInterfaces before after)[0]?.map (·.name) = some first.name
  entry : before.hasMethod entry (some 0) = true ∨ ∃ method ∈ after.methods,
    method.name = entry ∧ method.parameters = [] ∧ method.isStatic = true ∧ method.returnType = first
  implemented : ∃ builder ∈ addedTypes before after, builder.name = "$" ++ before.name ++ "Builder" ∧
    builder.isInterface = false ∧
    ∀ interface ∈ addedInterfaces before after, ∀ stub ∈ interface.methods, ∃ method ∈ builder.methods,
      method.name = stub.name ∧ method.parameters = stub.parameters ∧ method.returnType = stub.returnType ∧
        method.thrown = stub.thrown
  given : ∀ calls, Chain (addedInterfaces before after) first calls →
    Gives leading before (requiredFields excluded before) (requiredFields excluded before) (sinceReset calls)
  withheld : ∀ interface ∈ addedInterfaces before after, interface.name ≠ "OptionalDef" →
    ∀ method ∈ interface.methods, ¬ IsBuild method

theorem Added.addedTypes {plan : BuilderPlan} {entry : String} {forwarding : List Step} {type : TypeDecl}
    {interfaces : List TypeDecl} {builder : TypeDecl} (added : Added plan entry forwarding type interfaces builder) :
    addedTypes plan.owner type = interfaces ++ [builder] := by
  rw [Weave.addedTypes, added.memberTypes, List.drop_left]

theorem Added.addedInterfaces {plan : BuilderPlan} {entry : String} {type : TypeDecl} {interfaces : List TypeDecl}
    {builder : TypeDecl} (added : Added plan entry [] type interfaces builder) :
    addedInterfaces plan.owner type = interfaces := by
  have all : interfaces.filter (·.isInterface) = interfaces := by
    refine List.filter_eq_self.mpr fun interface member => ?_
    obtain ⟨planned, -, alike⟩ := exists_of_forall₂ added.interfaces member
    rw [TypeDecl.isInterface, alike.kind]
    rfl
  have none : builder.isInterface = false := by
    rw [TypeDecl.isInterface, added.builder.kind]
    rfl
  rw [Weave.addedInterfaces, added.addedTypes, List.filter_append, all, List.filter_singleton, none]
  exact List.append_nil _

/-- Whenever the handler makes a builder that forwards to nothing, and the names of its interfaces are apart, the types
of the builder enforce its protocol. -/
theorem enforces_of_builder {setting : Setting} {target : Target} {type : TypeDecl}
    (applied : ((builderHandler.handle target).perform setting).1 = .ok (.applied type))
    (alone : ∀ note, setting.note = some note → note.strings "callMethods" = .ok [])
    (distinct : ((addedInterfaces setting.decl type).map (·.name)).Nodup)
    (other : setting.decl.name ∉ (addedInterfaces setting.decl type).map (·.name))
    (proper : ∀ method ∈ setting.decl.methods, annotated method.annotations extensionNote = true →
      method.name ≠ "build" ∧ method.name ≠ "reset") :
    ∃ note leading excluded first, setting.note = some note ∧ note.string? "prefix" = .ok leading ∧
      note.strings "exclude" = .ok excluded ∧
      Enforces setting.options.entryMethod (leading.getD setting.options.builderLeading) excluded setting.decl type
        first := by
  obtain ⟨-, -, -, plan, excluded, forwarded, asks, -, committed⟩ :=
    (Handling.outcome_builder target type).mp ⟨_, Prod.ext applied rfl⟩
  obtain ⟨note, access, leading, convenient, allowReset, noted, -, leadingRead, excludedRead, -, forwardedRead, -,
    planned⟩ := asks
  cases forwardedRead.symm.trans (alone note noted)
  have owner : plan.owner = setting.decl := by rw [planned]
  have named : plan.leading = leading.getD setting.options.builderLeading := by rw [planned]
  have plain : ∀ field ∈ plan.fields.required, field.shape = .plain := by
    rw [planned]
    exact fun field member => BuilderFields.classify_shape _ _ _ _ member
  have agree : plan.fields.required.map (fun field => (field.name, field.type)) =
      (requiredFields excluded plan.owner).map fun field => (field.name, field.type) := by
    rw [planned]
    exact BuilderFields.classify_required _ _ _ _
  rw [← owner] at committed distinct other proper
  obtain ⟨interfaces, builder, added⟩ := added_of_commit committed
  rw [added.addedInterfaces, added.names] at distinct other
  refine ⟨note, leading, excluded, plan.firstStep, noted, leadingRead, excludedRead, ?_⟩
  rw [← owner, ← named]
  constructor
  case starts =>
    rw [added.addedInterfaces, ← List.getElem?_map, added.names]
    exact plan.stepType_name (Nat.zero_le _)
  case entry =>
    cases present : plan.owner.hasMethod setting.options.entryMethod (some 0) with
    | true => exact .inl rfl
    | false =>
      obtain ⟨method, member, alike⟩ := added.entry present
      refine .inr ⟨method, member, alike.name, alike.parameters, ?_, alike.returnType⟩
      rw [Method.isStatic, alike.modifiers]
      change ((Modifiers.withAccess {} plan.access).insert .static).has .static = true
      cases plan.access <;> rfl
  case implemented =>
    rw [added.addedTypes, added.addedInterfaces]
    refine ⟨builder, List.mem_append_right _ List.mem_cons_self, added.builder.name, ?_, ?_⟩
    · rw [TypeDecl.isInterface, added.builder.kind]
      rfl
    · exact fun interface declared stub member => added.implements declared member
  case given =>
    rw [added.addedInterfaces]
    intro calls chain
    have gives := added.gives distinct plain proper other agree (Nat.zero_le _) rfl chain
    rwa [List.drop_zero, ite_self] at gives
  case withheld =>
    rw [added.addedInterfaces]
    exact fun interface declared required method member => added.not_isBuild distinct plain proper declared required member

/-- A class with two required fields and one that may be set, and a builder that can start again. -/
def pointClass : TypeDecl where
  name := "Point"
  annotations := [{ type := .named "Builder" }]
  fields := [
    { modifiers := .ofList [.final], type := .named "int", name := "x" },
    { modifiers := .ofList [.final], type := .named "int", name := "y" },
    { type := .string, name := "label" }]

def pointSetting : Setting where
  options := { builder := some { allowReset := some true } }
  types := {}
  note := some { type := .named "Builder" }
  file := "Point.java"
  span := none
  decl := pointClass
  site := some (.type 0)

def builtPoint : TypeDecl :=
  match ((builderHandler.handle .type).perform pointSetting).1 with
  | .ok (.applied type) => type
  | _ => pointClass

theorem enforces_of_builder_point :
    ((builderHandler.handle .type).perform pointSetting).1 = .ok (.applied builtPoint) ∧
    (addedInterfaces pointClass builtPoint).map (·.name) = ["XDef", "YDef", "OptionalDef"] ∧
    ∃ note leading excluded first, pointSetting.note = some note ∧ note.string? "prefix" = .ok leading ∧
      note.strings "exclude" = .ok excluded ∧
      Enforces "create" (leading.getD "") excluded pointClass builtPoint first := by
  have applied : ((builderHandler.handle .type).perform pointSetting).1 = .ok (.applied builtPoint) := rfl
  have names : (addedInterfaces pointClass builtPoint).map (·.name) = ["XDef", "YDef", "OptionalDef"] := rfl
  refine ⟨applied, names, enforces_of_builder applied ?_ ?_ ?_ ?_⟩
  · rintro _ ⟨⟩
    rfl
  · change ((addedInterfaces pointClass builtPoint).map (·.name)).Nodup
    rw [names]
    decide
  · change "Point" ∉ (addedInterfaces pointClass builtPoint).map (·.name)
    rw [names]
    decide
  · exact fun method member => absurd member List.not_mem_nil

end JavaWeave.Weave
