import JavaWeave.Proofs.Builder.Scheduling
import Mathlib.Data.List.Forall2

/-! The types and methods that a builder adds to its class: the interfaces in the order in which they are reached,
the class that implements them and the method that building starts with. A commit leaves what can be called of
them as it was planned. -/

namespace JavaWeave.Weave

open Syntax

/-- What a caller sees of a method is the same. -/
structure Alike (method written : Method) : Prop where
  name : written.name = method.name
  parameters : written.parameters = method.parameters
  returnType : written.returnType = method.returnType
  thrown : written.thrown = method.thrown
  modifiers : written.modifiers = method.modifiers

section Lowering

variable {γ ε : Type} {reviser : Reviser γ (Except ε)} {context : γ}

theorem alike_onMethod {method written : Method} (revised : reviser.onMethod context method = .ok written) :
    Alike method written := by
  obtain ⟨origin, modifiers, annotations, typeParameters, returnType, name, parameters, thrown, body, bodiless,
    implementing⟩ := method
  rw [Reviser.onMethod] at revised
  obtain ⟨_, _, same⟩ := bind_eq_ok.mp revised
  cases same
  exact ⟨rfl, rfl, rfl, rfl, rfl⟩

theorem forall₂_onMethods {methods written : List Method} (revised : reviser.onMethods context methods = .ok written) :
    List.Forall₂ (fun method written => reviser.onMethod context method = .ok written) methods written := by
  induction methods generalizing written with
  | nil => cases revised; exact .nil
  | cons method methods inductionHypothesis =>
    rw [Reviser.onMethods] at revised
    obtain ⟨first, firstOk, revised⟩ := bind_eq_ok.mp revised
    obtain ⟨rest, restOk, same⟩ := bind_eq_ok.mp revised
    cases same
    exact .cons firstOk (inductionHypothesis restOk)

/-- A type is revised member by member. -/
theorem members_onType {type written : TypeDecl} (revised : reviser.onType context type = .ok written) :
    written.name = type.name ∧ written.kind = type.kind ∧
      reviser.onFields context type.fields = .ok written.fields ∧
      List.Forall₂ (fun method written => reviser.onMethod context method = .ok written) type.methods
        written.methods := by
  obtain ⟨origin, modifiers, annotations, kind, name, typeParameters, superclass, interfaces, constants, fields,
    initializers, constructors, methods, memberTypes, isLocal, isAnonymous⟩ := type
  rw [Reviser.onType] at revised
  obtain ⟨_, _, revised⟩ := bind_eq_ok.mp revised
  obtain ⟨_, fieldsOk, revised⟩ := bind_eq_ok.mp revised
  obtain ⟨_, _, revised⟩ := bind_eq_ok.mp revised
  obtain ⟨_, _, revised⟩ := bind_eq_ok.mp revised
  obtain ⟨_, methodsOk, revised⟩ := bind_eq_ok.mp revised
  obtain ⟨_, _, same⟩ := bind_eq_ok.mp revised
  cases same
  exact ⟨rfl, rfl, fieldsOk, forall₂_onMethods methodsOk⟩

/-- What a caller sees of a type is the same. -/
structure AlikeType (type written : TypeDecl) : Prop where
  name : written.name = type.name
  kind : written.kind = type.kind
  methods : List.Forall₂ Alike type.methods written.methods

theorem alike_onType {type written : TypeDecl} (revised : reviser.onType context type = .ok written) :
    AlikeType type written := by
  obtain ⟨name, kind, -, methods⟩ := members_onType revised
  exact ⟨name, kind, methods.imp fun _ _ => alike_onMethod⟩

end Lowering

section Commit

variable {type : TypeDecl} {span : Option Span} {all edits lowered : List Edit}

/-- Parts that edits carry are lowered each by itself. -/
theorem filterMap_lowered {β : Type} {part? : Edit → Option β} {lowerPart : β → Except InternalProblem β}
    (part : ∀ edit written, Edit.lower type span all edit = .ok written →
      (part? edit).map lowerPart = (part? written).map .ok)
    (each : edits.map (Edit.lower type span all) = lowered.map .ok) :
    (edits.filterMap part?).map lowerPart = (lowered.filterMap part?).map .ok := by
  induction edits generalizing lowered with
  | nil => cases lowered <;> simp_all
  | cons edit edits inductionHypothesis =>
    cases lowered with
    | nil => cases each
    | cons written lowered =>
      obtain ⟨firstOk, restOk⟩ := List.cons.inj each
      have own := part edit written firstOk
      have rest := inductionHypothesis restOk
      rw [List.filterMap_cons, List.filterMap_cons]
      cases before : part? edit <;> cases after : part? written <;> simp_all

theorem newTypes_lowered (each : edits.map (Edit.lower type span all) = lowered.map .ok) :
    (edits.filterMap Edit.newType?).map (lowerType span) = (lowered.filterMap Edit.newType?).map .ok := by
  refine filterMap_lowered (fun edit written outcome => ?_) each
  cases edit with
  | injectType decl =>
    obtain ⟨fragment, revised, same⟩ := bind_eq_ok.mp outcome
    cases same
    exact congrArg some revised
  | injectField | injectMethod | injectConstructor | injectInitializer | replaceBody | replaceConstructor =>
    obtain ⟨fragment, _, same⟩ := bind_eq_ok.mp outcome
    cases same
    rfl
  | _ => cases outcome; rfl

theorem newMethods_lowered (each : edits.map (Edit.lower type span all) = lowered.map .ok) :
    (edits.filterMap Edit.newMethod?).map (lowerMethod span) = (lowered.filterMap Edit.newMethod?).map .ok := by
  refine filterMap_lowered (fun edit written outcome => ?_) each
  cases edit with
  | injectMethod method =>
    obtain ⟨fragment, revised, same⟩ := bind_eq_ok.mp outcome
    cases same
    exact congrArg some revised
  | injectField | injectType | injectConstructor | injectInitializer | replaceBody | replaceConstructor =>
    obtain ⟨fragment, _, same⟩ := bind_eq_ok.mp outcome
    cases same
    rfl
  | _ => cases outcome; rfl

end Commit

theorem forall₂_of_map_eq {α β ε : Type} {f : α → Except ε β} {items : List α} {results : List β}
    (each : items.map f = results.map .ok) : List.Forall₂ (fun item result => f item = .ok result) items results := by
  rwa [← List.forall₂_map_left_iff (f := f) (R := fun outcome result => outcome = .ok result),
    ← List.forall₂_map_right_iff (f := Except.ok) (R := Eq), List.forall₂_eq_eq_eq]

namespace BuilderPlan

variable (plan : BuilderPlan) (entry : String) (forwarding : List Step)

theorem newTypes_edits : (plan.edits entry forwarding).filterMap Edit.newType? =
    (plan.allInterfaces forwarding).map plan.interfaceDecl ++ [plan.builderDecl (plan.allInterfaces forwarding)] := by
  have constructor : plan.constructorEdit.newType? = none := by
    rw [constructorEdit]
    cases (indexed plan.owner.constructors).find? fun item => adoptsBuilder item.2 <;> rfl
  have start : (plan.entryEdits entry).filterMap Edit.newType? = [] := by
    rw [entryEdits]
    split <;> rfl
  have initial (field : BuilderField) : (plan.initialEdits field).filterMap Edit.newType? = [] := by
    rw [initialEdits]
    cases field.initial with
    | none => rfl
    | some initial => cases plan.allowReset <;> rfl
  have nothing {α : Type} (items : List α) : items.flatMap (fun _ => ([] : List TypeDecl)) = [] := by
    simp [List.flatMap_eq_nil_iff]
  simp only [edits, List.filterMap_append, List.filterMap_cons, constructor, List.filterMap_nil, start,
    List.filterMap_flatMap, initial, nothing, List.nil_append, List.map_eq_flatMap]
  simp only [Edit.newType?, nothing, List.nil_append]

/-- The method that building starts with is added unless the class has one of its name. -/
theorem entryMethod_mem_edits (free : plan.owner.hasMethod entry (some 0) = false) :
    plan.entryMethod entry ∈ (plan.edits entry forwarding).filterMap Edit.newMethod? := by
  refine List.mem_filterMap.mpr ⟨.injectMethod (plan.entryMethod entry), ?_, rfl⟩
  simp [edits, entryEdits, free]

end BuilderPlan

/-- What is added to a class for a builder: an interface for each place, and a class. -/
structure Added (plan : BuilderPlan) (entry : String) (forwarding : List Step) (type : TypeDecl)
    (interfaces : List TypeDecl) (builder : TypeDecl) : Prop where
  memberTypes : type.memberTypes = plan.owner.memberTypes ++ (interfaces ++ [builder])
  interfaces : List.Forall₂ (fun planned written => AlikeType (plan.interfaceDecl planned) written)
    (plan.allInterfaces forwarding) interfaces
  lowered : ∃ span, lowerType span (plan.builderDecl (plan.allInterfaces forwarding)) = .ok builder
  builder : AlikeType (plan.builderDecl (plan.allInterfaces forwarding)) builder
  entry : plan.owner.hasMethod entry (some 0) = false → ∃ method ∈ type.methods, Alike (plan.entryMethod entry) method

theorem added_of_commit {plan : BuilderPlan} {entry : String} {forwarding : List Step} {type : TypeDecl}
    {span : Option Span} {site : Option Site}
    (committed : commit plan.owner span site (plan.edits entry forwarding) = .ok type) :
    ∃ interfaces builder, Added plan entry forwarding type interfaces builder := by
  obtain ⟨-, -, lowered, each, rfl⟩ := commit_eq_ok.mp committed
  have types := newTypes_lowered each
  rw [BuilderPlan.newTypes_edits] at types
  have methods := newMethods_lowered each
  obtain ⟨interfaces, last, split, interfacesOk, lastOk⟩ :=
    List.map_eq_append_iff.mp (types.symm.trans List.map_append)
  obtain ⟨builder, rfl, builderOk⟩ := List.map_eq_singleton_iff.mp lastOk
  refine ⟨interfaces, builder, ?_, ?_, ⟨span, builderOk.symm⟩, alike_onType builderOk.symm, ?_⟩
  · simp only [assembled, split]
  · have each := forall₂_of_map_eq ((List.map_map ..).symm.trans interfacesOk.symm)
    exact each.imp fun _ _ revised => alike_onType revised
  · intro free
    obtain ⟨written, member, revised⟩ :=
      exists_of_map_eq methods (plan.entryMethod_mem_edits entry forwarding free)
    exact ⟨written, List.mem_append_right _ member, alike_onMethod revised⟩

end JavaWeave.Weave
