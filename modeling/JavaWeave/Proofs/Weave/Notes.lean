import JavaWeave.Proofs.Weave.Commit
import JavaWeave.Proofs.Weave.Handlers
import JavaWeave.Weave.Transform

/-! What carrying out an occurrence does to the annotations of a type. A disciplined handler that goes through
uses up the annotation it is called for and adds members without annotations; one that fails leaves the type
and reports an error. -/

namespace JavaWeave.Weave

open Syntax

/-- The names of members, each with the annotations of its member. -/
abbrev Members := List (String × List Annotation)

namespace Phase

/-- The members that a phase is about. -/
def members (phase : Phase) (type : TypeDecl) : Members :=
  match phase with
  | .type => [(type.name, type.annotations)]
  | .fields => type.fields.map fun field => (field.name, field.annotations)
  | .methods => type.methods.map fun method => (method.name, method.annotations)

/-- The declaration of a member. -/
def target (phase : Phase) (member : Nat) : Target :=
  match phase with
  | .type => .type
  | .fields => .field member
  | .methods => .method member

/-- The site of an annotation of a member. -/
def site (phase : Phase) (member place : Nat) : Site :=
  match phase with
  | .type => .type place
  | .fields => .field member place
  | .methods => .method member place

end Phase

/-- A member without the annotation at a place. -/
def dropNote (place : Nat) (member : String × List Annotation) : String × List Annotation :=
  (member.1, member.2.eraseIdx place)

theorem map_modify {α β : Type} {view : α → β} {change : α → α} {shown : β → β} (items : List α) (index : Nat)
    (agree : ∀ item, view (change item) = shown (view item)) :
    (items.modify index change).map view = (items.map view).modify index shown := by
  have agree' : view ∘ change = shown ∘ view := funext agree
  apply List.ext_getElem?
  intro other
  by_cases same : index = other <;> simp [same, agree']

theorem map_mapIdx_congr {α β : Type} {view : α → β} {f g : Nat → α → α} (items : List α)
    (agree : ∀ index item, view (f index item) = view (g index item)) :
    (items.mapIdx f).map view = (items.mapIdx g).map view := by
  apply List.ext_getElem?
  intro index
  cases found : items[index]? <;> simp [found, agree]

/-- An annotation of one phase is not one of another. -/
theorem members_removeNoteAt_other {phase other : Phase} (apart : other ≠ phase) (type : TypeDecl)
    (index place : Nat) : other.members (removeNoteAt type (phase.site index place)) = other.members type := by
  cases phase with
  | type =>
    cases other with
    | type => exact absurd rfl apart
    | fields | methods => rfl
  | fields =>
    cases other with
    | fields => exact absurd rfl apart
    | type | methods => rfl
  | methods =>
    cases other with
    | methods => exact absurd rfl apart
    | type | fields => rfl

/-- The annotation at a site of a phase is one of its member. -/
theorem members_removeNoteAt {phase : Phase} {type : TypeDecl} {index : Nat}
    (present : index < (phase.members type).length) (place : Nat) :
    phase.members (removeNoteAt type (phase.site index place)) =
      (phase.members type).modify index (dropNote place) := by
  cases phase with
  | type =>
    obtain rfl : index = 0 := by simpa [Phase.members] using present
    rfl
  | fields => exact map_modify type.fields index fun _ => rfl
  | methods => exact map_modify type.methods index fun _ => rfl

/-! Lowering leaves annotations as they are. -/

section Lowering

variable {γ ε : Type} {reviser : Reviser γ (Except ε)} {context : γ}

theorem annotations_onField {field written : Field} (revised : reviser.onField context field = .ok written) :
    written.annotations = field.annotations := by
  obtain ⟨origin, modifiers, annotations, type, name, _ | initial⟩ := field
  · cases revised
    rfl
  · rw [Reviser.onField] at revised
    obtain ⟨_, _, same⟩ := bind_eq_ok.mp revised
    cases same
    rfl

theorem annotations_onMethod {method written : Method}
    (revised : reviser.onMethod context method = .ok written) : written.annotations = method.annotations := by
  obtain ⟨origin, modifiers, annotations, typeParameters, returnType, name, parameters, thrown, body, bodiless,
    implementing⟩ := method
  rw [Reviser.onMethod] at revised
  obtain ⟨_, _, same⟩ := bind_eq_ok.mp revised
  cases same
  rfl

theorem annotations_onFields {fields written : List Field}
    (revised : reviser.onFields context fields = .ok written) (bare : ∀ field ∈ fields, field.annotations = []) :
    ∀ field ∈ written, field.annotations = [] := by
  induction fields generalizing written with
  | nil => cases revised; exact nofun
  | cons field fields inductionHypothesis =>
    rw [Reviser.onFields] at revised
    obtain ⟨first, firstOk, revised⟩ := bind_eq_ok.mp revised
    obtain ⟨rest, restOk, same⟩ := bind_eq_ok.mp revised
    cases same
    have own := (annotations_onField firstOk).trans (bare field List.mem_cons_self)
    exact List.forall_mem_cons.mpr ⟨own, inductionHypothesis restOk fun other member =>
      bare other (List.mem_cons_of_mem field member)⟩

theorem annotations_onMethods {methods written : List Method}
    (revised : reviser.onMethods context methods = .ok written)
    (bare : ∀ method ∈ methods, method.annotations = []) : ∀ method ∈ written, method.annotations = [] := by
  induction methods generalizing written with
  | nil => cases revised; exact nofun
  | cons method methods inductionHypothesis =>
    rw [Reviser.onMethods] at revised
    obtain ⟨first, firstOk, revised⟩ := bind_eq_ok.mp revised
    obtain ⟨rest, restOk, same⟩ := bind_eq_ok.mp revised
    cases same
    have own := (annotations_onMethod firstOk).trans (bare method List.mem_cons_self)
    exact List.forall_mem_cons.mpr ⟨own, inductionHypothesis restOk fun other member =>
      bare other (List.mem_cons_of_mem method member)⟩

theorem Unmarked.onType {type written : TypeDecl} (unmarked : Unmarked type)
    (revised : reviser.onType context type = .ok written) : Unmarked written := by
  obtain ⟨origin, modifiers, annotations, kind, name, typeParameters, superclass, interfaces, constants, fields,
    initializers, constructors, methods, memberTypes, isLocal, isAnonymous⟩ := type
  rw [Reviser.onType] at revised
  obtain ⟨_, _, revised⟩ := bind_eq_ok.mp revised
  obtain ⟨_, fieldsOk, revised⟩ := bind_eq_ok.mp revised
  obtain ⟨_, _, revised⟩ := bind_eq_ok.mp revised
  obtain ⟨_, _, revised⟩ := bind_eq_ok.mp revised
  obtain ⟨_, methodsOk, revised⟩ := bind_eq_ok.mp revised
  obtain ⟨_, memberTypesOk, same⟩ := bind_eq_ok.mp revised
  cases same
  obtain ⟨own, bareFields, bareMethods, rfl⟩ := unmarked
  cases memberTypesOk
  exact ⟨own, annotations_onFields fieldsOk bareFields, annotations_onMethods methodsOk bareMethods, rfl⟩

end Lowering

theorem Edit.Allowed.lower {target : Target} {edit written : Edit} {type : TypeDecl} {span : Option Span}
    {edits : List Edit} (allowed : edit.Allowed target) (lowered : edit.lower type span edits = .ok written) :
    written.Allowed target := by
  cases edit with
  | injectField field =>
    obtain ⟨fragment, revised, same⟩ := bind_eq_ok.mp lowered
    cases same
    exact (annotations_onField revised).trans allowed
  | injectMethod method =>
    obtain ⟨fragment, revised, same⟩ := bind_eq_ok.mp lowered
    cases same
    exact (annotations_onMethod revised).trans allowed
  | injectType decl =>
    obtain ⟨fragment, revised, same⟩ := bind_eq_ok.mp lowered
    cases same
    exact ⟨allowed.1, allowed.2.onType revised⟩
  | injectConstructor | injectInitializer | replaceBody | replaceConstructor =>
    obtain ⟨fragment, _, same⟩ := bind_eq_ok.mp lowered
    cases same
    trivial
  | _ => cases lowered; exact allowed

/-! A commit, seen through the annotations. -/

theorem removeAnnotationAt_eq (type : TypeDecl) (consumed : Option Site) :
    removeAnnotationAt type consumed = { type with
      annotations := keepPlaces (fun place => !consumed.toList.contains (.type place)) type.annotations
      fields := type.fields.mapIdx (revisedField consumed.toList [])
      methods := type.methods.mapIdx (revisedMethod consumed.toList []) } := by
  rw [← removeNotes_eq consumed.toList type]
  cases consumed <;> rfl

theorem notes_foldl_onField (edits : List Edit) (field : Field) :
    ((edits.foldl Edit.onField field).name, (edits.foldl Edit.onField field).annotations) =
      (field.name, field.annotations) := by
  induction edits generalizing field with
  | nil => rfl
  | cons edit edits inductionHypothesis =>
    rw [List.foldl_cons, inductionHypothesis]
    cases edit <;> rfl

theorem notes_foldl_onMethod {target : Target} {edits : List Edit} (method : Method)
    (allowed : ∀ edit ∈ edits, edit.Allowed target) (onMember : target ≠ .type) :
    ((edits.foldl Edit.onMethod method).name, (edits.foldl Edit.onMethod method).annotations) =
      (method.name, method.annotations) := by
  induction edits generalizing method with
  | nil => rfl
  | cons edit edits inductionHypothesis =>
    obtain ⟨first, rest⟩ := List.forall_mem_cons.mp allowed
    rw [List.foldl_cons, inductionHypothesis _ rest]
    cases edit with
    | removeMethodNote => exact absurd first onMember
    | _ => rfl

/-- Members behind which stand others that have no annotations. -/
def Extended (before after : Members) : Prop :=
  ∃ added, (∀ member ∈ added, member.2 = []) ∧ after = before ++ added

theorem Extended.refl (members : Members) : Extended members members :=
  ⟨[], nofun, (List.append_nil members).symm⟩

theorem Extended.trans {first second third : Members} :
    Extended first second → Extended second third → Extended first third := by
  rintro ⟨added, bare, rfl⟩ ⟨added', bare', rfl⟩
  refine ⟨added ++ added', ?_, List.append_assoc ..⟩
  intro member listed
  exact (List.mem_append.mp listed).elim (bare member) (bare' member)

/-- How a type may grow while an occurrence on the target is carried out: there are new members without
annotations, and for a whole type new types without annotations. What becomes of the methods then is left
open. -/
structure Grown (target : Target) (before after : TypeDecl) : Prop where
  members : ∀ phase : Phase, (target = .type → phase ≠ .methods) →
    Extended (phase.members before) (phase.members after)
  memberTypes : ∃ added : List TypeDecl, (∀ type ∈ added, Unmarked type) ∧ (added ≠ [] → target = .type) ∧
    after.memberTypes = before.memberTypes ++ added

theorem Grown.refl (target : Target) (type : TypeDecl) : Grown target type type where
  members _ _ := .refl _
  memberTypes := ⟨[], List.forall_mem_nil _, fun other => absurd rfl other, (List.append_nil _).symm⟩

section Assembling

variable {target : Target} {edits : List Edit} (allowed : ∀ edit ∈ edits, edit.Allowed target)
include allowed

theorem removedSites_of_allowed (consumed : Option Site) : removedSites consumed edits = consumed.toList := by
  have none : edits.filterMap Edit.removedSite? = [] := by
    rw [List.filterMap_eq_nil_iff]
    intro edit member
    cases edit with
    | removeNote => exact (allowed _ member).elim
    | _ => rfl
  rw [removedSites, none, List.append_nil]

theorem removedMethods_of_allowed (onMember : target ≠ .type) : edits.filterMap Edit.removedMethod? = [] := by
  rw [List.filterMap_eq_nil_iff]
  intro edit member
  cases edit with
  | removeMethod => exact absurd (allowed _ member) onMember
  | _ => rfl

theorem bare_newFields : ∀ field ∈ edits.filterMap Edit.newField?, field.annotations = [] := by
  intro field listed
  obtain ⟨edit, member, new⟩ := List.mem_filterMap.mp listed
  cases edit with
  | injectField => cases new; exact allowed _ member
  | _ => cases new

theorem bare_newMethods : ∀ method ∈ edits.filterMap Edit.newMethod?, method.annotations = [] := by
  intro method listed
  obtain ⟨edit, member, new⟩ := List.mem_filterMap.mp listed
  cases edit with
  | injectMethod => cases new; exact allowed _ member
  | _ => cases new

theorem unmarked_newTypes :
    ∀ type ∈ edits.filterMap Edit.newType?, target = .type ∧ Unmarked type := by
  intro type listed
  obtain ⟨edit, member, new⟩ := List.mem_filterMap.mp listed
  cases edit with
  | injectType => cases new; exact allowed _ member
  | _ => cases new

/-- A commit of allowed edits uses up the consumed annotation and lets the type grow. -/
theorem grown_assembled (type : TypeDecl) (consumed : Option Site) :
    Grown target (removeAnnotationAt type consumed) (assembled type consumed edits) where
  members phase kept := by
    rw [removeAnnotationAt_eq]
    cases phase with
    | type =>
      refine ⟨[], nofun, ?_⟩
      rw [List.append_nil]
      simp only [Phase.members, assembled, removedSites_of_allowed allowed]
    | fields =>
      refine ⟨(edits.filterMap Edit.newField?).map fun field => (field.name, field.annotations), ?_, ?_⟩
      · exact List.forall_mem_map.mpr (bare_newFields allowed)
      · simp only [Phase.members, assembled, removedSites_of_allowed allowed, List.map_append]
        rw [map_mapIdx_congr type.fields fun index field => notes_foldl_onField _ _]
        rfl
    | methods =>
      have onMember : target ≠ .type := fun same => kept same rfl
      refine ⟨(edits.filterMap Edit.newMethod?).map fun method => (method.name, method.annotations), ?_, ?_⟩
      · exact List.forall_mem_map.mpr (bare_newMethods allowed)
      · have own (index : Nat) : ∀ edit ∈ editsOf (.method index) edits, edit.Allowed target :=
          fun edit member => allowed edit (List.mem_filter.mp member).1
        simp only [Phase.members, assembled, removedSites_of_allowed allowed,
          removedMethods_of_allowed allowed onMember, keepPlaces_of_all, List.contains_nil, Bool.not_false,
          implies_true, List.map_append]
        rw [map_mapIdx_congr type.methods fun index method => notes_foldl_onMethod _ (own index) onMember]
        rfl
  memberTypes := by
    have unmarked := unmarked_newTypes allowed
    refine ⟨edits.filterMap Edit.newType?, fun type listed => (unmarked type listed).2, ?_, ?_⟩
    · intro some
      obtain ⟨type, listed⟩ := List.exists_mem_of_ne_nil _ some
      exact (unmarked type listed).1
    · rw [removeAnnotationAt_eq]
      rfl

end Assembling

theorem grown_commit {target : Target} {edits : List Edit} {type after : TypeDecl} {span : Option Span}
    {consumed : Option Site} (allowed : ∀ edit ∈ edits, edit.Allowed target)
    (committed : commit type span consumed edits = .ok after) :
    Grown target (removeAnnotationAt type consumed) after := by
  obtain ⟨_, _, lowered, each, rfl⟩ := commit_eq_ok.mp committed
  apply grown_assembled
  intro written listed
  have found : Except.ok written ∈ lowered.map (@Except.ok InternalProblem Edit) := List.mem_map_of_mem listed
  rw [← each] at found
  obtain ⟨edit, member, outcome⟩ := List.mem_map.mp found
  exact (allowed edit member).lower outcome

theorem Weaver.attempt_eq (handler : Handler) (target : Target) (setting : Setting) :
    attempt handler target setting =
      match (handler.handle target).outcome setting {} with
      | (.ok (.applied type), draft) => (type, draft.warnings, true)
      | (.ok .skipped, draft) => (removeAnnotationAt setting.decl setting.site, draft.warnings, true)
      | (.error problem, draft) =>
        (setting.decl, draft.warnings
          ++ [(problem.diagnostic setting.annotationName).located setting.file setting.span], false) := by
  have performed : (handler.handle target).perform setting =
      (((handler.handle target).outcome setting {}).1, ((handler.handle target).outcome setting {}).2.warnings) :=
    rfl
  rw [attempt, performed]
  obtain ⟨_ | _ | _, _⟩ := (handler.handle target).outcome setting {} <;> rfl

/-- What an attempt of a disciplined handler makes of a type: either it went well, the annotation is used up
and the type may have grown, or it failed, the type is as it was and there is an error to report. -/
theorem attempt_cases {handler : Handler} (disciplined : handler.Disciplined) (target : Target)
    (setting : Setting) :
    (∃ after reports, Weaver.attempt handler target setting = (after, reports, true) ∧
      Grown target (removeAnnotationAt setting.decl setting.site) after) ∨
    ∃ reports, Weaver.attempt handler target setting = (setting.decl, reports, false) ∧
      Diagnostic.hasErrors reports = true := by
  have holds := (disciplined target setting).holds {} nofun
  rw [Weaver.attempt_eq]
  generalize (handler.handle target).outcome setting {} = ending at holds
  obtain ⟨problem | type | _, draft⟩ := ending
  · refine .inr ⟨_, rfl, ?_⟩
    have severe : ((problem.diagnostic setting.annotationName).located setting.file setting.span).isError = true :=
      holds setting.annotationName
    simp [Diagnostic.hasErrors, severe]
  · obtain ⟨edits, allowed, committed⟩ := holds.2
    exact .inl ⟨_, _, rfl, grown_commit allowed committed⟩
  · exact .inl ⟨_, _, rfl, .refl _ _⟩

end JavaWeave.Weave
