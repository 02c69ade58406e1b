import JavaWeave.Proofs.Builder.Product
import JavaWeave.Proofs.Weave.Handlers

/-! Fields that a handler adds where they are missing. A field that the class has, or that was added before, is taken
as it is: of all fields wanted under one name the first is the one that is found afterwards. -/

namespace JavaWeave.Weave

open Syntax

/-- The field that a name finds once the fields of a draft are added. -/
def Draft.field? (draft : Draft) (type : TypeDecl) (name : String) : Option Field :=
  (type.fields ++ draft.edits.filterMap Edit.newField?).find? (·.name == name)

theorem Draft.hasField_eq (draft : Draft) (type : TypeDecl) (name : String) :
    draft.hasField type name = (draft.field? type name).isSome := by
  have found : (draft.field? type name).isSome = (type.hasField name ||
      ((draft.edits.filterMap Edit.newField?).find? (·.name == name)).isSome) := by
    rw [Draft.field?, List.find?_append, Option.isSome_or]
    rfl
  rw [found, Draft.hasField]
  refine congrArg (type.hasField name || ·) ?_
  induction draft.edits with
  | nil => rfl
  | cons edit edits inductionHypothesis =>
    rw [List.any_cons, inductionHypothesis, List.filterMap_cons]
    cases edit with
    | injectField field =>
      simp only [Edit.newField?, List.find?_cons]
      cases field.name == name <;> rfl
    | _ => rfl

/-- What becomes of a draft to which allowed edits are added. Where a name finds no field yet, it finds the first
wanted one from now on. -/
structure Supplied (type : TypeDecl) (allowed : Edit → Prop) (wanted : List Field) (before after : Draft) : Prop where
  edits : (∀ edit ∈ before.edits, allowed edit) → ∀ edit ∈ after.edits, allowed edit
  kept : ∀ edit ∈ before.edits, edit ∈ after.edits
  field? : ∀ name, after.field? type name = (before.field? type name).or (wanted.find? (·.name == name))

namespace Supplied

variable {type : TypeDecl} {allowed : Edit → Prop} {wanted others : List Field} {before between after : Draft}

theorem refl (draft : Draft) : Supplied type allowed [] draft draft where
  edits each := each
  kept _ member := member
  field? _ := Option.or_none.symm

theorem trans (first : Supplied type allowed wanted before between) (second : Supplied type allowed others between after) :
    Supplied type allowed (wanted ++ others) before after where
  edits each := second.edits (first.edits each)
  kept edit member := second.kept edit (first.kept edit member)
  field? name := by rw [second.field?, first.field?, List.find?_append, Option.or_assoc]

/-- An edit that adds no field. -/
theorem schedule {edit : Edit} (allows : allowed edit) (other : edit.newField? = none) (draft : Draft) :
    Supplied type allowed [] draft { draft with edits := draft.edits ++ [edit] } where
  edits each := List.forall_mem_append.mpr ⟨each, List.forall_mem_singleton.mpr allows⟩
  kept _ member := List.mem_append_left _ member
  field? name := by simp [Draft.field?, other]

theorem injectField {field : Field} (allows : allowed (.injectField field)) (draft : Draft) :
    Supplied type allowed [field] draft { draft with edits := draft.edits ++ [.injectField field] } where
  edits each := List.forall_mem_append.mpr ⟨each, List.forall_mem_singleton.mpr allows⟩
  kept _ member := List.mem_append_left _ member
  field? name := by
    rw [Draft.field?, List.filterMap_append, ← List.append_assoc, List.find?_append]
    rfl

/-- Where the name is taken, nothing has to be added. -/
theorem present {field : Field} {draft : Draft} (present : draft.hasField type field.name = true) :
    Supplied type allowed [field] draft draft where
  edits each := each
  kept _ member := member
  field? name := by
    rw [Draft.hasField_eq] at present
    rw [List.find?_singleton]
    split
    · next same =>
      rw [beq_iff_eq] at same
      obtain ⟨found, is⟩ := Option.isSome_iff_exists.mp present
      rw [← same, is, Option.some_or]
    · rw [Option.or_none]

end Supplied

/-- An occurrence that was carried out gives the type that the edits of the draft make. -/
def Committed (setting : Setting) (outcome : Outcome) (draft : Draft) : Prop :=
  ∀ type, outcome = .applied type → commit setting.decl setting.span setting.site draft.edits = .ok type

namespace Handling

variable {α β : Type} {setting : Setting} {allowed : Edit → Prop}

/-- Steps that may schedule nothing. -/
theorem Ensures.edits_eq_nil {steps : Handling α} {returned : α → Prop} {draft after : Draft} {value : α}
    (ensures : Ensures setting (fun _ => False) steps returned) (empty : draft.edits = [])
    (ended : steps.outcome setting draft = (.ok value, after)) : after.edits = [] := by
  have none := ensures.holds draft (by simp [empty])
  rw [ended] at none
  exact List.eq_nil_iff_forall_not_mem.mpr none.1

/-- Where steps go through, they supply the wanted fields, and what is said holds of their result and of the draft that
they leave. -/
structure Supplies (setting : Setting) (allowed : Edit → Prop) (steps : Handling α) (wanted : List Field)
    (returned : α → Draft → Prop) : Prop where
  holds : ∀ {draft value after}, steps.outcome setting draft = (.ok value, after) →
    Supplied setting.decl allowed wanted draft after ∧ returned value after

namespace Supplies

variable {steps other : Handling α} {next : α → Handling β} {wanted others : List Field}
  {returned : α → Draft → Prop} {finally' : β → Draft → Prop}

theorem pure {value : α} (gives : ∀ draft, returned value draft) :
    Supplies setting allowed (pure value : Handling α) [] returned where
  holds ended := by
    obtain ⟨same, rfl⟩ := Prod.mk.inj ended
    cases same
    exact ⟨.refl _, gives _⟩

theorem bind (first : Supplies setting allowed steps wanted fun value _ =>
    Supplies setting allowed (next value) others finally') :
    Supplies setting allowed (steps >>= next) (wanted ++ others) finally' where
  holds ended := by
    obtain ⟨value, between, firstEnded, restEnded⟩ := outcome_bind_ok.mp ended
    obtain ⟨supplied, rest⟩ := first.holds firstEnded
    obtain ⟨supplied', gives⟩ := rest.holds restEnded
    exact ⟨supplied.trans supplied', gives⟩

theorem mono {weaker : α → Draft → Prop} (supplies : Supplies setting allowed steps wanted returned)
    (implies : ∀ value draft, returned value draft → weaker value draft) :
    Supplies setting allowed steps wanted weaker where
  holds ended := ⟨(supplies.holds ended).1, implies _ _ (supplies.holds ended).2⟩

/-- Steps before that supply nothing. -/
theorem after (first : Supplies setting allowed steps [] fun value _ =>
    Supplies setting allowed (next value) wanted finally') : Supplies setting allowed (steps >>= next) wanted finally' :=
  List.nil_append wanted ▸ first.bind

theorem ite {condition : Prop} [Decidable condition]
    (whenTrue : condition → Supplies setting allowed steps wanted returned)
    (whenFalse : ¬condition → Supplies setting allowed other wanted returned) :
    Supplies setting allowed (if condition then steps else other) wanted returned := by
  split
  · exact whenTrue ‹_›
  · exact whenFalse ‹_›

/-- Steps that several branches go on with are looked at once. -/
theorem joined {following : Handling β}
    (branches : Supplies setting allowed following others finally' → Supplies setting allowed steps wanted returned)
    (rest : Supplies setting allowed following others finally') : Supplies setting allowed steps wanted returned :=
  branches rest

theorem fail {problem : Problem} : Supplies setting allowed (fail problem : Handling α) wanted returned where
  holds ended := nomatch congrArg Prod.fst ended

theorem misuse {message : Diagnostic.Message} {arguments : List String} :
    Supplies setting allowed (misuse message arguments : Handling α) wanted returned := fail

/-- Steps that end with a problem make the rest of no account. -/
theorem refused (first : ∀ wanted returned, Supplies setting allowed steps wanted returned) :
    Supplies setting allowed (steps >>= next) wanted finally' := .after (first [] _)

theorem warn {message : Diagnostic.Message} {arguments : List String} {returned : Unit → Draft → Prop}
    (gives : ∀ draft, returned () draft) : Supplies setting allowed (warn message arguments) [] returned where
  holds ended := by
    obtain ⟨-, rfl⟩ := Prod.mk.inj ended
    exact ⟨⟨fun each => each, fun _ member => member, fun _ => Option.or_none.symm⟩, gives _⟩

theorem schedule {edit : Edit} {returned : Unit → Draft → Prop} (allows : allowed edit) (plain : edit.newField? = none)
    (gives : ∀ draft, returned () draft) : Supplies setting allowed (schedule edit) [] returned where
  holds ended := by
    obtain ⟨-, rfl⟩ := Prod.mk.inj ended
    exact ⟨.schedule allows plain _, gives _⟩

/-- An edit that stays while the steps go on. -/
theorem scheduled {edit : Edit} {next : Unit → Handling β} (allows : allowed edit) (plain : edit.newField? = none)
    (rest : Supplies setting allowed (next ()) wanted finally') :
    Supplies setting allowed ( Weave.schedule edit >>= next) wanted
      fun value draft => edit ∈ draft.edits ∧ finally' value draft where
  holds {draft value after} ended := by
    rw [outcome_bind] at ended
    obtain ⟨supplied, gives⟩ := rest.holds ended
    have first : Supplied setting.decl allowed [] draft { draft with edits := draft.edits ++ [edit] } :=
      .schedule allows plain draft
    refine ⟨first.trans supplied, supplied.kept edit ?_, gives⟩
    exact List.mem_append_right _ (List.mem_singleton_self edit)

theorem injectMethod {method : Method} {returned : Unit → Draft → Prop} (allows : allowed (.injectMethod method))
    (gives : ∀ draft, returned () draft) : Supplies setting allowed (injectMethod method) [] returned :=
  .schedule allows rfl gives

theorem edited {returned : TypeDecl → Draft → Prop} (gives : ∀ draft, returned setting.decl draft) :
    Supplies setting allowed edited [] returned where
  holds ended := by
    obtain ⟨same, rfl⟩ := Prod.mk.inj ended
    cases same
    exact ⟨.refl _, gives _⟩

theorem hasMethod {name : String} {arity : Option Nat} {returned : Bool → Draft → Prop}
    (gives : ∀ found draft, returned found draft) : Supplies setting allowed (hasMethod name arity) [] returned where
  holds ended := by
    obtain ⟨-, rfl⟩ := Prod.mk.inj ended
    exact ⟨.refl _, gives _ _⟩

/-- A field that is added unless its name is taken. -/
theorem ensureField (field : Field) {next : Unit → Handling β} (allows : allowed (.injectField field))
    (rest : Supplies setting allowed (next ()) wanted finally') :
    Supplies setting allowed (do
      let found ← hasField field.name
      if found = true then next () else injectField field >>= next) (field :: wanted) finally' where
  holds {draft value after} ended := by
    rw [outcome_bind] at ended
    change Handling.outcome (if draft.hasField setting.decl field.name = true then _ else _) setting draft = _ at ended
    split at ended
    · next present =>
      obtain ⟨supplied, gives⟩ := rest.holds ended
      exact ⟨(Supplied.present present).trans supplied, gives⟩
    · rw [outcome_bind] at ended
      obtain ⟨supplied, gives⟩ := rest.holds ended
      exact ⟨(Supplied.injectField allows _).trans supplied, gives⟩

/-- Something else that is added unless it is there. -/
theorem lacking {condition : Prop} [Decidable condition] {steps : Handling Unit} {next : Unit → Handling β}
    (whenFalse : Supplies setting allowed steps [] fun _ _ => True)
    (rest : Supplies setting allowed (next ()) wanted finally') :
    Supplies setting allowed (if condition then next () else steps >>= next) wanted finally' :=
  .ite (fun _ => rest) fun _ => .after (whenFalse.mono fun _ _ _ => rest)

/-- A loop without state supplies what its passes supply. -/
theorem forIn {γ : Type} {items : List γ} {step : γ → PUnit → Handling (ForInStep PUnit)} {each : γ → List Field}
    {returned : PUnit → Draft → Prop}
    (pass : ∀ item ∈ items, Supplies setting allowed (step item ⟨⟩) (each item) fun result _ => result = .yield ⟨⟩)
    (gives : ∀ draft, returned ⟨⟩ draft) :
    Supplies setting allowed (ForIn.forIn items ⟨⟩ step) (items.flatMap each) returned := by
  induction items with
  | nil => exact .pure gives
  | cons item items inductionHypothesis =>
    rw [List.forIn_cons, List.flatMap_cons]
    refine .bind ((pass item List.mem_cons_self).mono fun result _ yields => ?_)
    subst yields
    exact inductionHypothesis fun other member => pass other (List.mem_cons_of_mem item member)

/-- A loop whose passes supply nothing. -/
theorem forIn_plain {γ : Type} {items : List γ} {step : γ → PUnit → Handling (ForInStep PUnit)}
    {returned : PUnit → Draft → Prop}
    (pass : ∀ item ∈ items, Supplies setting allowed (step item ⟨⟩) [] fun result _ => result = .yield ⟨⟩)
    (gives : ∀ draft, returned ⟨⟩ draft) : Supplies setting allowed (ForIn.forIn items ⟨⟩ step) [] returned := by
  have loop := forIn pass gives
  rwa [List.flatMap_eq_nil_iff.mpr fun _ _ => rfl] at loop

/-- What is committed is the draft that is left. -/
theorem rebuild : Supplies setting allowed rebuild [] (Committed setting) where
  holds {draft value after} ended := by
    rw [outcome_rebuild] at ended
    cases committed : commit setting.decl setting.span setting.site draft.edits with
    | error problem =>
      rw [committed] at ended
      exact nomatch congrArg Prod.fst ended
    | ok type =>
      rw [committed] at ended
      obtain ⟨same, rfl⟩ := Prod.mk.inj ended
      cases same
      exact ⟨.refl _, fun _ same => by cases same; exact committed⟩

end Supplies

end Handling

/-- A field that is written as it was planned; its origin and its annotations aside. -/
structure AlikeField (field written : Field) : Prop where
  name : written.name = field.name
  modifiers : written.modifiers = field.modifiers
  type : written.type = field.type
  initial : written.initial = field.initial

theorem AlikeField.trans {first second third : Field} (before : AlikeField first second)
    (after : AlikeField second third) : AlikeField first third where
  name := after.name.trans before.name
  modifiers := after.modifiers.trans before.modifiers
  type := after.type.trans before.type
  initial := after.initial.trans before.initial

/-- Edits that change no field that is there, and add fields that are written as they are. -/
def Edit.KeepsFields (edit : Edit) : Prop :=
  (∀ index, edit.subject? ≠ some (.field index)) ∧
    ∀ field, edit = .injectField field → ∀ span, ∃ written, lowerField span field = .ok written ∧ AlikeField field written

theorem lowerField_straight (span : Option Span) {field : Field} (straight : ∀ e, field.initial = some e → Straight e) :
    ∃ written, lowerField span field = .ok written ∧ AlikeField field written :=
  ⟨_, Reviser.onField_straight (leaves_lowering ..) none straight, ⟨rfl, rfl, rfl, rfl⟩⟩

theorem Edit.keepsFields_injectField {field : Field}
    (alike : ∀ span, ∃ written, lowerField span field = .ok written ∧ AlikeField field written) :
    (Edit.injectField field).KeepsFields :=
  ⟨nofun, fun other same => by cases same; exact alike⟩

section Commit

variable {type after : TypeDecl} {span : Option Span} {site : Option Site} {edits : List Edit}

theorem newFields_lowered {all lowered : List Edit} (each : edits.map (Edit.lower type span all) = lowered.map .ok) :
    (edits.filterMap Edit.newField?).map (lowerField span) = (lowered.filterMap Edit.newField?).map .ok := by
  refine filterMap_lowered (fun edit written outcome => ?_) each
  cases edit with
  | injectField field =>
    obtain ⟨fragment, revised, same⟩ := bind_eq_ok.mp outcome
    cases same
    exact congrArg some revised
  | injectMethod | injectType | injectConstructor | injectInitializer | replaceBody | replaceConstructor =>
    obtain ⟨fragment, _, same⟩ := bind_eq_ok.mp outcome
    cases same
    rfl
  | _ => cases outcome; rfl

theorem editsOf_eq_nil {subject : Subject} (other : ∀ edit ∈ edits, edit.subject? ≠ some subject) :
    editsOf subject edits = [] := by
  rw [editsOf, List.filter_eq_nil_iff]
  exact fun edit member => by simpa using other edit member

theorem exists_of_lowered {all lowered : List Edit} (each : edits.map (Edit.lower type span all) = lowered.map .ok)
    {written : Edit} (member : written ∈ lowered) : ∃ edit ∈ edits, edit.lower type span all = .ok written := by
  have found : Except.ok written ∈ lowered.map (@Except.ok InternalProblem Edit) := List.mem_map_of_mem member
  rw [← each] at found
  exact List.mem_map.mp found

/-- The fields of a type that is committed are those of the draft. -/
theorem fields_commit (committed : commit type span site edits = .ok after) (keeps : ∀ edit ∈ edits, edit.KeepsFields) :
    List.Forall₂ AlikeField (type.fields ++ edits.filterMap Edit.newField?) after.fields := by
  obtain ⟨-, -, lowered, each, rfl⟩ := commit_eq_ok.mp committed
  refine List.rel_append ?_ ?_
  · refine List.forall₂_iff_get.mpr ⟨(List.length_mapIdx ..).symm, fun index _ _ => ?_⟩
    have untouched : editsOf (.field index) lowered = [] := by
      refine editsOf_eq_nil fun written member => ?_
      obtain ⟨edit, inside, outcome⟩ := exists_of_lowered each member
      exact (Edit.lower_cases outcome).1 ▸ (keeps edit inside).1 index
    simp only [List.get_eq_getElem, List.getElem_mapIdx, revisedField, untouched, List.foldl_nil]
    exact ⟨rfl, rfl, rfl, rfl⟩
  · have written : ∀ field ∈ edits.filterMap Edit.newField?,
        ∃ written, lowerField span field = .ok written ∧ AlikeField field written := by
      intro field member
      obtain ⟨edit, inside, new⟩ := List.mem_filterMap.mp member
      refine (keeps edit inside).2 field ?_ span
      cases edit <;> simp_all [Edit.newField?]
    refine ((List.forall₂_and_left _ _).mpr ⟨written, forall₂_of_map_eq (newFields_lowered each)⟩).imp ?_
    rintro field result ⟨⟨fragment, fragmentOk, alike⟩, outcome⟩
    cases fragmentOk.symm.trans outcome
    exact alike

/-- Alike fields are found under the same names. -/
theorem find?_alike {fields written : List Field} (alike : List.Forall₂ AlikeField fields written) (name : String) :
    Option.Rel AlikeField (fields.find? (·.name == name)) (written.find? (·.name == name)) := by
  induction alike with
  | nil => exact .none
  | cons first _ inductionHypothesis =>
    rw [List.find?_cons, List.find?_cons, first.name]
    split
    · exact .some first
    · exact inductionHypothesis

/-- A name finds the field of the draft. -/
theorem field?_commit (committed : commit type span site edits = .ok after) (keeps : ∀ edit ∈ edits, edit.KeepsFields)
    (name : String) : Option.Rel AlikeField (Draft.field? { edits } type name) (after.field? name) :=
  find?_alike (fields_commit committed keeps) name

theorem Edit.removedMethod?_lower {all : List Edit} {edit written : Edit}
    (lowered : edit.lower type span all = .ok written) : written.removedMethod? = edit.removedMethod? := by
  cases edit with
  | injectField | injectMethod | injectConstructor | injectType | injectInitializer | replaceBody
  | replaceConstructor =>
    obtain ⟨fragment, _, same⟩ := bind_eq_ok.mp lowered
    cases same
    rfl
  | _ => cases lowered; rfl

/-- Where no method is removed, each has its own edits, and new ones come behind. -/
theorem methods_commit (committed : commit type span site edits = .ok after)
    (stay : ∀ edit ∈ edits, edit.removedMethod? = none) :
    ∃ lowered, edits.map (Edit.lower type span edits) = lowered.map .ok ∧ after.methods =
      type.methods.mapIdx (revisedMethod (removedSites site lowered) lowered) ++ lowered.filterMap Edit.newMethod? := by
  obtain ⟨-, -, lowered, each, rfl⟩ := commit_eq_ok.mp committed
  have none : lowered.filterMap Edit.removedMethod? = [] := by
    rw [List.filterMap_eq_nil_iff]
    intro written member
    obtain ⟨edit, inside, outcome⟩ := exists_of_lowered each member
    rw [Edit.removedMethod?_lower outcome, stay edit inside]
  refine ⟨lowered, each, ?_⟩
  simp only [assembled, none, List.contains_nil, Bool.not_false, implies_true, keepPlaces_of_all]

end Commit

/-- The fields of a type are as before, and where a name found none it finds the first wanted one. -/
def AddsMissing (wanted : List Field) (before after : TypeDecl) : Prop :=
  ∀ name, Option.Rel AlikeField ((before.field? name).or (wanted.find? (·.name == name))) (after.field? name)

namespace AddsMissing

variable {wanted others : List Field} {before between after : TypeDecl}

/-- What is committed behind steps that were the first to schedule an edit. -/
theorem of_commit {allowed : Edit → Prop} {span : Option Span} {site : Option Site} {draft last : Draft}
    (empty : draft.edits = []) (supplied : Supplied before allowed wanted draft last)
    (keeps : ∀ edit, allowed edit → edit.KeepsFields)
    (committed : commit before span site last.edits = .ok after) : AddsMissing wanted before after := by
  intro name
  have each : ∀ edit ∈ last.edits, allowed edit := supplied.edits (by simp [empty])
  have found := field?_commit committed (fun edit member => keeps edit (each edit member)) name
  have start : draft.field? before name = before.field? name := by
    rw [Draft.field?, empty, List.filterMap_nil, List.append_nil]
    rfl
  rwa [show Draft.field? { edits := last.edits } before name = last.field? before name from rfl,
    supplied.field? name, start] at found

theorem refl (type : TypeDecl) : AddsMissing [] type type := by
  intro name
  rw [List.find?_nil, Option.or_none]
  cases type.field? name with
  | none => exact .none
  | some field => exact .some ⟨rfl, rfl, rfl, rfl⟩

theorem rel_or {planned found last more : Option Field} (first : Option.Rel AlikeField planned found)
    (second : Option.Rel AlikeField (found.or more) last) : Option.Rel AlikeField (planned.or more) last := by
  cases first with
  | none => exact second
  | some alike =>
    cases second with
    | some alike' => exact .some (alike.trans alike')

theorem trans (first : AddsMissing wanted before between) (second : AddsMissing others between after) :
    AddsMissing (wanted ++ others) before after := by
  intro name
  rw [List.find?_append, ← Option.or_assoc]
  exact rel_or (first name) (second name)

/-- A field that is found stays. -/
theorem kept (adds : AddsMissing wanted before after) {name : String} {field : Field}
    (present : before.field? name = some field) : ∃ found, after.field? name = some found ∧ AlikeField field found := by
  have same := adds name
  rw [present, Option.some_or] at same
  generalize after.field? name = found at same
  cases same with
  | some alike => exact ⟨_, rfl, alike⟩

/-- Without a field of a name at the start, the first wanted one is found. -/
theorem first_found (adds : AddsMissing wanted before after) {name : String} (free : before.field? name = none)
    {field : Field} (first : wanted.find? (·.name == name) = some field) :
    ∃ found, after.field? name = some found ∧ AlikeField field found := by
  have same := adds name
  rw [free, Option.none_or, first] at same
  generalize after.field? name = found at same
  cases same with
  | some alike => exact ⟨_, rfl, alike⟩

end AddsMissing

/-- Occurrences carried out one after another, each on the type that the one before left. -/
inductive Sequence {Use : Type} (Step : TypeDecl → Use → TypeDecl → Prop) : TypeDecl → List Use → TypeDecl → Prop where
  | refl (type : TypeDecl) : Sequence Step type [] type
  | step {before between after : TypeDecl} {use : Use} {uses : List Use} (first : Step before use between)
      (rest : Sequence Step between uses after) : Sequence Step before (use :: uses) after

/-- What is wanted first under a name is wanted by the first occurrence that names it. -/
theorem find?_flatMap_of_first {Use : Type} {wanted : Use → List Field} {names : Use → List String} {name : String}
    (named : ∀ use, (wanted use).map (·.name) = names use) {uses : List Use} {first : Use}
    (found : uses.find? (fun use => decide (name ∈ names use)) = some first) :
    (uses.flatMap wanted).find? (·.name == name) = (wanted first).find? (·.name == name) := by
  induction uses with
  | nil => cases found
  | cons use uses inductionHypothesis =>
    rw [List.flatMap_cons, List.find?_append]
    by_cases here : name ∈ names use
    · rw [List.find?_cons_of_pos (by simpa using here)] at found
      cases found
      obtain ⟨field, member, same⟩ := List.mem_map.mp (named first ▸ here)
      have some : ((wanted first).find? (·.name == name)).isSome :=
        List.find?_isSome.mpr ⟨field, member, beq_iff_eq.mpr same⟩
      exact Option.or_of_isSome some
    · rw [List.find?_cons_of_neg (by simpa using here)] at found
      have none : (wanted use).find? (·.name == name) = none := by
        refine List.find?_eq_none.mpr fun field member same => here ?_
        exact named use ▸ List.mem_map.mpr ⟨field, member, beq_iff_eq.mp same⟩
      rw [none, Option.none_or, inductionHypothesis found]

/-- Each occurrence adds what it wants; a whole sequence adds what its occurrences want, in their order. -/
theorem Sequence.addsMissing {Use : Type} {Step : TypeDecl → Use → TypeDecl → Prop} {start after : TypeDecl}
    {uses : List Use} (run : Sequence Step start uses after) (kept : TypeDecl → Prop) (wanted : Use → List Field)
    (each : ∀ {before use after}, kept before → Step before use after →
      kept after ∧ AddsMissing (wanted use) before after) (begins : kept start) :
    AddsMissing (uses.flatMap wanted) start after := by
  induction run with
  | refl type => exact .refl type
  | step first rest inductionHypothesis =>
    obtain ⟨keeps, adds⟩ := each begins first
    rw [List.flatMap_cons]
    exact adds.trans (inductionHypothesis keeps)

/-- What each occurrence brings about and no occurrence ends holds for all of them afterwards. -/
theorem Sequence.holds {Use : Type} {Step : TypeDecl → Use → TypeDecl → Prop} {start after : TypeDecl}
    {uses : List Use} (run : Sequence Step start uses after) (kept : TypeDecl → Prop) (holds : TypeDecl → Use → Prop)
    (each : ∀ {before use after}, kept before → Step before use after →
      kept after ∧ holds after use ∧ ∀ other, holds before other → holds after other) (begins : kept start) :
    (∀ other, holds start other → holds after other) ∧ ∀ use ∈ uses, holds after use := by
  induction run with
  | refl type => exact ⟨fun _ => id, nofun⟩
  | step first rest inductionHypothesis =>
    obtain ⟨keeps, made, stays⟩ := each begins first
    obtain ⟨lasts, all⟩ := inductionHypothesis keeps
    exact ⟨fun other held => lasts other (stays other held), List.forall_mem_cons.mpr ⟨lasts _ made, all⟩⟩

end JavaWeave.Weave
