import JavaWeave.Proofs.Weave.InPlace

/-! What a commit makes of a type, and how little the order of its edits counts: edits of different members,
and injections of different kinds, may change places. Conversions into an enum are edits of one subject, for of
several only the last is carried out. -/

namespace JavaWeave.Weave

open Syntax

variable {α β : Type}

/-- What edits of one subject bring can be read off the edits of that subject. -/
theorem filterMap_editsOf {subject : Subject} {part? : Edit → Option β} (edits : List Edit)
    (bound : ∀ edit, (part? edit).isSome → edit.subject? = some subject) :
    (editsOf subject edits).filterMap part? = edits.filterMap part? := by
  induction edits with
  | nil => rfl
  | cons edit edits inductionHypothesis =>
    rw [editsOf_cons, List.filterMap_cons]
    split
    · rw [List.filterMap_cons, inductionHypothesis]
    · cases found : part? edit with
      | none => exact inductionHypothesis
      | some part => exact absurd (bound edit (by simp [found])) ‹_›

theorem findSome?_editsOf {subject : Subject} {part? : Edit → Option β} (edits : List Edit)
    (bound : ∀ edit, (part? edit).isSome → edit.subject? = some subject) :
    (editsOf subject edits).reverse.findSome? part? = edits.reverse.findSome? part? := by
  rw [← List.head?_filterMap, ← List.head?_filterMap, List.filterMap_reverse, List.filterMap_reverse,
    filterMap_editsOf edits bound]

/-- Edits with the same edits of each subject. -/
structure Reordered (others edits : List Edit) : Prop where
  perm : others.Perm edits
  same : ∀ subject, editsOf subject others = editsOf subject edits

namespace Reordered

variable {others edits : List Edit} (reordered : Reordered others edits)
include reordered

theorem filterMap (subject : Subject) {part? : Edit → Option β}
    (bound : ∀ edit, (part? edit).isSome → edit.subject? = some subject) :
    others.filterMap part? = edits.filterMap part? := by
  rw [← filterMap_editsOf others bound, reordered.same, filterMap_editsOf edits bound]

theorem findSome? (subject : Subject) {part? : Edit → Option β}
    (bound : ∀ edit, (part? edit).isSome → edit.subject? = some subject) :
    others.reverse.findSome? part? = edits.reverse.findSome? part? := by
  rw [← findSome?_editsOf others bound, reordered.same, findSome?_editsOf edits bound]

/-- A change of the edits one by one that leaves their subjects. -/
theorem map {change : Edit → Edit} (keeps : ∀ edit, (change edit).subject? = edit.subject?) :
    Reordered (others.map change) (edits.map change) where
  perm := reordered.perm.map change
  same subject := by
    have each (edits : List Edit) : editsOf subject (edits.map change) = (editsOf subject edits).map change := by
      simp only [editsOf, List.filter_map, Function.comp_def, keeps]
    rw [each, each, reordered.same]

theorem contains_removedSites (consumed : Option Site) (site : Site) :
    (removedSites consumed others).contains site = (removedSites consumed edits).contains site := by
  apply Bool.eq_iff_iff.mpr
  simp only [removedSites, List.contains_iff_mem, List.mem_append,
    (reordered.perm.filterMap Edit.removedSite?).mem_iff]

theorem revisedMethod_eq (consumed : Option Site) :
    revisedMethod (removedSites consumed others) others =
      revisedMethod (removedSites consumed edits) edits := by
  funext index method
  simp only [revisedMethod, reordered.same, reordered.contains_removedSites]

theorem revisedField_eq (consumed : Option Site) :
    revisedField (removedSites consumed others) others =
      revisedField (removedSites consumed edits) edits := by
  funext index field
  simp only [revisedField, reordered.same, reordered.contains_removedSites]

theorem revisedConstructor_eq : revisedConstructor others = revisedConstructor edits := by
  funext index constructor
  simp only [revisedConstructor, reordered.same]

theorem assembled_eq (type : TypeDecl) (consumed : Option Site) :
    assembled type consumed others = assembled type consumed edits := by
  have removals (index : Nat) := (reordered.perm.filterMap Edit.removedMethod?).contains_eq (a := index)
  have conversion : conversion? others = conversion? edits :=
    reordered.findSome? .kind fun edit => by cases edit <;> simp [Edit.newConstants?, Edit.subject?]
  have fields : others.filterMap Edit.newField? = edits.filterMap Edit.newField? :=
    reordered.filterMap .newField fun edit => by cases edit <;> simp [Edit.newField?, Edit.subject?]
  have methods : others.filterMap Edit.newMethod? = edits.filterMap Edit.newMethod? :=
    reordered.filterMap .newMethod fun edit => by cases edit <;> simp [Edit.newMethod?, Edit.subject?]
  have constructors : others.filterMap Edit.newConstructor? = edits.filterMap Edit.newConstructor? :=
    reordered.filterMap .newConstructor
      fun edit => by cases edit <;> simp [Edit.newConstructor?, Edit.subject?]
  have types : others.filterMap Edit.newType? = edits.filterMap Edit.newType? :=
    reordered.filterMap .newType fun edit => by cases edit <;> simp [Edit.newType?, Edit.subject?]
  have initializers : others.filterMap Edit.newInitializer? = edits.filterMap Edit.newInitializer? :=
    reordered.filterMap .newInitializer
      fun edit => by cases edit <;> simp [Edit.newInitializer?, Edit.subject?]
  simp only [assembled, reordered.contains_removedSites, removals, conversion, fields, methods, constructors,
    types, initializers, reordered.revisedMethod_eq, reordered.revisedField_eq,
    reordered.revisedConstructor_eq]

theorem finalReturnType_eq (type : TypeDecl) (index : Nat) :
    Edit.finalReturnType type others index = Edit.finalReturnType type edits index := by
  have bound (edit : Edit) :
      (edit.newReturnType? index).isSome → edit.subject? = some (.method index) := by
    cases edit <;> simp +contextual [Edit.newReturnType?, Edit.subject?]
  have replaced := reordered.findSome? (.method index) bound
  rw [Edit.finalReturnType, Edit.finalReturnType, replaced]

theorem lower_eq (type : TypeDecl) (span : Option Span) :
    Edit.lower type span others = Edit.lower type span edits := by
  funext edit
  cases edit <;> simp only [Edit.lower, reordered.finalReturnType_eq]

end Reordered

/-! Lowering, edit by edit. -/

theorem bind_eq_ok {ε : Type} {first : Except ε α} {next : α → Except ε β} {result : β} :
    first >>= next = .ok result ↔ ∃ value, first = .ok value ∧ next value = .ok result := by
  cases first <;> simp [bind, Except.bind]

theorem mapM_eq_ok {ε : Type} {f : α → Except ε β} {items : List α} {results : List β} :
    items.mapM f = .ok results ↔ items.map f = results.map .ok := by
  induction items generalizing results with
  | nil => cases results <;> simp [pure, Except.pure]
  | cons item items inductionHypothesis =>
    simp only [List.mapM_cons, List.map_cons, bind_eq_ok, inductionHypothesis, pure, Except.pure]
    constructor
    · rintro ⟨first, firstOk, rest, restOk, same⟩
      cases same
      rw [firstOk, restOk, List.map_cons]
    · intro same
      cases results with
      | nil => cases same
      | cons first rest =>
        obtain ⟨firstOk, restOk⟩ := List.cons.inj same
        exact ⟨first, firstOk, rest, restOk, rfl⟩

theorem forM_eq_ok {ε : Type} {f : α → Except ε Unit} {items : List α} :
    items.forM f = .ok () ↔ ∀ item ∈ items, f item = .ok () := by
  induction items with
  | nil => simp [List.forM, pure, Except.pure]
  | cons item items inductionHypothesis =>
    rw [List.forM, bind_eq_ok]
    constructor
    · rintro ⟨_, firstOk, restOk⟩ other member
      rcases List.mem_cons.mp member with rfl | member
      · exact firstOk
      · exact inductionHypothesis.mp restOk other member
    · intro each
      have rest : ∀ other ∈ items, f other = .ok () := fun other member => each other (by simp [member])
      exact ⟨(), each item (by simp), inductionHypothesis.mpr rest⟩

/-- A commit goes through if all indices are in range and every fragment can be lowered. -/
theorem commit_eq_ok {type result : TypeDecl} {span : Option Span} {consumed : Option Site}
    {edits : List Edit} :
    commit type span consumed edits = .ok result ↔
      (∀ site, consumed = some site → site.check type = .ok ()) ∧
      (∀ edit ∈ edits, edit.check type = .ok ()) ∧
      ∃ lowered, edits.map (Edit.lower type span edits) = lowered.map .ok ∧
        result = assembled type consumed lowered := by
  have finish (lowered : List Edit) :
      (pure (applyEdits type consumed lowered) : Except InternalProblem TypeDecl) = .ok result ↔
        result = assembled type consumed lowered := by
    rw [applyEdits_eq]
    exact ⟨fun same => (Except.ok.inj same).symm, fun same => congrArg Except.ok same.symm⟩
  have rest : (do
        edits.forM (Edit.check type)
        let lowered ← edits.mapM (Edit.lower type span edits)
        return applyEdits type consumed lowered) = Except.ok result ↔
      (∀ edit ∈ edits, edit.check type = .ok ()) ∧
      ∃ lowered, edits.map (Edit.lower type span edits) = lowered.map .ok ∧
        result = assembled type consumed lowered := by
    simp only [bind_eq_ok, mapM_eq_ok, finish, ← forM_eq_ok]
    constructor
    · rintro ⟨_, checked, others⟩
      exact ⟨checked, others⟩
    · rintro ⟨checked, others⟩
      exact ⟨(), checked, others⟩
  cases consumed with
  | none => exact rest.trans (by simp)
  | some site =>
    unfold commit
    rw [bind_eq_ok]
    constructor
    · rintro ⟨_, checked, others⟩
      exact ⟨fun _ same => by cases same; exact checked, rest.mp others⟩
    · rintro ⟨checked, others⟩
      exact ⟨(), checked site rfl, rest.mpr others⟩

theorem results_eq {ε : Type} {f : α → Except ε α} {items results : List α}
    (each : items.map f = results.map .ok) :
    results = items.map fun item => (f item).toOption.getD item := by
  induction items generalizing results with
  | nil => simpa using each.symm
  | cons item items inductionHypothesis =>
    cases results with
    | nil => cases each
    | cons result results =>
      obtain ⟨firstOk, restOk⟩ := List.cons.inj each
      rw [List.map_cons, ← inductionHypothesis restOk, firstOk]
      rfl

namespace Edit

variable {type : TypeDecl} {span : Option Span} {edits : List Edit} {edit written : Edit}

/-- Lowering rewrites what an edit carries, not what it is about. -/
theorem lower_cases (lowered : edit.lower type span edits = .ok written) :
    written.subject? = edit.subject? ∧ ∀ index, written.newReturnType? index = edit.newReturnType? index := by
  cases edit with
  | injectField | injectMethod | injectConstructor | injectType | injectInitializer | replaceBody
  | replaceConstructor =>
    obtain ⟨fragment, _, same⟩ := bind_eq_ok.mp lowered
    cases same
    exact ⟨rfl, fun _ => rfl⟩
  | _ => cases lowered; exact ⟨rfl, fun _ => rfl⟩

/-- The edit as it is carried out; one that cannot be lowered is left alone. -/
def lowered (type : TypeDecl) (span : Option Span) (edits : List Edit) (edit : Edit) : Edit :=
  (edit.lower type span edits).toOption.getD edit

theorem subject?_lowered : (edit.lowered type span edits).subject? = edit.subject? := by
  rw [Edit.lowered]
  cases outcome : edit.lower type span edits with
  | error problem => rfl
  | ok written => exact (lower_cases outcome).1

theorem newReturnType?_lowered (index : Nat) :
    (edit.lowered type span edits).newReturnType? index = edit.newReturnType? index := by
  rw [Edit.lowered]
  cases outcome : edit.lower type span edits with
  | error problem => rfl
  | ok written => exact (lower_cases outcome).2 index

theorem returnType_onMethod {index : Nat} (method : Method) (own : edit.subject? = some (.method index)) :
    (edit.onMethod method).returnType = (edit.newReturnType? index).getD method.returnType := by
  cases edit <;> simp_all [subject?, onMethod, newReturnType?]

/-- Own edits leave a method with the last return type that they give it. -/
theorem returnType_foldl (edits : List Edit) (index : Nat) (method : Method) :
    ((editsOf (.method index) edits).foldl onMethod method).returnType =
      (edits.reverse.findSome? (newReturnType? index)).getD method.returnType := by
  induction edits generalizing method with
  | nil => rfl
  | cons edit edits inductionHypothesis =>
    rw [editsOf_cons, List.reverse_cons, List.findSome?_append]
    split
    case isTrue own =>
      rw [List.foldl_cons, inductionHypothesis, returnType_onMethod method own]
      cases edits.reverse.findSome? (newReturnType? index) <;> simp
    case isFalse other =>
      have none : edit.newReturnType? index = none := by
        cases edit <;> simp_all [subject?, newReturnType?]
      rw [inductionHypothesis]
      simp [none]

/-- The return type that a new body is lowered against is the one its method has after the commit. -/
theorem finalReturnType_eq_revised {index : Nat} {method : Method} (removed : List Site)
    (present : type.methods[index]? = some method) :
    finalReturnType type edits index =
      (revisedMethod removed (edits.map (Edit.lowered type span edits)) index method).returnType := by
  rw [revisedMethod, returnType_foldl, finalReturnType, present, ← List.map_reverse, List.findSome?_map]
  simp only [Function.comp_def, newReturnType?_lowered, Option.map_some, Option.getD_some]

end Edit

theorem exists_of_map_eq {ε : Type} {f : α → Except ε β} {items : List α} {results : List β} {item : α}
    (each : items.map f = results.map .ok) (member : item ∈ items) : ∃ result ∈ results, f item = .ok result := by
  have found := List.mem_map_of_mem (f := f) member
  rw [each] at found
  obtain ⟨result, member, same⟩ := List.mem_map.mp found
  exact ⟨result, member, same.symm⟩

/-- A commit that goes through is determined by the members at the start: each is revised by its own edits, a
new body is lowered against the return type that its method ends up with, and edits in another order that keeps
those of each subject in theirs give the same type. -/
theorem commit_determined {type result : TypeDecl} {span : Option Span} {consumed : Option Site}
    {edits : List Edit} (committed : commit type span consumed edits = .ok result) :
    (∃ lowered, edits.map (Edit.lower type span edits) = lowered.map .ok ∧
      result = assembled type consumed lowered ∧
      ∀ index method body, type.methods[index]? = some method → Edit.replaceBody index body ∈ edits →
        ∃ written, Edit.replaceBody index written ∈ lowered ∧
          lowerBody span (revisedMethod (removedSites consumed lowered) lowered index method).returnType body
            = .ok written) ∧
    ∀ others, Reordered others edits → commit type span consumed others = .ok result := by
  obtain ⟨siteOk, editsOk, lowered, each, rfl⟩ := commit_eq_ok.mp committed
  have loweredEq : lowered = edits.map (Edit.lowered type span edits) := results_eq each
  refine ⟨⟨lowered, each, rfl, ?_⟩, ?_⟩
  · intro index method body present scheduled
    obtain ⟨edit, member, outcome⟩ := exists_of_map_eq each scheduled
    obtain ⟨written, writtenOk, same⟩ := bind_eq_ok.mp outcome
    cases same
    rw [Edit.finalReturnType_eq_revised (removedSites consumed lowered) present, ← loweredEq] at writtenOk
    exact ⟨written, member, writtenOk⟩
  · intro others reordered
    refine commit_eq_ok.mpr ⟨siteOk, fun edit member => editsOk edit (reordered.perm.mem_iff.mp member), ?_⟩
    refine ⟨others.map (Edit.lowered type span edits), ?_, ?_⟩
    · rw [reordered.lower_eq, List.map_map]
      apply List.map_congr_left
      intro edit member
      obtain ⟨written, _, outcome⟩ := exists_of_map_eq each (reordered.perm.mem_iff.mp member)
      rw [Function.comp_apply, Edit.lowered, outcome]
      rfl
    · rw [loweredEq]
      exact (reordered.map fun _ => Edit.subject?_lowered).assembled_eq type consumed |>.symm

/-- A plain annotation of a name. -/
def mark (name : String) : Annotation := { type := .named name }

/-- A class with two methods, of which the second has three annotations. -/
def pairDecl : TypeDecl where
  name := "Pair"
  methods := [{ returnType := .void, name := "first" },
    { returnType := .void, name := "second", annotations := [mark "A", mark "B", mark "C"] }]

/-- The new body comes before the return type it is lowered against, and the first method goes. -/
def pairEdits : List Edit :=
  [.removeMethod 0, .removeNote (.method 1 2), .replaceBody 1 [.returnsDefault],
   .injectMethod { returnType := .void, name := "third" }, .replaceReturnType 1 (.named "int")]

def pairRevised : TypeDecl := { pairDecl with
  methods := [
    { returnType := .named "int", name := "second", annotations := [mark "B"],
      body := [.returns (some (.int 0))] },
    { returnType := .void, name := "third", origin := ({} : Origin).stamp none }] }

theorem commit_determined_pair :
    commit pairDecl none (some (.method 1 0)) pairEdits = .ok pairRevised ∧
    (∃ lowered, pairEdits.map (Edit.lower pairDecl none pairEdits) = lowered.map .ok ∧
      pairRevised = assembled pairDecl (some (.method 1 0)) lowered) ∧
    ∀ others, Reordered others pairEdits →
      commit pairDecl none (some (.method 1 0)) others = .ok pairRevised := by
  have committed : commit pairDecl none (some (.method 1 0)) pairEdits = .ok pairRevised := rfl
  obtain ⟨⟨lowered, each, same, _⟩, anyOrder⟩ := commit_determined committed
  exact ⟨committed, ⟨lowered, each, same⟩, anyOrder⟩

/-- Of two conversions into an enum the later replaces the earlier: its constants alone are added, and the
conversions cannot change places. -/
theorem conversion_replaces_earlier :
    ∃ result other,
      commit pairDecl none none [.convertToEnum [{ name := "A" }], .convertToEnum [{ name := "B" }]]
        = .ok result ∧
      commit pairDecl none none [.convertToEnum [{ name := "B" }], .convertToEnum [{ name := "A" }]]
        = .ok other ∧
      result.constants.map (·.name) ≠ ["A", "B"] ∧
      result.constants.map (·.name) = ["B"] ∧ other.constants.map (·.name) = ["A"] :=
  ⟨_, _, rfl, rfl, by decide, by decide, by decide⟩

end JavaWeave.Weave
