import JavaWeave.Proofs.Weave.Commit
import JavaWeave.Proofs.Weave.Lowering

/-! Edits are committed all or not at all. A commit is refused exactly if an index is out of range in the type at
the start or a fragment cannot be lowered, and one that goes through finds every index in range when its turn comes,
whatever was removed before. -/

namespace JavaWeave.Weave

open Syntax

variable {α β : Type}

/-- There is an annotation at the site. -/
def Site.Present (type : TypeDecl) : Site → Prop
  | .type place => place < type.annotations.length
  | .field index place => ∃ field, type.fields[index]? = some field ∧ place < field.annotations.length
  | .method index place => ∃ method, type.methods[index]? = some method ∧ place < method.annotations.length

/-- The member that edits are about is there. -/
def Subject.Present (type : TypeDecl) : Subject → Prop
  | .method index => index < type.methods.length
  | .field index => index < type.fields.length
  | .constructor index => index < type.constructors.length
  | .kind | .newField | .newMethod | .newConstructor | .newType | .newInitializer => True

/-- Whatever the edit refers to is there. -/
structure Edit.InRange (type : TypeDecl) (edit : Edit) : Prop where
  member : ∀ subject, edit.subject? = some subject → subject.Present type
  site : ∀ site, edit.removedSite? = some site → site.Present type

/-- Whether the fragment of an edit holds a default return that nothing can be returned for. Constants of a
conversion into an enum are not looked into. -/
def Edit.strays : Edit → Bool
  | .injectField field => Stray.inField false field
  | .injectMethod method => Stray.inMethod method
  | .injectConstructor constructor | .replaceConstructor _ constructor => Stray.inConstructor constructor
  | .injectType decl => Stray.inType false decl
  | .injectInitializer initializer => Stray.inInitializer initializer
  | .replaceBody _ body => Stray.inStatements true body
  | .replaceReturnType .. | .replaceParameters .. | .finalizeParameters _ | .setModifiers .. | .removeMethodNote ..
  | .removeMethod _ | .removeFieldInitializer _ | .setConstructorAccess .. | .convertToEnum _ | .removeNote _ => false

theorem checkIndex_eq_ok {what : String} {index length : Nat} :
    checkIndex what index length = .ok () ↔ index < length := by
  unfold checkIndex
  split <;> simp_all

theorem Site.check_eq_ok {type : TypeDecl} {site : Site} : site.check type = .ok () ↔ site.Present type := by
  cases site with
  | type place => exact checkIndex_eq_ok
  | field index place =>
    simp only [Site.check, Site.Present]
    split
    · next absent => simp [absent]
    · next field there => simp [there, checkIndex_eq_ok]
  | method index place =>
    simp only [Site.check, Site.Present]
    split
    · next absent => simp [absent]
    · next method there => simp [there, checkIndex_eq_ok]

namespace Edit

variable {type : TypeDecl} {edit : Edit}

theorem check_eq_ok : edit.check type = .ok () ↔ edit.InRange type := by
  have of_member (subject : Subject) (about : edit.subject? = some subject) (elsewhere : edit.removedSite? = none) :
      edit.InRange type ↔ subject.Present type := by
    refine ⟨fun inRange => inRange.member subject about, fun present => ⟨?_, by simp [elsewhere]⟩⟩
    intro other same
    cases about.symm.trans same
    exact present
  cases edit with
  | removeNote site =>
    refine Site.check_eq_ok.trans ⟨fun present => ⟨by simp [subject?], fun other same => ?_⟩, fun inRange => ?_⟩
    · cases same
      exact present
    · exact inRange.site site rfl
  | replaceBody | replaceReturnType | replaceParameters | finalizeParameters | setModifiers | removeMethodNote
  | removeMethod | removeFieldInitializer | replaceConstructor | setConstructorAccess =>
    exact checkIndex_eq_ok.trans (of_member _ rfl rfl).symm
  | _ => exact iff_of_true rfl ((of_member _ rfl rfl).mpr trivial)

/-- An edit can be lowered unless its fragment strays. -/
theorem failsIf_lower (span : Option Span) (edits : List Edit) : FailsIf edit.strays (edit.lower type span edits) := by
  cases edit with
  | injectField field => exact (failsIf_field span _ none field).map
  | injectMethod method => exact (failsIf_method span _ none method).map
  | injectConstructor constructor => exact (failsIf_constructor span _ none constructor).map
  | replaceConstructor index constructor => exact (failsIf_constructor span _ none constructor).map
  | injectType decl => exact (failsIf_type span _ none decl).map
  | injectInitializer initializer => exact (failsIf_initializer span _ none initializer).map
  | replaceBody index body => exact (failsIf_statements span _ (some _) body).map
  | _ => exact .ok

end Edit

theorem exists_map_eq_ok {ε : Type} {f : α → Except ε β} {items : List α} :
    (∃ results : List β, items.map f = results.map .ok) ↔ ∀ item ∈ items, ∃ result, f item = .ok result := by
  constructor
  · rintro ⟨results, each⟩ item member
    obtain ⟨result, _, same⟩ := exists_of_map_eq each member
    exact ⟨result, same⟩
  · intro each
    induction items with
    | nil => exact ⟨[], rfl⟩
    | cons item items inductionHypothesis =>
      obtain ⟨⟨result, same⟩, others⟩ := List.forall_mem_cons.mp each
      obtain ⟨results, rest⟩ := inductionHypothesis others
      exact ⟨result :: results, by rw [List.map_cons, List.map_cons, same, rest]⟩

variable {type result : TypeDecl} {span : Option Span} {consumed : Option Site} {edits : List Edit}

theorem commit_succeeds_iff :
    (∃ result, commit type span consumed edits = .ok result) ↔
      (∀ site, consumed = some site → site.Present type) ∧
        ∀ edit ∈ edits, edit.InRange type ∧ edit.strays = false := by
  simp only [commit_eq_ok, Site.check_eq_ok, Edit.check_eq_ok]
  constructor
  · rintro ⟨result, sites, inRange, lowered, each, _⟩
    refine ⟨sites, fun edit member => ⟨inRange edit member, ?_⟩⟩
    exact (Edit.failsIf_lower span edits).mp (exists_map_eq_ok.mp ⟨lowered, each⟩ edit member)
  · rintro ⟨sites, each⟩
    have lowers : ∀ edit ∈ edits, ∃ written, edit.lower type span edits = .ok written :=
      fun edit member => (Edit.failsIf_lower span edits).mpr (each edit member).2
    obtain ⟨lowered, each'⟩ := exists_map_eq_ok.mpr lowers
    exact ⟨_, sites, fun edit member => (each edit member).1, lowered, each', rfl⟩

/-- A commit is refused exactly if it refers to something that the type does not have, or if a fragment holds a
default return that nothing can be returned for. -/
theorem commit_refused_iff :
    (∃ problem, commit type span consumed edits = .error problem) ↔
      (∃ site, consumed = some site ∧ ¬ site.Present type) ∨
        ∃ edit ∈ edits, ¬ edit.InRange type ∨ edit.strays = true := by
  have either : (∃ problem, commit type span consumed edits = .error problem) ↔
      ¬ ∃ result, commit type span consumed edits = .ok result := by
    cases commit type span consumed edits <;> simp
  rw [either, commit_succeeds_iff]
  grind

/-- Every step finds what it needs when its turn comes. -/
def EachReady (ready : α → β → Prop) (apply : α → β → α) : α → List β → Prop
  | _, [] => True
  | state, step :: rest => ready state step ∧ EachReady ready apply (apply state step) rest

/-- Steps in an order in which none takes away what a later one needs. -/
theorem eachReady_of_pairwise {ready : α → β → Prop} {apply : α → β → α} {before : β → β → Prop}
    (keeps : ∀ state step other, before step other → ready state step → ready state other →
      ready (apply state step) other)
    {steps : List β} (ordered : steps.Pairwise before) {state : α} (all : ∀ step ∈ steps, ready state step) :
    EachReady ready apply state steps := by
  induction steps generalizing state with
  | nil => trivial
  | cons step rest inductionHypothesis =>
    obtain ⟨first, ordered⟩ := List.pairwise_cons.mp ordered
    obtain ⟨own, others⟩ := List.forall_mem_cons.mp all
    refine ⟨own, inductionHypothesis ordered fun other member => ?_⟩
    exact keeps state step other (first other member) own (others other member)

/-- What stands before an item stays when the item is removed. -/
theorem lt_length_eraseIdx {items : List α} {place other : Nat} (before : other < place)
    (within : other < items.length) : other < (items.eraseIdx place).length := by
  rw [List.length_eraseIdx]
  split <;> omega

/-- An annotation that is removed leaves those before it. -/
theorem Site.present_removeNoteAt {site other : Site} (after : site.isAfter other = true)
    (present : other.Present type) : other.Present (removeNoteAt type site) := by
  cases site with
  | type place =>
    cases other with
    | type before => exact lt_length_eraseIdx (by simpa [isAfter] using after) present
    | field | method => cases after
  | field index place =>
    cases other with
    | type before => exact present
    | field member before =>
      obtain ⟨field, there, within⟩ := present
      by_cases same : index = member
      · have earlier : before < place := by simpa [isAfter, same] using after
        exact ⟨_, by simp [removeNoteAt, amendField, same, there]; rfl, lt_length_eraseIdx earlier within⟩
      · exact ⟨field, by simp [removeNoteAt, amendField, same, there], within⟩
    | method => cases after
  | method index place =>
    cases other with
    | type before => exact present
    | field member before => exact present
    | method member before =>
      obtain ⟨method, there, within⟩ := present
      by_cases same : index = member
      · have earlier : before < place := by simpa [isAfter, same] using after
        exact ⟨_, by simp [removeNoteAt, amendMethod, same, there]; rfl, lt_length_eraseIdx earlier within⟩
      · exact ⟨method, by simp [removeNoteAt, amendMethod, same, there], within⟩

namespace Subject

variable {subject : Subject}

theorem present_removeNoteAt (site : Site) : subject.Present (removeNoteAt type site) ↔ subject.Present type := by
  cases subject <;> cases site <;> simp [Subject.Present, removeNoteAt, amendField, amendMethod]

theorem present_removeNotes (sites : List Site) :
    subject.Present (sites.foldl removeNoteAt type) ↔ subject.Present type := by
  induction sites generalizing type with
  | nil => rfl
  | cons site sites inductionHypothesis => exact inductionHypothesis.trans (present_removeNoteAt site)

theorem present_amend (edit : Edit) : subject.Present (edit.amend type) ↔ subject.Present type := by
  cases subject <;> cases edit <;>
    simp [Subject.Present, Edit.amend, amendMethod, amendField, amendConstructor]

theorem present_amendAll (edits : List Edit) :
    subject.Present (edits.foldl Edit.amend type) ↔ subject.Present type := by
  induction edits generalizing type with
  | nil => rfl
  | cons edit edits inductionHypothesis => exact inductionHypothesis.trans (present_amend edit)

end Subject

theorem Edit.removedSite?_lower {edit written : Edit} (lowered : edit.lower type span edits = .ok written) :
    written.removedSite? = edit.removedSite? := by
  cases edit with
  | injectField | injectMethod | injectConstructor | injectType | injectInitializer | replaceBody
  | replaceConstructor =>
    obtain ⟨fragment, _, same⟩ := bind_eq_ok.mp lowered
    cases same
    rfl
  | _ => cases lowered; rfl

/-- A commit that goes through removes annotations, changes members and removes methods, each where it stands at
that moment. -/
theorem commit_ready (committed : commit type span consumed edits = .ok result) :
    ∃ lowered, edits.map (Edit.lower type span edits) = lowered.map .ok ∧
      result = applyEdits type consumed lowered ∧
      let sites := descending Site.isAfter (removedSites consumed lowered)
      let stripped := sites.foldl removeNoteAt type
      let amended := lowered.foldl Edit.amend stripped
      let removals := descending (fun a b => b < a) (lowered.filterMap Edit.removedMethod?)
      EachReady Site.Present removeNoteAt type sites ∧
      EachReady (fun type edit => ∀ subject, edit.subject? = some subject → subject.Present type)
        Edit.amend stripped lowered ∧
      EachReady (fun methods index => index < methods.length) List.eraseIdx amended.methods removals := by
  obtain ⟨consumedOk, editsOk, lowered, each, same⟩ := commit_eq_ok.mp committed
  have inRange (written : Edit) (member : written ∈ lowered) : written.InRange type := by
    have found := List.mem_map_of_mem (f := Except.ok (ε := InternalProblem)) member
    rw [← each] at found
    obtain ⟨edit, scheduled, outcome⟩ := List.mem_map.mp found
    have original := Edit.check_eq_ok.mp (editsOk edit scheduled)
    refine ⟨?_, ?_⟩
    · rw [(Edit.lower_cases outcome).1]
      exact original.member
    · rw [Edit.removedSite?_lower outcome]
      exact original.site
  refine ⟨lowered, each, same.trans (applyEdits_eq ..).symm, ?_, ?_, ?_⟩
  · have falling := pairwise_descending Site.isAfter (removedSites consumed lowered)
      (fun _ _ _ => Site.isAfter_trans) fun _ _ => Site.isAfter_total
    refine eachReady_of_pairwise (fun _ _ _ after _ => Site.present_removeNoteAt after) falling fun site member => ?_
    rcases List.mem_append.mp (mem_descending.mp member) with own | listed
    · exact Site.check_eq_ok.mp (consumedOk site (by simpa using own))
    · obtain ⟨edit, scheduled, removed⟩ := List.mem_filterMap.mp listed
      exact (inRange edit scheduled).site site removed
  · have anyOrder : lowered.Pairwise fun _ _ => True := List.pairwise_of_forall fun _ _ => trivial
    refine eachReady_of_pairwise ?_ anyOrder ?_
    · intro state step other _ _ ready subject about
      exact (Subject.present_amend step).mpr (ready subject about)
    · intro edit member subject about
      exact (Subject.present_removeNotes _).mpr ((inRange edit member).member subject about)
  · have falling := pairwise_descending (fun a b => b < a) (lowered.filterMap Edit.removedMethod?)
      (by simp; omega) (by simp; omega)
    refine eachReady_of_pairwise (fun methods index other after _ here => ?_) falling fun index member => ?_
    · exact lt_length_eraseIdx (by simpa using after) here
    · obtain ⟨edit, scheduled, removed⟩ := List.mem_filterMap.mp (mem_descending.mp member)
      have about : edit.subject? = some (.method index) := by
        cases edit <;> simp_all [Edit.removedMethod?, Edit.subject?]
      have present : (Subject.method index).Present type := (inRange edit scheduled).member _ about
      exact (Subject.present_amendAll lowered).mpr ((Subject.present_removeNotes _).mpr present)

end JavaWeave.Weave
