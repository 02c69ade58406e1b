import JavaWeave.Weave.Edit

/-! Edits in place. A commit removes annotations from the last to the first, changes members where they stand,
removes methods from the last to the first and appends what is new. The outcome can be read off the type at the
start: a member that stays has lost the annotations at removed sites and has then had its own edits. -/

namespace JavaWeave.Weave

open Syntax

variable {α β : Type}

section Places

/-- The items at the places that are kept. -/
def keepPlaces (kept : Nat → Bool) (items : List α) : List α :=
  ((indexed items).filter fun (place, _) => kept place).map (·.2)

@[simp] theorem indexed_nil : indexed ([] : List α) = [] := rfl

theorem indexed_cons (item : α) (items : List α) :
    indexed (item :: items) = (0, item) :: (indexed items).map fun (place, x) => (place + 1, x) := by
  simp [indexed, List.zipIdx_succ (l := items) (i := 0), Function.comp_def]

@[simp] theorem keepPlaces_nil (kept : Nat → Bool) : keepPlaces kept ([] : List α) = [] := rfl

theorem keepPlaces_cons (kept : Nat → Bool) (item : α) (items : List α) :
    keepPlaces kept (item :: items) =
      if kept 0 then item :: keepPlaces (fun place => kept (place + 1)) items
      else keepPlaces (fun place => kept (place + 1)) items := by
  simp only [keepPlaces, indexed_cons, List.filter_cons, List.filter_map]
  split <;> simp [Function.comp_def]

theorem keepPlaces_of_all {kept : Nat → Bool} (items : List α) (all : ∀ place, kept place = true) :
    keepPlaces kept items = items := by
  induction items generalizing kept with
  | nil => rfl
  | cons item items inductionHypothesis =>
    rw [keepPlaces_cons, if_pos (all 0), inductionHypothesis fun place => all (place + 1)]

/-- Where nothing behind a place is dropped, erasing the item there drops just this place. -/
theorem keepPlaces_eraseIdx {kept : Nat → Bool} {place : Nat} (items : List α)
    (behind : ∀ other, place ≤ other → kept other = true) :
    keepPlaces kept (items.eraseIdx place) =
      keepPlaces (fun other => kept other && other != place) items := by
  induction items generalizing kept place with
  | nil => rfl
  | cons item items inductionHypothesis =>
    cases place with
    | zero =>
      have all : ∀ other, kept other = true := fun other => behind other (Nat.zero_le other)
      rw [keepPlaces_cons, if_neg (by simp), List.eraseIdx_cons_zero, keepPlaces_of_all _ all,
        keepPlaces_of_all _ (by simp [all])]
    | succ place =>
      have later : ∀ other, place ≤ other → kept (other + 1) = true :=
        fun other le => behind (other + 1) (Nat.succ_le_succ le)
      rw [List.eraseIdx_cons_succ, keepPlaces_cons, keepPlaces_cons, inductionHypothesis later]
      simp

/-- Erasing places from the last to the first drops exactly those places. -/
theorem foldl_eraseIdx {places : List Nat} (items : List α) (falling : places.Pairwise (· > ·)) :
    places.foldl List.eraseIdx items = keepPlaces (fun place => !places.contains place) items := by
  induction places generalizing items with
  | nil => exact (keepPlaces_of_all items (by simp)).symm
  | cons place places inductionHypothesis =>
    obtain ⟨above, falling⟩ := List.pairwise_cons.mp falling
    have behind : ∀ other, place ≤ other → (!places.contains other) = true := by
      intro other le
      have absent : other ∉ places := fun member => Nat.not_lt.mpr le (above other member)
      simpa using absent
    rw [List.foldl_cons, inductionHypothesis _ falling, keepPlaces_eraseIdx items behind]
    congr 1
    funext other
    rw [List.contains_cons, Bool.not_or, Bool.and_comm]
    rfl

theorem mapIdx_self {f : Nat → α → α} (items : List α) (same : ∀ index item, f index item = item) :
    items.mapIdx f = items := by
  apply List.ext_getElem?
  intro index
  rw [List.getElem?_mapIdx, show f index = id from funext (same index), Option.map_id_fun, id]

theorem modify_eq_mapIdx (items : List α) (index : Nat) (change : α → α) :
    items.modify index change = items.mapIdx fun i item => if index = i then change item else item := by
  apply List.ext_getElem?
  intro i
  by_cases same : index = i <;> simp [same]

variable [DecidableEq α] {isAfter : α → α → Bool}

theorem mem_insertDescending {item other : α} {items : List α} :
    other ∈ insertDescending isAfter item items ↔ other = item ∨ other ∈ items := by
  induction items with
  | nil => simp [insertDescending]
  | cons head rest inductionHypothesis =>
    rw [insertDescending]
    split
    · grind
    · split <;> grind

theorem mem_descending {item : α} {items : List α} :
    item ∈ descending isAfter items ↔ item ∈ items := by
  induction items with
  | nil => simp [descending]
  | cons head rest inductionHypothesis =>
    rw [descending, List.foldr_cons, mem_insertDescending, List.mem_cons, ← inductionHypothesis,
      descending]

theorem pairwise_insertDescending {item : α} {items : List α}
    (trans : ∀ a b c, isAfter a b → isAfter b c → isAfter a c)
    (total : ∀ a b, a ≠ b → isAfter a b = false → isAfter b a)
    (falling : items.Pairwise (isAfter · ·)) :
    (insertDescending isAfter item items).Pairwise (isAfter · ·) := by
  induction items with
  | nil => simp [insertDescending]
  | cons head rest inductionHypothesis =>
    obtain ⟨first, falling'⟩ := List.pairwise_cons.mp falling
    rw [insertDescending]
    split
    case isTrue => exact falling
    case isFalse different =>
      split
      case isTrue after =>
        refine List.pairwise_cons.mpr ⟨?_, falling⟩
        intro other member
        rcases List.mem_cons.mp member with rfl | member
        · exact after
        · exact trans _ _ _ after (first other member)
      case isFalse before =>
        refine List.pairwise_cons.mpr ⟨?_, inductionHypothesis falling'⟩
        intro other member
        rcases mem_insertDescending.mp member with rfl | member
        · exact total _ _ different (by simpa using before)
        · exact first other member

theorem pairwise_descending (isAfter : α → α → Bool) (items : List α)
    (trans : ∀ a b c, isAfter a b → isAfter b c → isAfter a c)
    (total : ∀ a b, a ≠ b → isAfter a b = false → isAfter b a) :
    (descending isAfter items).Pairwise (isAfter · ·) := by
  induction items with
  | nil => exact List.Pairwise.nil
  | cons head rest inductionHypothesis =>
    exact pairwise_insertDescending trans total inductionHypothesis

end Places

/-! What an edit is about and what it does to one member. -/

/-- A member of the type at the start, a kind of new members, or the kind of the type itself. Edits of one
subject are carried out in the order in which they were scheduled. -/
inductive Subject where
  | method (index : Nat)
  | field (index : Nat)
  | constructor (index : Nat)
  | newField
  | newMethod
  | newConstructor
  | newType
  | newInitializer
  | kind
  deriving DecidableEq, Repr

namespace Edit

/-- The subject of an edit. Removing an annotation at its site has none: its place among the edits is of no
account. -/
def subject? : Edit → Option Subject
  | .replaceBody index _ | .replaceReturnType index _ | .replaceParameters index _
  | .finalizeParameters index | .setModifiers index _ | .removeMethodNote index _
  | .removeMethod index => some (.method index)
  | .removeFieldInitializer index => some (.field index)
  | .replaceConstructor index _ | .setConstructorAccess index _ => some (.constructor index)
  | .injectField _ => some .newField
  | .injectMethod _ => some .newMethod
  | .injectConstructor _ => some .newConstructor
  | .injectType _ => some .newType
  | .injectInitializer _ => some .newInitializer
  | .convertToEnum _ => some .kind
  | .removeNote _ => none

/-- What an edit does to its method. -/
def onMethod (method : Method) : Edit → Method
  | .replaceBody _ body => { method with body, bodiless := false }
  | .replaceReturnType _ returnType => { method with returnType }
  | .replaceParameters _ parameters => { method with parameters }
  | .finalizeParameters _ =>
    { method with parameters := method.parameters.map fun parameter =>
        { parameter with modifiers := parameter.modifiers.insert .final } }
  | .setModifiers _ modifiers => { method with modifiers }
  | .removeMethodNote _ name =>
    { method with annotations := method.annotations.filter fun a => !a.denotes name }
  | _ => method

/-- What an edit does to its field. -/
def onField (field : Field) : Edit → Field
  | .removeFieldInitializer _ => { field with initial := none }
  | _ => field

/-- What an edit does to its constructor. -/
def onConstructor (constructor : Constructor) : Edit → Constructor
  | .replaceConstructor _ replacement => replacement
  | .setConstructorAccess _ access =>
    { constructor with modifiers := constructor.modifiers.withAccess access }
  | _ => constructor

def newField? : Edit → Option Field
  | .injectField field => some field
  | _ => none

def newMethod? : Edit → Option Method
  | .injectMethod method => some method
  | _ => none

def newConstructor? : Edit → Option Constructor
  | .injectConstructor constructor => some constructor
  | _ => none

def newType? : Edit → Option TypeDecl
  | .injectType decl => some decl
  | _ => none

def newInitializer? : Edit → Option Initializer
  | .injectInitializer initializer => some initializer
  | _ => none

end Edit

/-- The edits of one subject, in the order in which they were scheduled. -/
def editsOf (subject : Subject) (edits : List Edit) : List Edit :=
  edits.filter fun edit => edit.subject? = some subject

theorem editsOf_cons (subject : Subject) (edit : Edit) (edits : List Edit) :
    editsOf subject (edit :: edits) =
      if edit.subject? = some subject then edit :: editsOf subject edits else editsOf subject edits := by
  simp [editsOf, List.filter_cons]

/-- The method that stood at an index, without the annotations at removed sites and with its own edits. -/
def revisedMethod (removed : List Site) (edits : List Edit) (index : Nat) (method : Method) : Method :=
  (editsOf (.method index) edits).foldl Edit.onMethod { method with
    annotations := keepPlaces (fun place => !removed.contains (.method index place)) method.annotations }

def revisedField (removed : List Site) (edits : List Edit) (index : Nat) (field : Field) : Field :=
  (editsOf (.field index) edits).foldl Edit.onField { field with
    annotations := keepPlaces (fun place => !removed.contains (.field index place)) field.annotations }

def revisedConstructor (edits : List Edit) (index : Nat) (constructor : Constructor) : Constructor :=
  (editsOf (.constructor index) edits).foldl Edit.onConstructor constructor

/-- The type after edits, read off the type at the start: the members that stay, each revised by itself, and
behind them the new ones. Of several conversions into an enum the last counts. -/
def assembled (type : TypeDecl) (consumed : Option Site) (edits : List Edit) : TypeDecl :=
  let removed := removedSites consumed edits
  let stays (index : Nat) : Bool := !(edits.filterMap Edit.removedMethod?).contains index
  let conversion := conversion? edits
  { type with
    annotations := keepPlaces (fun place => !removed.contains (.type place)) type.annotations
    fields := type.fields.mapIdx (revisedField removed edits) ++ edits.filterMap Edit.newField?
    methods := keepPlaces stays (type.methods.mapIdx (revisedMethod removed edits))
      ++ edits.filterMap Edit.newMethod?
    constructors := type.constructors.mapIdx (revisedConstructor edits)
      ++ edits.filterMap Edit.newConstructor?
    initializers := type.initializers ++ edits.filterMap Edit.newInitializer?
    memberTypes := type.memberTypes ++ edits.filterMap Edit.newType?
    constants := type.constants ++ conversion.getD []
    kind := if conversion.isSome then .enum else type.kind
    modifiers := if conversion.isSome then (type.modifiers.erase .final).erase .abstract else type.modifiers
    superclass := if conversion.isSome then none else type.superclass }

/-! The commit in place gives that type. -/

namespace Site

theorem isAfter_trans {a b c : Site} (first : a.isAfter b) (second : b.isAfter c) : a.isAfter c := by
  cases a <;> cases b <;> cases c <;> simp_all [isAfter] <;> omega

theorem isAfter_total {a b : Site} (different : a ≠ b) (before : a.isAfter b = false) : b.isAfter a := by
  cases a <;> cases b <;> simp_all [isAfter] <;> omega

/-- The place of a site on the type itself. -/
def onType? : Site → Option Nat
  | .type place => some place
  | _ => none

/-- The place of a site on the field at an index. -/
def onField? (index : Nat) : Site → Option Nat
  | .field member place => if member = index then some place else none
  | _ => none

/-- The place of a site on the method at an index. -/
def onMethod? (index : Nat) : Site → Option Nat
  | .method member place => if member = index then some place else none
  | _ => none

theorem onType?_eq {site : Site} {place : Nat} : site.onType? = some place ↔ site = .type place := by
  cases site <;> simp [onType?]

theorem onField?_eq {site : Site} {index place : Nat} :
    site.onField? index = some place ↔ site = .field index place := by
  cases site <;> simp [onField?]

theorem onMethod?_eq {site : Site} {index place : Nat} :
    site.onMethod? index = some place ↔ site = .method index place := by
  cases site <;> simp [onMethod?]

end Site

/-- Sites from the last to the first have the places on one member from the last to the first. -/
theorem foldl_eraseIdx_sites {sites : List Site} (placeOn? : Site → Option Nat) (site : Nat → Site)
    (annotations : List Annotation) (falling : sites.Pairwise (Site.isAfter · ·))
    (placeOn?_eq : ∀ {other place}, placeOn? other = some place ↔ other = site place)
    (rising : ∀ place other, (site place).isAfter (site other) → place > other) :
    (sites.filterMap placeOn?).foldl List.eraseIdx annotations =
      keepPlaces (fun place => !sites.contains (site place)) annotations := by
  have falling' : (sites.filterMap placeOn?).Pairwise (· > ·) := by
    refine falling.filterMap placeOn? ?_
    intro first second after place atFirst other atSecond
    rw [placeOn?_eq.mp atFirst, placeOn?_eq.mp atSecond] at after
    exact rising place other after
  rw [foldl_eraseIdx annotations falling']
  congr 1
  funext place
  congr 1
  apply Bool.eq_iff_iff.mpr
  simp [placeOn?_eq]

theorem annotations_removeNotes (sites : List Site) (type : TypeDecl) :
    (sites.foldl removeNoteAt type).annotations =
      (sites.filterMap Site.onType?).foldl List.eraseIdx type.annotations := by
  induction sites generalizing type with
  | nil => rfl
  | cons site sites inductionHypothesis =>
    rw [List.foldl_cons, inductionHypothesis]
    cases site <;> simp [removeNoteAt, Site.onType?, amendField, amendMethod, List.filterMap_cons]

theorem fields_removeNotes (sites : List Site) (type : TypeDecl) :
    (sites.foldl removeNoteAt type).fields = type.fields.mapIdx fun index field =>
      { field with annotations :=
          (sites.filterMap (Site.onField? index)).foldl List.eraseIdx field.annotations } := by
  induction sites generalizing type with
  | nil => exact (mapIdx_self _ fun _ field => by cases field; rfl).symm
  | cons site sites inductionHypothesis =>
    rw [List.foldl_cons, inductionHypothesis]
    apply List.ext_getElem?
    intro index
    cases site with
    | field changed place =>
      by_cases same : changed = index <;>
        simp [removeNoteAt, Site.onField?, amendField, same, Function.comp_def, List.filterMap_cons]
    | _ => simp [removeNoteAt, Site.onField?, amendMethod, List.filterMap_cons]

theorem methods_removeNotes (sites : List Site) (type : TypeDecl) :
    (sites.foldl removeNoteAt type).methods = type.methods.mapIdx fun index method =>
      { method with annotations :=
          (sites.filterMap (Site.onMethod? index)).foldl List.eraseIdx method.annotations } := by
  induction sites generalizing type with
  | nil => exact (mapIdx_self _ fun _ method => by cases method; rfl).symm
  | cons site sites inductionHypothesis =>
    rw [List.foldl_cons, inductionHypothesis]
    apply List.ext_getElem?
    intro index
    cases site with
    | method changed place =>
      by_cases same : changed = index <;>
        simp [removeNoteAt, Site.onMethod?, amendMethod, same, Function.comp_def, List.filterMap_cons]
    | _ => simp [removeNoteAt, Site.onMethod?, amendField, List.filterMap_cons]

/-- Removing annotations changes nothing else. -/
theorem removeNotes_frame (sites : List Site) (type : TypeDecl) :
    sites.foldl removeNoteAt type = { type with
      annotations := (sites.foldl removeNoteAt type).annotations
      fields := (sites.foldl removeNoteAt type).fields
      methods := (sites.foldl removeNoteAt type).methods } := by
  induction sites generalizing type with
  | nil => cases type; rfl
  | cons site sites inductionHypothesis =>
    rw [List.foldl_cons, inductionHypothesis]
    cases site <;> rfl

/-- The type without the annotations at the given sites. -/
theorem removeNotes_eq (removed : List Site) (type : TypeDecl) :
    (descending Site.isAfter removed).foldl removeNoteAt type = { type with
      annotations := keepPlaces (fun place => !removed.contains (.type place)) type.annotations
      fields := type.fields.mapIdx (revisedField removed [])
      methods := type.methods.mapIdx (revisedMethod removed []) } := by
  have falling := pairwise_descending Site.isAfter removed (fun _ _ _ => Site.isAfter_trans)
    fun _ _ => Site.isAfter_total
  have among (site : Site) : (descending Site.isAfter removed).contains site = removed.contains site := by
    apply Bool.eq_iff_iff.mpr
    simp [mem_descending]
  have onType := foldl_eraseIdx_sites Site.onType? .type type.annotations falling Site.onType?_eq
    (by simp [Site.isAfter])
  have onField (index : Nat) (field : Field) :=
    foldl_eraseIdx_sites (Site.onField? index) (.field index) field.annotations falling Site.onField?_eq
      (by simp [Site.isAfter])
  have onMethod (index : Nat) (method : Method) :=
    foldl_eraseIdx_sites (Site.onMethod? index) (.method index) method.annotations falling
      Site.onMethod?_eq (by simp [Site.isAfter])
  rw [removeNotes_frame, annotations_removeNotes, fields_removeNotes, methods_removeNotes, onType]
  simp only [onField, onMethod, among]
  rfl

/-- What one edit in place does, member by member. -/
theorem amend_eq (edit : Edit) (type : TypeDecl) :
    edit.amend type = { type with
      methods := type.methods.mapIdx fun index method =>
        if edit.subject? = some (.method index) then edit.onMethod method else method
      fields := type.fields.mapIdx fun index field =>
        if edit.subject? = some (.field index) then edit.onField field else field
      constructors := type.constructors.mapIdx fun index constructor =>
        if edit.subject? = some (.constructor index) then edit.onConstructor constructor
        else constructor } := by
  cases type
  cases edit <;>
    simp [Edit.amend, amendMethod, amendField, amendConstructor, Edit.subject?, modify_eq_mapIdx,
      Edit.onMethod, Edit.onField, Edit.onConstructor, mapIdx_self]

/-- Edits in place give every member its own edits in their order. -/
theorem amendAll_eq (edits : List Edit) (type : TypeDecl) :
    edits.foldl Edit.amend type = { type with
      methods := type.methods.mapIdx fun index method =>
        (editsOf (.method index) edits).foldl Edit.onMethod method
      fields := type.fields.mapIdx fun index field =>
        (editsOf (.field index) edits).foldl Edit.onField field
      constructors := type.constructors.mapIdx fun index constructor =>
        (editsOf (.constructor index) edits).foldl Edit.onConstructor constructor } := by
  induction edits generalizing type with
  | nil =>
    cases type
    simp [editsOf, mapIdx_self]
  | cons edit edits inductionHypothesis =>
    rw [List.foldl_cons, inductionHypothesis, amend_eq]
    simp only [List.mapIdx_mapIdx, editsOf_cons]
    congr 1 <;> (congr 1; funext index member; simp only [Function.comp_apply]; split <;> rfl)

/-- Injections append the new members of each kind in their order. -/
theorem injectAll_eq (edits : List Edit) (type : TypeDecl) :
    edits.foldl Edit.inject type = { type with
      fields := type.fields ++ edits.filterMap Edit.newField?
      methods := type.methods ++ edits.filterMap Edit.newMethod?
      constructors := type.constructors ++ edits.filterMap Edit.newConstructor?
      memberTypes := type.memberTypes ++ edits.filterMap Edit.newType?
      initializers := type.initializers ++ edits.filterMap Edit.newInitializer? } := by
  induction edits generalizing type with
  | nil => cases type; simp
  | cons edit edits inductionHypothesis =>
    rw [List.foldl_cons, inductionHypothesis]
    cases edit <;>
      simp [Edit.inject, Edit.newField?, Edit.newMethod?, Edit.newConstructor?, Edit.newType?,
        Edit.newInitializer?, List.filterMap_cons]

/-- Methods removed from the last to the first. -/
theorem removeMethods_eq (edits : List Edit) (methods : List Method) :
    (descending (fun a b => b < a) (edits.filterMap Edit.removedMethod?)).foldl List.eraseIdx methods =
      keepPlaces (fun index => !(edits.filterMap Edit.removedMethod?).contains index) methods := by
  have falling := pairwise_descending (fun a b => b < a) (edits.filterMap Edit.removedMethod?)
    (by simp; omega) (by simp; omega)
  rw [foldl_eraseIdx methods (falling.imp fun after => by simpa using after)]
  congr 1
  funext index
  congr 1
  apply Bool.eq_iff_iff.mpr
  simp only [List.contains_iff_mem, mem_descending]

/-- The commit in place gives the type that is read off the start. -/
theorem applyEdits_eq (type : TypeDecl) (consumed : Option Site) (edits : List Edit) :
    applyEdits type consumed edits = assembled type consumed edits := by
  rw [applyEdits]
  simp only [removeNotes_eq, amendAll_eq, injectAll_eq, removeMethods_eq, List.mapIdx_mapIdx]
  cases found : conversion? edits with
  | none => simp only [assembled, found, Option.getD_none, List.append_nil]; rfl
  | some constants => simp only [assembled, found, convert]; rfl

end JavaWeave.Weave
