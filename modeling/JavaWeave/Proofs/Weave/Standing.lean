import JavaWeave.Proofs.Weave.Notes

/-! The annotations of the members of a phase as one list, in the order in which they stand. Where an
occurrence may stand by now is found in that list, and what is left of it after some annotations have gone is
found in the list at the start. -/

namespace JavaWeave.Weave

open Syntax

variable {α β : Type}

/-! Places in lists. -/

theorem indexed_map (f : α → β) (items : List α) :
    indexed (items.map f) = (indexed items).map fun (place, item) => (place, f item) := by
  simp [indexed, List.zipIdx_map, Function.comp_def]

theorem indexed_mapIdx (f : Nat → α → β) (items : List α) :
    indexed (items.mapIdx f) = (indexed items).map fun (place, item) => (place, f place item) := by
  induction items generalizing f with
  | nil => rfl
  | cons item items inductionHypothesis =>
    simp [List.mapIdx_cons, indexed_cons, inductionHypothesis, Function.comp_def]

theorem indexed_append (first second : List α) :
    indexed (first ++ second) =
      indexed first ++ (indexed second).map fun (place, item) => (first.length + place, item) := by
  induction first with
  | nil => simp
  | cons item first inductionHypothesis =>
    simp [indexed_cons, inductionHypothesis, Function.comp_def, Nat.add_right_comm]

theorem mem_indexed {items : List α} {place : Nat} {item : α} :
    (place, item) ∈ indexed items ↔ items[place]? = some item := by
  rw [indexed, List.mem_map]
  constructor
  · rintro ⟨⟨other, index⟩, member, same⟩
    cases same
    exact List.mem_zipIdx_iff_getElem?.mp member
  · intro found
    exact ⟨(item, place), List.mem_zipIdx_iff_getElem?.mpr found, rfl⟩

theorem pairwise_indexed (items : List α) : (indexed items).Pairwise fun first second => first.1 ≠ second.1 := by
  induction items with
  | nil => exact List.Pairwise.nil
  | cons item items inductionHypothesis =>
    rw [indexed_cons, List.pairwise_cons, List.pairwise_map]
    refine ⟨?_, inductionHypothesis.imp fun apart same => apart (Nat.succ.inj same)⟩
    intro other listed
    obtain ⟨before, _, rfl⟩ := List.mem_map.mp listed
    exact (Nat.succ_ne_zero before.1).symm

theorem map_indexed (f : α → β) (items : List α) :
    (indexed items).map (fun item => f item.2) = items.map f := by
  induction items with
  | nil => rfl
  | cons item items inductionHypothesis => simp [indexed_cons, ← inductionHypothesis, Function.comp_def]

theorem flatMap_indexed (f : α → List β) (items : List α) :
    (indexed items).flatMap (fun item => f item.2) = items.flatMap f := by
  rw [List.flatMap_def, map_indexed, List.flatMap_def]

theorem modify_append_left {items : List α} {index : Nat} (inside : index < items.length) (others : List α)
    (change : α → α) : (items ++ others).modify index change = items.modify index change ++ others := by
  rw [modify_eq_mapIdx, List.mapIdx_append, ← modify_eq_mapIdx, mapIdx_self others]
  intro place item
  rw [if_neg]
  omega

theorem countP_range_succ (kept : Nat → Bool) (place : Nat) :
    (List.range (place + 1)).countP kept =
      (List.range place).countP (fun other => kept (other + 1)) + if kept 0 then 1 else 0 := by
  rw [List.range_succ_eq_map, List.countP_cons, List.countP_map]
  rfl

/-- Where the items that are kept stand then: behind those that are kept before them. -/
theorem indexed_keepPlaces (kept : Nat → Bool) (items : List α) :
    indexed (keepPlaces kept items) = ((indexed items).filter fun (place, _) => kept place).map
      fun (place, item) => ((List.range place).countP kept, item) := by
  induction items generalizing kept with
  | nil => rfl
  | cons item items inductionHypothesis =>
    rw [keepPlaces_cons, indexed_cons, List.filter_cons, List.filter_map]
    cases first : kept 0 <;>
      simp [inductionHypothesis, indexed_cons, countP_range_succ, first, Function.comp_def]

theorem eraseIdx_keepPlaces {kept : Nat → Bool} {place : Nat} (items : List α) (stands : kept place = true) :
    (keepPlaces kept items).eraseIdx ((List.range place).countP kept) =
      keepPlaces (fun other => kept other && other != place) items := by
  induction items generalizing kept place with
  | nil => rfl
  | cons item items inductionHypothesis =>
    rw [keepPlaces_cons, keepPlaces_cons]
    cases place with
    | zero => simp [stands]
    | succ place =>
      have rest := @inductionHypothesis (fun other => kept (other + 1)) place stands
      cases first : kept 0 <;> simp [countP_range_succ, first, rest]

/-! The annotations of a phase. -/

/-- An annotation of a member, with the place where it stands. -/
structure Entry where
  member : Nat
  name : String
  place : Nat
  note : Annotation

/-- The entry as it is looked for: by the name of its member. -/
def Entry.occurrence (entry : Entry) : Occurrence := ⟨entry.name, entry.note⟩

/-- Where the entry stands, and what it is on. -/
def Entry.found (phase : Phase) (entry : Entry) : Target × Site :=
  (phase.target entry.member, phase.site entry.member entry.place)

/-- All annotations of members, in the order in which they stand. -/
def entries (members : Members) : List Entry :=
  (indexed members).flatMap fun (member, name, notes) =>
    (indexed notes).map fun (place, note) => { member, name, place, note }

theorem mem_entries {members : Members} {entry : Entry} :
    entry ∈ entries members ↔ ∃ notes, members[entry.member]? = some (entry.name, notes) ∧
      notes[entry.place]? = some entry.note := by
  simp only [entries, List.mem_flatMap, List.mem_map, Prod.exists, mem_indexed]
  constructor
  · rintro ⟨member, name, notes, found, place, note, there, rfl⟩
    exact ⟨notes, found, there⟩
  · rintro ⟨notes, found, there⟩
    exact ⟨_, _, notes, found, _, _, there, rfl⟩

/-- Members without annotations have no entries. -/
theorem Extended.entries_eq {before after : Members} (extended : Extended before after) :
    entries after = entries before := by
  obtain ⟨added, bare, rfl⟩ := extended
  rw [entries, indexed_append, List.flatMap_append, entries, List.append_right_eq_self, List.flatMap_eq_nil_iff]
  intro item listed
  obtain ⟨⟨place, name, notes⟩, member, rfl⟩ := List.mem_map.mp listed
  obtain rfl : notes = [] := bare (name, notes) (List.mem_of_getElem? (mem_indexed.mp member))
  rfl

/-- No two entries stand at one place. -/
theorem pairwise_entries (members : Members) :
    (entries members).Pairwise fun first second => ¬(first.member = second.member ∧ first.place = second.place) := by
  refine List.pairwise_flatMap.mpr ⟨?_, (pairwise_indexed members).imp ?_⟩
  · rintro ⟨member, name, notes⟩ _
    exact List.pairwise_map.mpr ((pairwise_indexed notes).imp fun apart same => apart same.2)
  · rintro ⟨member, name, notes⟩ ⟨member', name', notes'⟩ apart entry listed other listed' same
    obtain ⟨_, _, rfl⟩ := List.mem_map.mp listed
    obtain ⟨_, _, rfl⟩ := List.mem_map.mp listed'
    exact apart same.1

theorem occurrences_eq (phase : Phase) (type : TypeDecl) :
    phase.occurrences type = (entries (phase.members type)).map Entry.occurrence := by
  have each (members : Members) : (entries members).map Entry.occurrence =
      members.flatMap fun member => member.2.map (Occurrence.mk member.1) := by
    rw [entries, List.map_flatMap,
      ← flatMap_indexed (fun member : String × List Annotation => member.2.map (Occurrence.mk member.1))]
    congr 1
    funext ⟨member, name, notes⟩
    rw [List.map_map]
    exact map_indexed (Occurrence.mk name) notes
  rw [each]
  cases phase <;> simp [Phase.occurrences, Phase.members, List.flatMap_map]

/-- The members of which only the first of each name has annotations. -/
def FirstOnly (members : Members) : Prop :=
  members.Pairwise fun first second => first.1 = second.1 → second.2 = []

/-- Where members are found by name, the first of each name is found; no other has annotations. -/
theorem flatMap_eq_find {γ : Type} {members : Members} (firstOnly : FirstOnly members)
    (wanted : String) {places : Nat → List Annotation → List γ} (none : ∀ index, places index [] = []) :
    ((indexed members).flatMap fun item => if item.2.1 == wanted then places item.1 item.2.2 else []) =
      ((indexed members).find? fun item => item.2.1 == wanted).elim [] fun item =>
        places item.1 item.2.2 := by
  induction members generalizing places with
  | nil => rfl
  | cons member members inductionHypothesis =>
    obtain ⟨others, firstOnly⟩ := List.pairwise_cons.mp firstOnly
    have rest := @inductionHypothesis firstOnly (fun index => places (index + 1)) fun _ => none _
    rw [indexed_cons, List.flatMap_cons, List.flatMap_map, List.find?_cons, List.find?_map]
    cases same : member.1 == wanted with
    | true =>
      rw [if_pos rfl, Option.elim_some, List.append_right_eq_self, List.flatMap_eq_nil_iff]
      rintro ⟨index, other⟩ listed
      have there := List.mem_of_getElem? (mem_indexed.mp listed)
      cases alike : other.1 == wanted with
      | false => simp
      | true =>
        have bare := others other there ((beq_iff_eq.mp same).trans (beq_iff_eq.mp alike).symm)
        simp [bare, none]
    | false =>
      rw [if_neg (by simp), List.nil_append, rest, Option.elim_map]
      rfl

/-- Where the annotations of a member stand that are like a wanted one. -/
def Phase.memberSites (phase : Phase) (wanted : Annotation) (member : Nat) (notes : List Annotation) :
    List (Target × Site) :=
  (placesOf wanted notes).map fun place => (phase.target member, phase.site member place)

theorem filter_entries (phase : Phase) (members : Members) (wanted : Occurrence) :
    ((entries members).filter (·.occurrence.same wanted)).map (Entry.found phase) =
      (indexed members).flatMap fun item =>
        if item.2.1 == wanted.member then phase.memberSites wanted.note item.1 item.2.2 else [] := by
  rw [entries, List.filter_flatMap, List.map_flatMap]
  congr 1
  funext ⟨member, name, notes⟩
  cases alike : name == wanted.member <;>
    simp [List.filter_map, Phase.memberSites, Phase.placesOf, Entry.found, Entry.occurrence, Occurrence.same,
      alike, Function.comp_def]

/-- The places where an occurrence may stand are those of the entries that are like it. -/
theorem sites_eq {phase : Phase} {type : TypeDecl} {wanted : Occurrence}
    (named : phase = .type → wanted.member = type.name)
    (firstOnly : phase = .fields → FirstOnly (phase.members type)) :
    phase.sites type wanted =
      ((entries (phase.members type)).filter (·.occurrence.same wanted)).map (Entry.found phase) := by
  rw [filter_entries]
  cases phase with
  | type =>
    simp [Phase.members, Phase.sites, Phase.memberSites, indexed_cons, named rfl, Phase.target, Phase.site]
  | fields =>
    rw [flatMap_eq_find (firstOnly rfl) wanted.member fun _ => rfl, Phase.members, indexed_map, List.find?_map,
      Option.elim_map, Phase.sites]
    let places (item : Nat × Field) := Phase.fields.memberSites wanted.note item.1 item.2.annotations
    split
    case h_1 absent => exact (congrArg (Option.elim · [] places) absent).symm
    case h_2 found => exact (congrArg (Option.elim · [] places) found).symm
  | methods =>
    rw [Phase.sites, Phase.members, indexed_map, List.flatMap_map]
    rfl

/-! What is left after some annotations have gone. -/

/-- The members without the annotations that have gone. -/
def without (stands : Nat → Nat → Bool) (members : Members) :
    Members :=
  members.mapIdx fun member (name, notes) => (name, keepPlaces (stands member) notes)

/-- The entry at the place where it stands after some annotations have gone. -/
def Entry.moved (stands : Nat → Nat → Bool) (entry : Entry) : Entry :=
  { entry with place := (List.range entry.place).countP (stands entry.member) }

theorem entries_without (stands : Nat → Nat → Bool) (members : Members) :
    entries (without stands members) =
      ((entries members).filter fun entry => stands entry.member entry.place).map (Entry.moved stands) := by
  rw [entries, without, indexed_mapIdx, List.flatMap_map, entries, List.filter_flatMap, List.map_flatMap]
  congr 1
  funext ⟨member, name, notes⟩
  simp only [indexed_keepPlaces, List.filter_map, List.map_map]
  rfl

theorem firstOnly_without {members : Members} (stands : Nat → Nat → Bool)
    (firstOnly : FirstOnly members) : FirstOnly (without stands members) := by
  refine List.pairwise_iff_getElem.mpr fun first second inside inside' before same => ?_
  simp only [without, List.length_mapIdx, List.getElem_mapIdx] at inside inside' same ⊢
  have bare := List.pairwise_iff_getElem.mp firstOnly first second inside inside' before same
  rw [bare, keepPlaces_nil]

theorem FirstOnly.extended {before after : Members} (firstOnly : FirstOnly before)
    (extended : Extended before after) : FirstOnly after := by
  obtain ⟨added, bare, rfl⟩ := extended
  refine List.pairwise_append.mpr ⟨firstOnly, ?_, fun _ _ second listed _ => bare second listed⟩
  exact List.Pairwise.imp_of_mem (fun _ listed _ _ => bare _ listed) (List.pairwise_of_forall fun _ _ => trivial)

/-- Dropping an annotation where it stands by now is dropping it from the members at the start. -/
theorem dropNote_without {stands : Nat → Nat → Bool} {member place : Nat}
    (members : Members) (there : stands member place = true) :
    (without stands members).modify member (dropNote ((List.range place).countP (stands member))) =
      without (fun m p => stands m p && (m != member || p != place)) members := by
  rw [modify_eq_mapIdx, without, List.mapIdx_mapIdx, without]
  congr 1
  funext other ⟨name, notes⟩
  by_cases same : member = other
  · subst same
    simp [dropNote, eraseIdx_keepPlaces notes there]
  · have apart : (other != member) = true := by simp [Ne.symm same]
    simp [same, apart]

section Likeness

open Float.Model (UnpackedFloat) in
/-- A double is like itself if it is a number. -/
theorem double_beq_self (x : Float) : (x == x) = !x.isNaN := by
  change x.toModel.unpack.beq x.toModel.unpack = !x.toModel.unpack.isNaN
  cases x.toModel.unpack with
  | infinity sign => cases sign <;> rfl
  | notANumber => rfl
  | zero sign => rfl
  | finite sign mantissa exponent positive =>
    cases sign with
    | negative =>
      change (some ((compare exponent exponent).then (compare mantissa mantissa)).swap == some .eq) = true
      simp
    | positive =>
      change (some ((compare exponent exponent).then (compare mantissa mantissa)) == some .eq) = true
      simp

open Float.Model (UnpackedFloat) in
/-- Only numbers are like any double. -/
theorem isNaN_of_beq {x y : Float} (alike : (x == y) = true) : x.isNaN = false ∧ y.isNaN = false := by
  have apart : ∀ a b : UnpackedFloat, a.beq b = true → a.isNaN = false ∧ b.isNaN = false := by
    intro a b alike
    rcases a with _ | _ | _ | _ <;> rcases b with _ | _ | _ | _ <;>
      first | exact ⟨rfl, rfl⟩ | cases alike
  exact apart _ _ alike

/-- The doubles in an annotation are numbers. -/
def Comparable (note : Annotation) : Prop := ∀ value ∈ doublesOf note, value.isNaN = false

instance (note : Annotation) : Decidable (Comparable note) := inferInstanceAs (Decidable (∀ value ∈ _, _))

theorem doubles_beq_self {values : List Float} (numbers : ∀ value ∈ values, value.isNaN = false) :
    (values == values) = true := by
  induction values with
  | nil => rfl
  | cons value values inductionHypothesis =>
    obtain ⟨own, numbers⟩ := List.forall_mem_cons.mp numbers
    rw [List.cons_beq_cons, double_beq_self, own, inductionHypothesis numbers]
    rfl

theorem isNaN_of_doubles_beq {first second : List Float} (alike : (first == second) = true) :
    (∀ value ∈ first, value.isNaN = false) ∧ ∀ value ∈ second, value.isNaN = false := by
  induction first generalizing second with
  | nil =>
    cases second with
    | nil => exact ⟨nofun, nofun⟩
    | cons value second => cases alike
  | cons value first inductionHypothesis =>
    cases second with
    | nil => cases alike
    | cons other second =>
      rw [List.cons_beq_cons, Bool.and_eq_true] at alike
      have heads := isNaN_of_beq alike.1
      have rests := inductionHypothesis alike.2
      exact ⟨List.forall_mem_cons.mpr ⟨heads.1, rests.1⟩, List.forall_mem_cons.mpr ⟨heads.2, rests.2⟩⟩

theorem sameAnnotation_self {note : Annotation} (comparable : Comparable note) : sameAnnotation note note = true := by
  rw [ sameAnnotation, doubles_beq_self comparable, Json.same_self]
  rfl

/-- Only annotations whose doubles are numbers are like any. -/
theorem comparable_of_same {first second : Annotation} (alike : sameAnnotation first second = true) :
    Comparable first ∧ Comparable second :=
  isNaN_of_doubles_beq (Bool.and_eq_true_iff.mp alike).1

/-- The handler that gets to see an annotation: one that is not like itself is looked for in vain. -/
def serverFor? (handlers : List Handler) (note : Annotation) : Option Handler :=
  if Comparable note then handlerFor? handlers note else none

theorem serverFor?_eq_some {handlers : List Handler} {note : Annotation} {handler : Handler} :
    serverFor? handlers note = some handler ↔ Comparable note ∧ handlerFor? handlers note = some handler := by
  simp [serverFor?]

/-- Annotations that are written alike have types of one name, so the same handler reacts to them. -/
theorem serverFor?_of_same {first second : Annotation} (handlers : List Handler)
    (alike : sameAnnotation first second = true) : serverFor? handlers first = serverFor? handlers second := by
  obtain ⟨comparable, comparable'⟩ := comparable_of_same alike
  rw [serverFor?, serverFor?, if_pos comparable, if_pos comparable']
  obtain ⟨origin, ⟨name, arguments, dimensions, wildcard⟩, members⟩ := first
  obtain ⟨origin', ⟨name', arguments', dimensions', wildcard'⟩, members'⟩ := second
  have named : name = name' := by
    simp only [Encode.note, sameAnnotation, Json.same, Json.sameMembers, Encode.javaType, Bool.and_eq_true,
      beq_iff_eq] at alike
    exact alike.2.2.1.2.1.2
  subst named
  rfl

end Likeness

end JavaWeave.Weave
