import JavaWeave.Proofs.Weave.Standing

/-! Every annotation with a handler that stands when a phase begins is carried out once, on the member that it
is on. A phase looks for each occurrence by the name of its member and by how it is written, and steps over as
many like ones as have failed; here each occurrence is served at its own place instead, and the two runs are
the same. -/

namespace JavaWeave.Weave

open Syntax

/-- An annotation that has a handler, at the place where it stands when the phase begins. -/
structure Spot extends Entry where
  handler : Handler

/-- All annotations of members that a handler gets to see, in the order in which they stand. -/
def spots (handlers : List Handler) (members : Members) : List Spot :=
  (entries members).filterMap fun entry => (serverFor? handlers entry.note).map (Spot.mk entry)

/-- A phase that serves each annotation at its own place. -/
structure Service where
  type : TypeDecl
  diagnostics : List Diagnostic := []
  /-- Those that were carried out. -/
  gone : List Spot := []
  /-- Those that failed. -/
  failed : List Spot := []

namespace Service

/-- Whether the annotation still stands that stood at a place when the phase began. -/
def stands (service : Service) (member place : Nat) : Bool :=
  !service.gone.any fun spot => spot.member == member && spot.place == place

/-- The place where an annotation stands by now. -/
def placeOf (service : Service) (spot : Spot) : Nat :=
  (List.range spot.place).countP (service.stands spot.member)

/-- The phase as it is seen by one that looks for occurrences. -/
def progress (service : Service) (earlier : List Diagnostic) : Progress where
  type := service.type
  diagnostics := earlier ++ service.diagnostics
  failed := service.failed.map (·.occurrence)

end Service

/-- Serves an annotation where it stands. -/
def Weaver.serve (weaver : Weaver) (phase : Phase) (service : Service) (spot : Spot) : Service :=
  let site := phase.site spot.member (service.placeOf spot)
  let setting := weaver.setting (some spot.note) spot.note.origin.span (some site) service.type
  let (type, reports, succeeded) := attempt spot.handler (phase.target spot.member) setting
  { type
    diagnostics := service.diagnostics ++ reports
    gone := if succeeded then service.gone ++ [spot] else service.gone
    failed := if succeeded then service.failed else service.failed ++ [spot] }

section Spots

variable {handlers : List Handler} {members : Members}

theorem mem_spots {spot : Spot} : spot ∈ spots handlers members ↔
    spot.toEntry ∈ entries members ∧ serverFor? handlers spot.note = some spot.handler := by
  simp only [spots, List.mem_filterMap, Option.map_eq_some_iff]
  constructor
  · rintro ⟨entry, listed, handler, found, rfl⟩
    exact ⟨listed, found⟩
  · rintro ⟨listed, found⟩
    exact ⟨_, listed, _, found, rfl⟩

theorem map_spots : (spots handlers members).map (·.toEntry) =
    (entries members).filter fun entry => (serverFor? handlers entry.note).isSome := by
  rw [spots]
  induction entries members with
  | nil => rfl
  | cons entry rest inductionHypothesis =>
    rw [List.filterMap_cons, List.filter_cons]
    cases serverFor? handlers entry.note <;> simp [inductionHypothesis]

theorem pairwise_spots : (spots handlers members).Pairwise fun first second =>
    ¬(first.member = second.member ∧ first.place = second.place) := by
  have apart := List.Pairwise.filter (fun entry => (serverFor? handlers entry.note).isSome)
    (pairwise_entries members)
  rw [← map_spots] at apart
  exact List.pairwise_map.mp apart

end Spots

/-- What a phase leaves alone: the members of other phases keep their annotations, and new types have none.
Methods are left open while the type itself is looked at, for a builder uses up its extensions. -/
structure Spared (phase : Phase) (before after : TypeDecl) : Prop where
  members : ∀ other : Phase, other ≠ phase → (phase = .type → other ≠ .methods) →
    Extended (other.members before) (other.members after)
  memberTypes : ∃ added : List TypeDecl, (∀ type ∈ added, Unmarked type) ∧ (added ≠ [] → phase = .type) ∧
    after.memberTypes = before.memberTypes ++ added

namespace Spared

variable {phase : Phase} {first second third : TypeDecl}

theorem refl (phase : Phase) (type : TypeDecl) : Spared phase type type where
  members _ _ _ := .refl _
  memberTypes := ⟨[], List.forall_mem_nil _, fun other => absurd rfl other, (List.append_nil _).symm⟩

theorem trans (before : Spared phase first second) (after : Spared phase second third) :
    Spared phase first third where
  members other apart kept := (before.members other apart kept).trans (after.members other apart kept)
  memberTypes := by
    obtain ⟨added, unmarked, onType, types⟩ := before.memberTypes
    obtain ⟨added', unmarked', onType', types'⟩ := after.memberTypes
    refine ⟨added ++ added', List.forall_mem_append.mpr ⟨unmarked, unmarked'⟩, ?_, ?_⟩
    · intro some
      by_cases none : added = []
      · exact onType' (by simpa [none] using some)
      · exact onType none
    · rw [types', types, List.append_assoc]

/-- There are new types only while the type itself is looked at. -/
theorem memberTypes_eq (spared : Spared phase first second) (apart : phase ≠ .type) :
    second.memberTypes = first.memberTypes := by
  obtain ⟨added, _, onType, types⟩ := spared.memberTypes
  obtain rfl : added = [] := Classical.byContradiction fun some => apart (onType some)
  rw [types, List.append_nil]

end Spared

theorem type_of_target {phase : Phase} {member : Nat} (onType : phase.target member = .type) : phase = .type := by
  cases phase with
  | type => rfl
  | fields | methods => cases onType

/-- Using up an annotation spares the rest of the type. -/
theorem spared_grown {phase : Phase} {member place : Nat} {type after : TypeDecl}
    (grown : Grown (phase.target member) (removeNoteAt type (phase.site member place)) after) :
    Spared phase type after where
  members other apart kept := by
    rw [← members_removeNoteAt_other apart type member place]
    exact grown.members other fun onType => kept (type_of_target onType)
  memberTypes := by
    obtain ⟨added, unmarked, onType, types⟩ := grown.memberTypes
    refine ⟨added, unmarked, fun some => type_of_target (onType some), ?_⟩
    rw [types]
    cases phase <;> rfl

/-- What is known about a phase that has served some of the annotations of the members at the start. -/
structure Service.Valid (phase : Phase) (start : Members) (done : List Spot)
    (service : Service) : Prop where
  members : Extended (without service.stands start) (phase.members service.type)
  gone : ∀ spot ∈ service.gone, spot ∈ done
  failed : service.failed = done.filter fun spot => service.stands spot.member spot.place

section Serving

variable {weaver : Weaver} {phase : Phase} {start : Members} {done rest : List Spot}
  {spot : Spot} {service : Service}

theorem apart_of_order {handlers : List Handler} (order : spots handlers start = done ++ spot :: rest) :
    ∀ other ∈ done, ¬(other.member = spot.member ∧ other.place = spot.place) := by
  have apart := @pairwise_spots handlers start
  rw [order, List.pairwise_append] at apart
  exact fun other listed => apart.2.2 other listed spot List.mem_cons_self

theorem Service.stands_of_order {handlers : List Handler} (valid : service.Valid phase start done)
    (order : spots handlers start = done ++ spot :: rest) :
    service.stands spot.member spot.place = true := by
  simp only [Service.stands, Bool.not_eq_true', List.any_eq_false, Bool.and_eq_true, beq_iff_eq]
  exact fun other listed => apart_of_order order other (valid.gone other listed)

/-- Serving an annotation of a disciplined handler uses it up, or leaves the type and reports an error. -/
theorem serve_cases (weaver : Weaver) (phase : Phase) (service : Service)
    (disciplined : spot.handler.Disciplined) :
    (∃ after reports, weaver.serve phase service spot =
        { service with type := after, diagnostics := service.diagnostics ++ reports,
                       gone := service.gone ++ [spot] } ∧
      Grown (phase.target spot.member)
        (removeNoteAt service.type (phase.site spot.member (service.placeOf spot))) after) ∨
    ∃ reports, weaver.serve phase service spot =
        { service with diagnostics := service.diagnostics ++ reports, failed := service.failed ++ [spot] } ∧
      Diagnostic.hasErrors reports = true := by
  have outcome := attempt_cases disciplined (phase.target spot.member)
    (weaver.setting (some spot.note) spot.note.origin.span
      (some (phase.site spot.member (service.placeOf spot))) service.type)
  rw [Weaver.serve]
  rcases outcome with ⟨after, reports, attempted, grown⟩ | ⟨reports, attempted, severe⟩
  · exact .inl ⟨after, reports, by rw [attempted]; rfl, grown⟩
  · exact .inr ⟨reports, by rw [attempted]; rfl, severe⟩

/-- Once an annotation is used up, it alone no longer stands. -/
theorem Service.stands_gone (service : Service) (spot : Spot) (type : TypeDecl) (diagnostics : List Diagnostic) :
    Service.stands { service with type, diagnostics, gone := service.gone ++ [spot] } =
      fun member place => service.stands member place && (member != spot.member || place != spot.place) := by
  funext member place
  simp only [Service.stands, List.any_append, List.any_cons, List.any_nil, Bool.or_false, Bool.not_or,
    Bool.not_and]
  rw [bne, bne, BEq.comm, @BEq.comm _ _ _ place]

/-- An annotation that has not been served stands at its place by now. -/
theorem Service.note_at (valid : service.Valid phase start done) (there : spot.toEntry ∈ entries start)
    (stands : service.stands spot.member spot.place = true) :
    ∃ notes, (phase.members service.type)[spot.member]? = some (spot.name, notes) ∧
      notes[service.placeOf spot]? = some spot.note := by
  have found : spot.toEntry.moved service.stands ∈ entries (phase.members service.type) := by
    rw [valid.members.entries_eq, entries_without]
    exact List.mem_map_of_mem (List.mem_filter.mpr ⟨there, stands⟩)
  exact mem_entries.mp found

/-- Of the annotations that stand, those that are like one with a handler have a handler too. -/
theorem Service.like_entries {handlers : List Handler} {wanted : Occurrence}
    (valid : service.Valid phase start done) (handled : (serverFor? handlers wanted.note).isSome) :
    (entries (phase.members service.type)).filter (·.occurrence.same wanted) =
      (((spots handlers start).filter fun spot => service.stands spot.member spot.place).filter
        (·.occurrence.same wanted)).map fun spot => spot.toEntry.moved service.stands := by
  have through : (((spots handlers start).filter fun spot => service.stands spot.member spot.place).filter
      (·.occurrence.same wanted)).map (·.toEntry) =
        (((entries start).filter fun entry => (serverFor? handlers entry.note).isSome).filter
          fun entry => service.stands entry.member entry.place).filter (·.occurrence.same wanted) := by
    rw [← map_spots, List.filter_map, List.filter_map]
    rfl
  have handledToo : ∀ entry ∈ entries start, entry.occurrence.same wanted = true →
      (serverFor? handlers entry.note).isSome = true := by
    intro entry _ alike
    have same := serverFor?_of_same handlers (Bool.and_eq_true_iff.mp alike).2
    exact (congrArg Option.isSome same).trans handled
  have moved := congrArg (List.map (Entry.moved service.stands)) through
  rw [List.map_map] at moved
  refine Eq.trans ?_ moved.symm
  rw [valid.members.entries_eq, entries_without, List.filter_map, List.filter_filter,
    List.filter_filter, List.filter_filter]
  congr 1
  refine List.filter_congr fun entry listed => ?_
  grind [Entry.moved, Entry.occurrence]

/-- The search for the occurrence of an annotation ends where the annotation stands. -/
theorem Service.site_found {handlers : List Handler} (valid : service.Valid phase start done)
    (firstOnly : phase = .fields → FirstOnly start) (order : spots handlers start = done ++ spot :: rest) :
    (phase.sites service.type spot.occurrence)[
        (service.failed.filter (·.occurrence.same spot.occurrence)).length]? =
      some (phase.target spot.member, phase.site spot.member (service.placeOf spot)) := by
  have listed : spot ∈ spots handlers start := by simp [order]
  obtain ⟨there, handler⟩ := mem_spots.mp listed
  have handled : (serverFor? handlers spot.occurrence.note).isSome = true := Option.isSome_of_eq_some handler
  have standing := stands_of_order valid order
  have named : phase = .type → spot.occurrence.member = service.type.name := by
    rintro rfl
    obtain ⟨notes, member, _⟩ := note_at valid there standing
    exact congrArg Prod.fst (List.mem_singleton.mp (List.mem_of_getElem? member))
  have firstOnly' : phase = .fields → FirstOnly (phase.members service.type) := fun fields =>
    (firstOnly_without service.stands (firstOnly fields)).extended valid.members
  have self : spot.occurrence.same spot.occurrence = true := by
    simp [Occurrence.same, Entry.occurrence, sameAnnotation_self (serverFor?_eq_some.mp handler).1]
  rw [sites_eq named firstOnly', like_entries valid handled, order, List.filter_append, List.filter_append,
    ← valid.failed, List.filter_cons, if_pos standing, List.filter_cons, if_pos self, List.map_map,
    List.map_append, List.getElem?_append_right (by simp), List.length_map, Nat.sub_self]
  rfl

theorem target_ne_type {member : Nat} (onType : phase.target member = .type) : phase ≠ .methods := by
  rw [type_of_target onType]
  decide

/-- Carrying out an annotation takes it, and no other, from the members at the start. -/
theorem Service.Valid.members_after {handlers : List Handler} {after : TypeDecl}
    (valid : service.Valid phase start done) (order : spots handlers start = done ++ spot :: rest)
    (grown : Grown (phase.target spot.member)
      (removeNoteAt service.type (phase.site spot.member (service.placeOf spot))) after) :
    Extended (without (fun member place => service.stands member place &&
      (member != spot.member || place != spot.place)) start) (phase.members after) := by
  have listed : spot ∈ spots handlers start := by simp [order]
  have standing := stands_of_order valid order
  obtain ⟨notes, member, _⟩ := note_at valid (mem_spots.mp listed).1 standing
  have inside : spot.member < (without service.stands start).length := by
    obtain ⟨notes, found, _⟩ := mem_entries.mp (mem_spots.mp listed).1
    rw [without, List.length_mapIdx]
    exact (List.getElem?_eq_some_iff.mp found).1
  refine Extended.trans ?_ (grown.members phase target_ne_type)
  rw [members_removeNoteAt (List.getElem?_eq_some_iff.mp member).1]
  obtain ⟨added, bare, members⟩ := valid.members
  refine ⟨added, bare, ?_⟩
  rw [members, modify_append_left inside, Service.placeOf, dropNote_without start standing]

theorem Service.Valid.serve {handlers : List Handler} (weaver : Weaver) (valid : service.Valid phase start done)
    (order : spots handlers start = done ++ spot :: rest) (disciplined : spot.handler.Disciplined) :
    (weaver.serve phase service spot).Valid phase start (done ++ [spot]) := by
  rcases serve_cases weaver phase service disciplined with ⟨after, reports, served, grown⟩ | ⟨reports, served, _⟩
  · rw [served]
    have stands := stands_gone service spot after (service.diagnostics ++ reports)
    refine ⟨?_, ?_, ?_⟩
    · rw [stands]
      exact valid.members_after order grown
    · intro other listed
      rcases List.mem_append.mp listed with listed | listed
      · exact List.mem_append_left _ (valid.gone other listed)
      · exact List.mem_append_right _ listed
    · have others : ∀ other ∈ done, (service.stands other.member other.place &&
          (other.member != spot.member || other.place != spot.place)) =
            service.stands other.member other.place := by
        intro other listed
        have apart := apart_of_order order other listed
        grind
      rw [stands, List.filter_append, List.filter_congr others, ← valid.failed]
      simp
  · rw [served]
    refine ⟨valid.members, fun other listed => List.mem_append_left _ (valid.gone other listed), ?_⟩
    change service.failed ++ [spot] = (done ++ [spot]).filter fun spot => service.stands spot.member spot.place
    rw [List.filter_append, ← valid.failed, List.filter_cons, if_pos (stands_of_order valid order),
      List.filter_nil]

/-- Looking for an occurrence and serving it come to the same. -/
theorem carryOut_eq_serve (earlier : List Diagnostic) (valid : service.Valid phase start done)
    (firstOnly : phase = .fields → FirstOnly start)
    (order : spots weaver.handlers start = done ++ spot :: rest) :
    weaver.carryOut phase (service.progress earlier) spot.occurrence =
      (weaver.serve phase service spot).progress earlier := by
  have listed : spot ∈ spots weaver.handlers start := by simp [order]
  have handled : handlerFor? weaver.handlers spot.occurrence.note = some spot.handler :=
    (serverFor?_eq_some.mp (mem_spots.mp listed).2).2
  have found := Service.site_found valid firstOnly order
  have skipped : ((service.progress earlier).failed.filter (·.same spot.occurrence)).length =
      (service.failed.filter (·.occurrence.same spot.occurrence)).length := by
    rw [Service.progress, List.filter_map, List.length_map]
    rfl
  rw [Weaver.carryOut, skipped, handled, show (service.progress earlier).type = service.type from rfl, found]
  dsimp only [Weaver.serve, Service.progress, Entry.occurrence]
  generalize Weaver.attempt spot.handler _ _ = outcome
  obtain ⟨type, reports, _ | _⟩ := outcome <;> simp

/-- How an annotation is served. It stands where it is looked for. If it is carried out, it alone is used up, and
the members of the other phases keep their annotations, but for methods while the type itself is looked at:
extensions of a builder are used up with it. If it fails, the type is left as it was. -/
structure Spot.Served (phase : Phase) (spot : Spot) (before after : Service) : Prop where
  standing : ∃ notes, (phase.members before.type)[spot.member]? = some (spot.name, notes) ∧
    notes[before.placeOf spot]? = some spot.note
  ending :
    (after.gone = before.gone ++ [spot] ∧ after.failed = before.failed ∧
      Extended ((phase.members before.type).modify spot.member (dropNote (before.placeOf spot)))
        (phase.members after.type) ∧
      Spared phase before.type after.type) ∨
    (after.gone = before.gone ∧ after.failed = before.failed ++ [spot] ∧ after.type = before.type)

theorem Service.Valid.served {handlers : List Handler} (weaver : Weaver) (valid : service.Valid phase start done)
    (order : spots handlers start = done ++ spot :: rest) (disciplined : spot.handler.Disciplined) :
    spot.Served phase service (weaver.serve phase service spot) := by
  have listed : spot ∈ spots handlers start := by simp [order]
  have standing := note_at valid (mem_spots.mp listed).1 (stands_of_order valid order)
  refine ⟨standing, ?_⟩
  rcases serve_cases weaver phase service disciplined with ⟨after, reports, served, grown⟩ | ⟨reports, served, _⟩
  · rw [served]
    refine .inl ⟨rfl, rfl, ?_, spared_grown grown⟩
    obtain ⟨notes, member, _⟩ := standing
    rw [← members_removeNoteAt (List.getElem?_eq_some_iff.mp member).1]
    exact grown.members phase target_ne_type
  · rw [served]
    exact .inr ⟨rfl, rfl, rfl⟩

/-- Serving one annotation after the other keeps what is known, and comes to the same as looking for them. -/
theorem foldl_serve {later : List Spot} (earlier : List Diagnostic) (valid : service.Valid phase start done)
    (firstOnly : phase = .fields → FirstOnly start)
    (disciplined : ∀ spot ∈ spots weaver.handlers start, spot.handler.Disciplined)
    (order : spots weaver.handlers start = done ++ (rest ++ later)) :
    (rest.foldl (weaver.serve phase) service).Valid phase start (done ++ rest) ∧
    rest.foldl (fun progress spot => weaver.carryOut phase progress spot.occurrence) (service.progress earlier) =
      (rest.foldl (weaver.serve phase) service).progress earlier := by
  induction rest generalizing done service with
  | nil => exact ⟨by simpa using valid, rfl⟩
  | cons spot rest inductionHypothesis =>
    have own : spot.handler.Disciplined := disciplined spot (by simp [order])
    have validNext := valid.serve weaver order own
    have step := carryOut_eq_serve earlier valid firstOnly order
    have orderNext : spots weaver.handlers start = (done ++ [spot]) ++ (rest ++ later) := by simp [order]
    obtain ⟨validEnd, same⟩ := inductionHypothesis validNext orderNext
    refine ⟨by simpa using validEnd, ?_⟩
    rw [List.foldl_cons, step, same, List.foldl_cons]

/-- The annotations with a handler that stand when some have been served: those that failed and those that
are still to come. -/
theorem Service.Valid.spots_eq {handlers : List Handler} (valid : service.Valid phase start done) :
    spots handlers (phase.members service.type) =
      ((spots handlers start).filter fun spot => service.stands spot.member spot.place).map fun spot =>
        { spot with place := service.placeOf spot } := by
  rw [spots, valid.members.entries_eq, entries_without, spots]
  induction entries start with
  | nil => rfl
  | cons entry rest inductionHypothesis =>
    have note : (entry.moved service.stands).note = entry.note := rfl
    rw [List.filter_cons, List.filterMap_cons]
    cases stands : service.stands entry.member entry.place <;>
      cases handler : serverFor? handlers entry.note <;>
        simp [stands, note, handler, inductionHypothesis]
    rfl

end Serving

/-- How far a type has come when a phase begins. -/
def Weaver.reached (weaver : Weaver) (type : TypeDecl) : Phase → Progress
  | .type => { type }
  | .fields => weaver.runPhase { type } .type
  | .methods => weaver.runPhase (weaver.runPhase { type } .type) .fields

/-- The annotations with a handler that stand on the members of a phase. -/
def Weaver.marked (weaver : Weaver) (phase : Phase) (type : TypeDecl) : List Entry :=
  (entries (phase.members type)).filter fun entry => (handlerFor? weaver.handlers entry.note).isSome

/-- Those of them that their handlers get to see. -/
def Weaver.pending (weaver : Weaver) (phase : Phase) (type : TypeDecl) : List Spot :=
  spots weaver.handlers (phase.members type)

/-- A phase that has served some annotations of a type. -/
def Weaver.served (weaver : Weaver) (phase : Phase) (type : TypeDecl) (done : List Spot) : Service :=
  done.foldl (weaver.serve phase) { type }

section Phases

variable {weaver : Weaver} {phase : Phase} {type : TypeDecl}

theorem valid_start : Service.Valid phase (phase.members type) [] { type } where
  members := by
    have all : without (Service.stands { type }) (phase.members type) = phase.members type := by
      apply mapIdx_self
      rintro member ⟨name, notes⟩
      simp [keepPlaces_of_all, Service.stands]
    rw [all]
    exact .refl _
  gone := nofun
  failed := rfl

theorem disciplined_spot (standard : ∀ handler ∈ weaver.handlers, handler ∈ standardHandlers)
    {members : Members} :
    ∀ spot ∈ spots weaver.handlers members, spot.handler.Disciplined := by
  intro spot listed
  have found := (serverFor?_eq_some.mp (mem_spots.mp listed).2).2
  exact disciplined_of_standard (standard _ (List.mem_of_find?_eq_some found))

theorem valid_served (standard : ∀ handler ∈ weaver.handlers, handler ∈ standardHandlers)
    (firstOnly : phase = .fields → FirstOnly (phase.members type)) {done rest : List Spot}
    (order : weaver.pending phase type = done ++ rest) :
    (weaver.served phase type done).Valid phase (phase.members type) done :=
  (foldl_serve [] valid_start firstOnly (disciplined_spot standard) order).1

/-- The annotations with a handler that stand at the end of a phase are those that failed. -/
theorem pending_served (standard : ∀ handler ∈ weaver.handlers, handler ∈ standardHandlers)
    (firstOnly : phase = .fields → FirstOnly (phase.members type)) :
    let service := weaver.served phase type (weaver.pending phase type)
    weaver.pending phase service.type =
      service.failed.map fun spot => { spot with place := service.placeOf spot } := by
  intro service
  have valid : service.Valid phase (phase.members type) (weaver.pending phase type) :=
    valid_served standard firstOnly (List.append_nil _).symm
  rw [Weaver.pending, valid.spots_eq, valid.failed]
  rfl

/-- What a phase looks for. -/
theorem filter_occurrences (weaver : Weaver) (phase : Phase) (type : TypeDecl) :
    ((phase.occurrences type).filter fun occurrence => (handlerFor? weaver.handlers occurrence.note).isSome) =
      (weaver.marked phase type).map (·.occurrence) := by
  rw [occurrences_eq, List.filter_map]
  rfl

theorem isSome_serverFor? {handlers : List Handler} {note : Annotation} :
    (serverFor? handlers note).isSome = ((handlerFor? handlers note).isSome && decide (Comparable note)) := by
  by_cases comparable : Comparable note <;> simp [serverFor?, comparable]

theorem map_pending (weaver : Weaver) (phase : Phase) (type : TypeDecl) :
    (weaver.pending phase type).map (·.toEntry) =
      (weaver.marked phase type).filter fun entry => decide (Comparable entry.note) := by
  rw [Weaver.pending, map_spots, Weaver.marked, List.filter_filter]
  refine List.filter_congr fun entry _ => ?_
  rw [isSome_serverFor?, Bool.and_comm]

/-- Where all doubles are numbers, every annotation with a handler is seen by it. -/
theorem map_pending_of_comparable {weaver : Weaver} {phase : Phase} {type : TypeDecl}
    (comparable : ∀ entry ∈ weaver.marked phase type, Comparable entry.note) :
    (weaver.pending phase type).map (·.toEntry) = weaver.marked phase type := by
  rw [map_pending, List.filter_eq_self]
  exact fun entry listed => decide_eq_true (comparable entry listed)

/-- An annotation that is not like itself is not found, so nothing happens to it. -/
theorem carryOut_of_not_comparable (weaver : Weaver) (phase : Phase) (progress : Progress) {occurrence : Occurrence}
    (unlike : ¬Comparable occurrence.note) : weaver.carryOut phase progress occurrence = progress := by
  have nowhere : ∀ notes, Phase.placesOf occurrence.note notes = [] := by
    intro notes
    refine List.map_eq_nil_iff.mpr (List.filter_eq_nil_iff.mpr fun place _ alike => unlike ?_)
    exact (comparable_of_same alike).2
  have none : phase.sites progress.type occurrence = [] := by
    cases phase with
    | type => simp [Phase.sites, nowhere]
    | fields => simp only [Phase.sites, nowhere]; split <;> rfl
    | methods => simp [Phase.sites, nowhere]
  rw [Weaver.carryOut, none, List.getElem?_nil]
  cases handlerFor? weaver.handlers occurrence.note <;> rfl

/-- A phase carries out what it finds. -/
theorem runPhase_eq_foldl (weaver : Weaver) (progress : Progress) (phase : Phase) :
    weaver.runPhase progress phase = ((weaver.pending phase progress.type).map (·.occurrence)).foldl
      (weaver.carryOut phase) { progress with failed := [] } := by
  have found : (weaver.pending phase progress.type).map (·.occurrence) =
      ((weaver.marked phase progress.type).map (·.occurrence)).filter fun occurrence =>
        decide (Comparable occurrence.note) := by
    rw [List.filter_map, ← Function.comp_def, ← Function.comp_def, ← List.map_map, map_pending]
    rfl
  rw [Weaver.runPhase, filter_occurrences, found, List.foldl_filter]
  congr 1
  funext reached occurrence
  by_cases comparable : Comparable occurrence.note
  · simp [comparable]
  · simp [comparable, carryOut_of_not_comparable weaver phase reached comparable]

/-- A phase serves every annotation with a handler once, at its own place. -/
theorem runPhase_eq (standard : ∀ handler ∈ weaver.handlers, handler ∈ standardHandlers) (phase : Phase)
    (progress : Progress)
    (firstOnly : phase = .fields → FirstOnly (phase.members progress.type)) :
    weaver.runPhase progress phase =
      (weaver.served phase progress.type (weaver.pending phase progress.type)).progress progress.diagnostics := by
  have order : weaver.pending phase progress.type = [] ++ (weaver.pending phase progress.type ++ []) := by simp
  have same := (foldl_serve progress.diagnostics valid_start firstOnly (disciplined_spot standard) order).2
  rw [runPhase_eq_foldl, List.foldl_map, Weaver.served, ← same]
  simp [Service.progress]

theorem served_concat (done : List Spot) (spot : Spot) :
    weaver.served phase type (done ++ [spot]) = weaver.serve phase (weaver.served phase type done) spot := by
  rw [Weaver.served, List.foldl_append, Weaver.served]
  rfl

theorem spared_served (standard : ∀ handler ∈ weaver.handlers, handler ∈ standardHandlers)
    {members : Members} {done : List Spot}
    (listed : ∀ spot ∈ done, spot ∈ spots weaver.handlers members) (service : Service) :
    Spared phase service.type (done.foldl (weaver.serve phase) service).type := by
  induction done generalizing service with
  | nil => exact .refl phase service.type
  | cons spot done inductionHypothesis =>
    obtain ⟨own, listed⟩ := List.forall_mem_cons.mp listed
    have rest := inductionHypothesis listed (weaver.serve phase service spot)
    refine Spared.trans ?_ rest
    rcases serve_cases weaver phase service (disciplined_spot standard spot own) with
      ⟨after, reports, served, grown⟩ | ⟨reports, served, _⟩
    · rw [served]
      exact spared_grown grown
    · rw [served]
      exact .refl phase service.type

theorem spared_runPhase (standard : ∀ handler ∈ weaver.handlers, handler ∈ standardHandlers) (phase : Phase)
    (progress : Progress)
    (firstOnly : phase = .fields → FirstOnly (phase.members progress.type)) :
    Spared phase progress.type (weaver.runPhase progress phase).type := by
  rw [runPhase_eq standard phase progress firstOnly]
  exact spared_served standard (fun _ listed => listed) { type := progress.type }

theorem firstOnly_of_distinct (distinct : (type.fields.map (·.name)).Nodup) :
    FirstOnly (Phase.fields.members type) := by
  rw [FirstOnly, Phase.members, List.pairwise_map]
  exact (List.pairwise_map.mp distinct).imp fun apart same => absurd same apart

/-- When the annotations of fields are looked at, only the first field of a name has any. -/
theorem firstOnly_reached (standard : ∀ handler ∈ weaver.handlers, handler ∈ standardHandlers)
    (firstOnly : FirstOnly (Phase.fields.members type)) :
    FirstOnly (Phase.fields.members (weaver.reached type .fields).type) := by
  have spared := spared_runPhase standard .type { type } nofun
  exact firstOnly.extended (spared.members .fields nofun nofun)

/-- In every phase each annotation with a handler that stands when the phase begins is served once, in order, on
the member it is on, if the doubles in these annotations are numbers. It is used up if it is carried out, and
otherwise the type is left as it was; at the end those that failed stand in their old order, and no others that
have a handler. -/
theorem phase_serves_each (standard : ∀ handler ∈ weaver.handlers, handler ∈ standardHandlers)
    (distinct : (type.fields.map (·.name)).Nodup) (phase : Phase)
    (comparable : ∀ entry ∈ weaver.marked phase (weaver.reached type phase).type, Comparable entry.note) :
    let start := weaver.reached type phase
    let pending := weaver.pending phase start.type
    let service := weaver.served phase start.type pending
    pending.map (·.toEntry) = weaver.marked phase start.type ∧
    (weaver.runPhase start phase).type = service.type ∧
    (weaver.runPhase start phase).diagnostics = start.diagnostics ++ service.diagnostics ∧
    (∀ done spot rest, pending = done ++ spot :: rest →
      spot.Served phase (weaver.served phase start.type done) (weaver.served phase start.type (done ++ [spot]))) ∧
    service.failed.Sublist pending ∧
    weaver.marked phase service.type =
      service.failed.map fun spot => { spot.toEntry with place := service.placeOf spot } := by
  intro start pending service
  have firstOnly : phase = .fields → FirstOnly (phase.members start.type) := by
    rintro rfl
    exact firstOnly_reached standard (firstOnly_of_distinct distinct)
  have run := runPhase_eq standard phase start firstOnly
  have valid : service.Valid phase (phase.members start.type) pending :=
    valid_served standard firstOnly (List.append_nil _).symm
  have comparableAfter : ∀ entry ∈ weaver.marked phase service.type, Comparable entry.note := by
    intro entry listed
    obtain ⟨standing, handled⟩ := List.mem_filter.mp listed
    rw [valid.members.entries_eq, entries_without] at standing
    obtain ⟨before, there, rfl⟩ := List.mem_map.mp standing
    exact comparable before (List.mem_filter.mpr ⟨(List.mem_filter.mp there).1, handled⟩)
  refine ⟨map_pending_of_comparable comparable, congrArg Progress.type run, congrArg Progress.diagnostics run,
    ?_, ?_, ?_⟩
  · intro done spot rest order
    have own := disciplined_spot standard spot (show spot ∈ pending by simp [order])
    rw [served_concat]
    exact (valid_served standard firstOnly order).served weaver order own
  · rw [valid.failed]
    exact List.filter_sublist
  · rw [← map_pending_of_comparable comparableAfter, pending_served standard firstOnly, List.map_map]
    rfl

end Phases

/-- A class with two methods of one name: the first cannot be carried out, and the second has the same
annotation twice. -/
def overloadsDecl : TypeDecl where
  name := "Overloads"
  methods := [
    { modifiers := .ofList [.abstract], annotations := [mark "DoPrivileged"], returnType := .void, name := "run",
      bodiless := true },
    { annotations := [mark "DoPrivileged", mark "DoPrivileged"], returnType := .void, name := "run" }]

def overloadsWeaver : Weaver where
  handlers := standardHandlers
  options := {}
  types := {}
  file := "Overloads.java"

theorem phase_serves_overloads :
    let start := overloadsWeaver.reached overloadsDecl .methods
    let pending := overloadsWeaver.pending .methods start.type
    let service := overloadsWeaver.served .methods start.type pending
    (∀ handler ∈ overloadsWeaver.handlers, handler ∈ standardHandlers) ∧
    (overloadsDecl.fields.map (·.name)).Nodup ∧
    (∀ entry ∈ overloadsWeaver.marked .methods start.type, Comparable entry.note) ∧
    (overloadsWeaver.marked .methods start.type).map (·.member) = [0, 1, 1] ∧
    (overloadsWeaver.runPhase start .methods).type = service.type ∧
    service.failed.map (·.member) = [0] ∧
    (overloadsWeaver.marked .methods service.type).map (·.member) = [0] := by
  intro start pending service
  have standard : ∀ handler ∈ overloadsWeaver.handlers, handler ∈ standardHandlers := fun _ listed => listed
  have distinct : (overloadsDecl.fields.map (·.name)).Nodup := List.nodup_nil
  have comparable : ∀ entry ∈ overloadsWeaver.marked .methods start.type, Comparable entry.note := by decide
  obtain ⟨_, run, _, _, _, left⟩ := phase_serves_each standard distinct .methods comparable
  have failed : service.failed.map (·.member) = [0] := by decide
  refine ⟨standard, distinct, comparable, by decide, run, failed, ?_⟩
  rw [left, List.map_map]
  exact failed

end JavaWeave.Weave
