import JavaWeave.Proofs.Weave.Dispatch

/-! Weaving what has been woven changes nothing. When a type is woven without an error, every annotation with a
handler has been used up, no method yields any more, and what was added has neither annotations nor member types
of its own; of such a type there is nothing left to weave. -/

namespace JavaWeave.Weave

open Syntax

/-! The generator leaves a body that does not yield. -/

theorem outcome_rebuild (setting : Setting) (draft : Draft) :
    rebuild.outcome setting draft =
      match commit setting.decl setting.span setting.site draft.edits with
      | .ok type => (.ok (.applied type), draft)
      | .error problem => (.error (.internal problem), draft) := by
  change Handling.outcome (orInternal (commit setting.decl setting.span setting.site draft.edits) >>= fun type =>
    pure (Outcome.applied type)) setting draft = _
  cases commit setting.decl setting.span setting.site draft.edits <;> rfl

theorem outcome_methodAt (setting : Setting) (index : Nat) (draft : Draft) :
    (methodAt index).outcome setting draft =
      match setting.decl.methods[index]? with
      | some method => (.ok method, draft)
      | none => (.error (.internal (.outOfRange "method" index)), draft) := by
  change Handling.outcome (match setting.decl.methods[index]? with
    | some method => pure method
    | none => fail (.internal (.outOfRange "method" index))) setting draft = _
  cases setting.decl.methods[index]? <;> rfl

/-- The body that a generator leaves: the class that the old one became, and an object of it. -/
def generatorBody (yielder : TypeDecl) : List Statement :=
  [.localType yielder, .returns (some (.make yielder.selfType []))]

theorem commit_of_generator {setting : Setting} {index : Nat} {outcome : Outcome} {draft : Draft}
    (ended : (generatorHandler.handle (.method index)).outcome setting {} = (.ok outcome, draft)) :
    ∃ yielder after, outcome = .applied after ∧
      commit setting.decl setting.span setting.site [.replaceBody index (generatorBody yielder)] = .ok after := by
  change Handling.outcome (methodAt index >>= _) setting {} = _ at ended
  rw [Handling.outcome_bind, outcome_methodAt] at ended
  cases found : setting.decl.methods[index]? with
  | none =>
    rw [found] at ended
    cases ended
  | some method =>
    rw [found] at ended
    dsimp only at ended
    cases checked : Generator.check method with
    | error objection =>
      rw [checked] at ended
      cases ended
    | ok shape =>
      rw [checked] at ended
      let yielder := Generator.yielderDecl setting.decl shape setting.options.optimizeStates method
      change rebuild.outcome setting { edits := [.replaceBody index (generatorBody yielder)] } = _ at ended
      rw [outcome_rebuild] at ended
      dsimp only at ended
      cases committed : commit setting.decl setting.span setting.site
          [.replaceBody index (generatorBody yielder)] with
      | error problem =>
        rw [committed] at ended
        cases ended
      | ok after =>
        rw [committed] at ended
        cases ended
        exact ⟨yielder, after, rfl, committed⟩

theorem lowerBody_generator {span : Option Span} {returnType : JavaType} {yielder : TypeDecl}
    {body : List Statement} (lowered : lowerBody span returnType (generatorBody yielder) = .ok body) :
    bodyYields body = false := by
  rw [lowerBody, generatorBody, Reviser.onStatements] at lowered
  obtain ⟨first, firstOk, lowered⟩ := bind_eq_ok.mp lowered
  obtain ⟨rest, restOk, same⟩ := bind_eq_ok.mp lowered
  cases same
  cases restOk
  change (lowering span "method body").onType (some returnType) yielder >>= (fun decl =>
    .ok (Statement.localType decl)) = _ at firstOk
  obtain ⟨decl, _, same⟩ := bind_eq_ok.mp firstOk
  cases same
  rfl

theorem yieldHandler?_eq {handlers : List Handler} {handler : Handler}
    (standard : ∀ handler ∈ handlers, handler ∈ standardHandlers)
    (found : yieldHandler? handlers = some handler) : handler = generatorHandler := by
  have yields : handler.trigger = .yieldCall := by simpa using List.find?_some found
  have last : standardHandlers = standardHandlers.dropLast ++ [generatorHandler] := rfl
  have others : ∀ handler ∈ standardHandlers.dropLast, handler.trigger ≠ .yieldCall := by decide
  have listed := standard handler (List.mem_of_find?_eq_some found)
  rw [last, List.mem_append, List.mem_singleton] at listed
  exact listed.resolve_left fun other => others handler other yields

theorem methods_replaceBody (type : TypeDecl) (index : Nat) (body : List Statement) :
    (assembled type none [.replaceBody index body]).methods = type.methods.mapIdx fun other method =>
      if other = index then { method with body, bodiless := false } else method := by
  have own (other : Nat) (method : Method) : revisedMethod [] [.replaceBody index body] other method =
      if other = index then { method with body, bodiless := false } else method := by
    cases method
    by_cases same : index = other <;>
      simp [revisedMethod, editsOf, Edit.subject?, Edit.onMethod, keepPlaces_of_all, same, eq_comm]
  change keepPlaces (fun _ => true) (type.methods.mapIdx (revisedMethod [] [.replaceBody index body])) ++ [] = _
  rw [List.append_nil, keepPlaces_of_all _ fun _ => rfl, funext fun other => funext (own other)]

/-- The method at an index has been looked at: it does not yield, if methods that yield are looked for, and the
other members are what they were. -/
structure Generated (weaver : Weaver) (index : Nat) (before after : TypeDecl) : Prop where
  grown : Grown (.method index) before after
  length : after.methods.length = before.methods.length
  others : ∀ other, other ≠ index → after.methods[other]? = before.methods[other]?
  quiet : (yieldHandler? weaver.handlers).isSome → ∀ method, after.methods[index]? = some method →
    method.usesYield = false

section Generating

variable {weaver : Weaver}

theorem generated_replaceBody {type after : TypeDecl} {span : Option Span} {index : Nat} {yielder : TypeDecl}
    (committed : commit type span none [.replaceBody index (generatorBody yielder)] = .ok after) :
    Generated weaver index type after := by
  have grown : Grown (.method index) type after :=
    grown_commit (by simp [Edit.Allowed]) committed
  obtain ⟨_, _, lowered, each, rfl⟩ := commit_eq_ok.mp committed
  obtain ⟨written, rest, rfl, first, none⟩ := List.map_eq_cons_iff.mp each.symm
  obtain rfl : rest = [] := List.map_eq_nil_iff.mp none
  obtain ⟨body, bodyOk, same⟩ := bind_eq_ok.mp first.symm
  cases same
  have methods := methods_replaceBody type index body
  refine ⟨grown, ?_, ?_, ?_⟩
  · rw [methods, List.length_mapIdx]
  · intro other apart
    rw [methods, List.getElem?_mapIdx]
    simp [apart]
  · intro _ method found
    rw [methods, List.getElem?_mapIdx, Option.map_eq_some_iff] at found
    obtain ⟨before, _, rfl⟩ := found
    rw [if_pos rfl]
    exact lowerBody_generator bodyOk

theorem hasErrors_flatMap {α : Type} {reports : α → List Diagnostic} {items : List α}
    (clean : Diagnostic.hasErrors (items.flatMap reports) = false) :
    ∀ item ∈ items, Diagnostic.hasErrors (reports item) = false := by
  simpa [Diagnostic.hasErrors] using clean

theorem hasErrors_append {first second : List Diagnostic} : Diagnostic.hasErrors (first ++ second) = false ↔
    Diagnostic.hasErrors first = false ∧ Diagnostic.hasErrors second = false := by
  simp [Diagnostic.hasErrors, List.any_append]

theorem attempt_generator {setting : Setting} {index : Nat} {after : TypeDecl} {reports : List Diagnostic}
    (site : setting.site = none)
    (attempted : Weaver.attempt generatorHandler (.method index) setting = (after, reports, true)) :
    Generated weaver index setting.decl after := by
  rw [Weaver.attempt_eq] at attempted
  rcases ended : (generatorHandler.handle (.method index)).outcome setting {} with ⟨problem | outcome, draft⟩
  · rw [ended] at attempted
    cases attempted
  · rw [ended] at attempted
    obtain ⟨yielder, type, rfl, committed⟩ := commit_of_generator ended
    cases attempted
    rw [site] at committed
    exact generated_replaceBody committed

/-- Looking at a method that yields makes it a generator, or else there is an error. -/
theorem generated_generate (standard : ∀ handler ∈ weaver.handlers, handler ∈ standardHandlers)
    (progress : Progress) (index : Nat)
    (clean : Diagnostic.hasErrors (weaver.generate progress index).diagnostics = false) :
    Diagnostic.hasErrors progress.diagnostics = false ∧
      Generated weaver index progress.type (weaver.generate progress index).type := by
  have left (unchanged : weaver.generate progress index = progress)
      (quiet : (yieldHandler? weaver.handlers).isSome → ∀ method,
        progress.type.methods[index]? = some method → method.usesYield = false) :
      Diagnostic.hasErrors progress.diagnostics = false ∧
        Generated weaver index progress.type (weaver.generate progress index).type := by
    rw [unchanged] at clean ⊢
    exact ⟨clean, .refl _ _, rfl, fun _ _ => rfl, quiet⟩
  cases found : yieldHandler? weaver.handlers with
  | none => exact left (by rw [Weaver.generate, found]) (by simp [found])
  | some handler =>
    obtain rfl := yieldHandler?_eq standard found
    cases present : progress.type.methods[index]? with
    | none => exact left (by rw [Weaver.generate, found, present]) (by simp [present])
    | some method =>
      cases yields : method.usesYield with
      | false => exact left (by simp [Weaver.generate, found, present, yields]) (by simp [present, yields])
      | true =>
        let setting := weaver.setting none method.origin.span none progress.type
        have generated : weaver.generate progress index =
            { progress with
              type := (Weaver.attempt generatorHandler (.method index) setting).1
              diagnostics := progress.diagnostics
                ++ (Weaver.attempt generatorHandler (.method index) setting).2.1 } := by
          simp [Weaver.generate, found, present, yields, setting]
        rw [generated] at clean ⊢
        obtain ⟨before, reported⟩ := hasErrors_append.mp clean
        refine ⟨before, ?_⟩
        rcases attempt_cases disciplined_generator (.method index) setting with
          ⟨after, reports, attempted, _⟩ | ⟨reports, attempted, severe⟩
        · rw [attempted]
          exact attempt_generator rfl attempted
        · rw [attempted] at reported
          exact absurd severe (by simp [reported])

/-- The methods before an index have been looked at. -/
structure GeneratedBelow (weaver : Weaver) (count : Nat) (before after : TypeDecl) : Prop where
  members : ∀ phase : Phase, Extended (phase.members before) (phase.members after)
  memberTypes : after.memberTypes = before.memberTypes
  length : after.methods.length = before.methods.length
  quiet : (yieldHandler? weaver.handlers).isSome → ∀ index < count, ∀ method,
    after.methods[index]? = some method → method.usesYield = false

theorem GeneratedBelow.succ {count : Nat} {before middle after : TypeDecl}
    (below : GeneratedBelow weaver count before middle) (next : Generated weaver count middle after) :
    GeneratedBelow weaver (count + 1) before after where
  members phase := (below.members phase).trans (next.grown.members phase nofun)
  memberTypes := by
    obtain ⟨added, _, onType, types⟩ := next.grown.memberTypes
    obtain rfl : added = [] := Classical.byContradiction fun some => nomatch onType some
    rw [types, List.append_nil, below.memberTypes]
  length := next.length.trans below.length
  quiet enabled index inside method found := by
    by_cases same : index = count
    · subst same
      exact next.quiet enabled method found
    · rw [next.others index same] at found
      exact below.quiet enabled index (by omega) method found

theorem generatedBelow_foldl (standard : ∀ handler ∈ weaver.handlers, handler ∈ standardHandlers)
    (progress : Progress) (count : Nat)
    (clean : Diagnostic.hasErrors ((List.range count).foldl weaver.generate progress).diagnostics = false) :
    Diagnostic.hasErrors progress.diagnostics = false ∧
      GeneratedBelow weaver count progress.type ((List.range count).foldl weaver.generate progress).type := by
  induction count with
  | zero => exact ⟨clean, fun _ => .refl _, rfl, rfl, nofun⟩
  | succ count inductionHypothesis =>
    rw [List.range_succ, List.foldl_append] at clean ⊢
    obtain ⟨before, next⟩ := generated_generate standard _ count clean
    obtain ⟨start, below⟩ := inductionHypothesis before
    exact ⟨start, below.succ next⟩

end Generating

/-! A phase without an error leaves nothing to be carried out. -/

section Phases

variable {weaver : Weaver} {phase : Phase}

/-- Members without annotations make no difference to what is to be carried out. -/
theorem Extended.pending_eq {before after : TypeDecl}
    (extended : Extended (phase.members before) (phase.members after)) :
    weaver.pending phase after = weaver.pending phase before := by
  rw [Weaver.pending, spots, extended.entries_eq]
  rfl

theorem failed_serve {spot : Spot} (disciplined : spot.handler.Disciplined) (service : Service)
    (clean : Diagnostic.hasErrors (weaver.serve phase service spot).diagnostics = false) :
    Diagnostic.hasErrors service.diagnostics = false ∧ (weaver.serve phase service spot).failed = service.failed := by
  rcases serve_cases weaver phase service disciplined with ⟨after, reports, served, _⟩ | ⟨reports, served, severe⟩
  · rw [served] at clean ⊢
    exact ⟨(hasErrors_append.mp clean).1, rfl⟩
  · rw [served] at clean
    exact absurd severe (by simp [(hasErrors_append.mp clean).2])

theorem failed_foldl_serve {done : List Spot} (disciplined : ∀ spot ∈ done, spot.handler.Disciplined)
    (service : Service)
    (clean : Diagnostic.hasErrors (done.foldl (weaver.serve phase) service).diagnostics = false) :
    Diagnostic.hasErrors service.diagnostics = false ∧
      (done.foldl (weaver.serve phase) service).failed = service.failed := by
  induction done generalizing service with
  | nil => exact ⟨clean, rfl⟩
  | cons spot done inductionHypothesis =>
    obtain ⟨own, disciplined⟩ := List.forall_mem_cons.mp disciplined
    obtain ⟨before, rest⟩ := inductionHypothesis disciplined (weaver.serve phase service spot) clean
    obtain ⟨start, first⟩ := failed_serve own service before
    exact ⟨start, rest.trans first⟩

theorem pending_runPhase (standard : ∀ handler ∈ weaver.handlers, handler ∈ standardHandlers) (phase : Phase)
    (progress : Progress) (firstOnly : phase = .fields → FirstOnly (phase.members progress.type))
    (clean : Diagnostic.hasErrors (weaver.runPhase progress phase).diagnostics = false) :
    Diagnostic.hasErrors progress.diagnostics = false ∧
      weaver.pending phase (weaver.runPhase progress phase).type = [] := by
  rw [runPhase_eq standard phase progress firstOnly] at clean ⊢
  obtain ⟨before, reported⟩ := hasErrors_append.mp clean
  have failed := (failed_foldl_serve (disciplined_spot standard) { type := progress.type } reported).2
  refine ⟨before, (pending_served standard firstOnly).trans ?_⟩
  exact List.map_eq_nil_iff.mpr failed

theorem runPhase_of_pending (progress : Progress) (none : weaver.pending phase progress.type = [])
    (unfailed : progress.failed = []) : weaver.runPhase progress phase = progress := by
  rw [runPhase_eq_foldl, none, List.map_nil, List.foldl_nil, ← unfailed]

theorem reached_methods (weaver : Weaver) (type : TypeDecl) :
    weaver.reached type .methods = weaver.runPhase (weaver.reached type .fields) .fields := by
  rw [Weaver.reached, Weaver.reached]

/-- How far a type has come when all its annotations have been looked at. -/
def Weaver.carried (weaver : Weaver) (type : TypeDecl) : Progress :=
  weaver.runPhase (weaver.reached type .methods) .methods

theorem weaveOwn_eq (weaver : Weaver) (type : TypeDecl) :
    weaver.weaveOwn type =
      (List.range (weaver.carried type).type.methods.length).foldl weaver.generate (weaver.carried type) := by
  simp only [Weaver.weaveOwn, Weaver.carried, Weaver.reached, List.foldl_cons, List.foldl_nil]

variable {type : TypeDecl} (standard : ∀ handler ∈ weaver.handlers, handler ∈ standardHandlers)
  (firstOnly : FirstOnly (Phase.fields.members type))
include standard firstOnly

/-- A phase leaves what the phases before it have done. -/
theorem pending_carried (clean : Diagnostic.hasErrors (weaver.carried type).diagnostics = false) :
    weaver.pending phase (weaver.carried type).type = [] := by
  have firstOnly' := firstOnly_reached standard firstOnly
  obtain ⟨cleanFields, methods⟩ :=
    pending_runPhase standard .methods (weaver.reached type .methods) nofun clean
  obtain ⟨cleanType, fields⟩ :=
    pending_runPhase standard .fields (weaver.reached type .fields) (fun _ => firstOnly') cleanFields
  obtain ⟨_, own⟩ := pending_runPhase standard .type { type } nofun cleanType
  have sparedFields := spared_runPhase standard .fields (weaver.reached type .fields) fun _ => firstOnly'
  have sparedMethods := spared_runPhase standard .methods (weaver.reached type .methods) nofun
  cases phase with
  | methods => exact methods
  | fields => exact (sparedMethods.members .fields nofun nofun).pending_eq.trans fields
  | type =>
    have middle := (sparedFields.members .type nofun nofun).pending_eq.trans own
    exact (sparedMethods.members .type nofun nofun).pending_eq.trans middle

theorem memberTypes_carried : ∃ added : List TypeDecl, (∀ decl ∈ added, Unmarked decl) ∧
    (added ≠ [] → weaver.pending .type type ≠ []) ∧
    (weaver.carried type).type.memberTypes = type.memberTypes ++ added := by
  have firstOnly' := firstOnly_reached standard firstOnly
  have sparedFields := spared_runPhase standard .fields (weaver.reached type .fields) fun _ => firstOnly'
  have sparedMethods := spared_runPhase standard .methods (weaver.reached type .methods) (by rintro ⟨⟩)
  rw [Weaver.carried, sparedMethods.memberTypes_eq (by rintro ⟨⟩), reached_methods,
    sparedFields.memberTypes_eq (by rintro ⟨⟩)]
  by_cases none : weaver.pending .type type = []
  · refine ⟨[], List.forall_mem_nil _, fun other => absurd rfl other, ?_⟩
    rw [List.append_nil, Weaver.reached, runPhase_of_pending { type } none rfl]
  · obtain ⟨added, unmarked, _, types⟩ := (spared_runPhase standard .type { type } (by rintro ⟨⟩)).memberTypes
    exact ⟨added, unmarked, fun _ => none, types⟩

end Phases

/-- There is nothing to weave on a type itself. -/
structure Quiet (weaver : Weaver) (type : TypeDecl) : Prop where
  pending : ∀ phase, weaver.pending phase type = []
  yields : (yieldHandler? weaver.handlers).isSome → ∀ method ∈ type.methods, method.usesYield = false

/-- A type that was woven without an error is quiet. Its new member types have no annotations, and there are
some only if the type has an annotation to be carried out. -/
theorem quiet_weaveOwn {weaver : Weaver} {type : TypeDecl}
    (standard : ∀ handler ∈ weaver.handlers, handler ∈ standardHandlers)
    (firstOnly : FirstOnly (Phase.fields.members type))
    (clean : Diagnostic.hasErrors (weaver.weaveOwn type).diagnostics = false) :
    Quiet weaver (weaver.weaveOwn type).type ∧
      (weaver.weaveOwn type).type.memberTypes = (weaver.carried type).type.memberTypes := by
  rw [weaveOwn_eq] at clean ⊢
  obtain ⟨cleanCarried, below⟩ := generatedBelow_foldl standard (weaver.carried type) _ clean
  refine ⟨⟨fun phase => ?_, ?_⟩, below.memberTypes⟩
  · exact (below.members phase).pending_eq.trans (pending_carried standard firstOnly cleanCarried)
  · intro enabled method listed
    obtain ⟨index, inside, rfl⟩ := List.getElem_of_mem listed
    exact below.quiet enabled index (below.length ▸ inside) _ (List.getElem?_eq_getElem inside)

/-- There is nothing to weave on a type and its member types. -/
inductive Settled (weaver : Weaver) : TypeDecl → Prop
  | left {type : TypeDecl} (inner : (type.isLocal || type.isAnonymous) = true) : Settled weaver type
  | quiet {type : TypeDecl} (own : Quiet weaver type)
      (members : ∀ member ∈ type.memberTypes, Settled weaver member) : Settled weaver type

section Settling

variable {weaver : Weaver} {type : TypeDecl}

/-- There is no generator to make of a quiet type. -/
theorem Quiet.generate_eq {progress : Progress} (quiet : Quiet weaver progress.type) (indices : List Nat) :
    indices.foldl weaver.generate progress = progress := by
  have step : ∀ index, weaver.generate progress index = progress := by
    intro index
    rw [Weaver.generate]
    split
    case h_1 handler method enabled present =>
      have still := quiet.yields (by simp [enabled]) method (List.mem_of_getElem? present)
      simp [still]
    case h_2 => rfl
  induction indices with
  | nil => rfl
  | cons index indices inductionHypothesis => rw [List.foldl_cons, step, inductionHypothesis]

theorem Quiet.weaveOwn_eq (quiet : Quiet weaver type) : weaver.weaveOwn type = { type } := by
  have run (phase : Phase) : weaver.runPhase { type } phase = { type } :=
    runPhase_of_pending { type } (quiet.pending phase) rfl
  have fixed (indices : List Nat) : indices.foldl weaver.generate { type } = { type } :=
    Quiet.generate_eq quiet indices
  simp only [Weaver.weaveOwn, List.foldl_cons, List.foldl_nil, run, fixed]

theorem Quiet.withMemberTypes (quiet : Quiet weaver type) (memberTypes : List TypeDecl) :
    Quiet weaver { type with memberTypes } where
  pending phase := by
    rw [← quiet.pending phase]
    cases phase <;> rfl
  yields := quiet.yields

/-- How a type is woven that is neither local nor anonymous. -/
theorem weaveType_succ (inner : (type.isLocal || type.isAnonymous) = false) (fuel : Nat) :
    weaver.weaveType (fuel + 1) type =
      ({ (weaver.weaveOwn type).type with memberTypes := (weaver.weaveOwn type).type.memberTypes.map fun member =>
          (weaver.weaveType fuel member).1 },
       (weaver.weaveOwn type).diagnostics ++ (weaver.weaveOwn type).type.memberTypes.flatMap fun member =>
         (weaver.weaveType fuel member).2) := by
  rw [Weaver.weaveType, if_neg (by simp [inner])]
  simp only [List.map_map, List.flatMap_map]
  rfl

theorem Settled.weaveType_eq (settled : Settled weaver type) (fuel : Nat) :
    weaver.weaveType fuel type = (type, []) := by
  induction fuel generalizing type with
  | zero => rfl
  | succ fuel inductionHypothesis =>
    cases inner : type.isLocal || type.isAnonymous with
    | true => rw [Weaver.weaveType, if_pos inner]
    | false =>
      cases settled with
      | left outer => simp [inner] at outer
      | quiet own members =>
        have each : ∀ member ∈ type.memberTypes, weaver.weaveType fuel member = (member, []) :=
          fun member listed => inductionHypothesis (members member listed)
        have same : type.memberTypes.map (fun member => (weaver.weaveType fuel member).1) = type.memberTypes := by
          rw [List.map_congr_left fun member listed => congrArg Prod.fst (each member listed), List.map_id']
        have none : type.memberTypes.flatMap (fun member => (weaver.weaveType fuel member).2) = [] :=
          List.flatMap_eq_nil_iff.mpr fun member listed => congrArg Prod.snd (each member listed)
        rw [weaveType_succ inner, own.weaveOwn_eq, same, none]
        cases type
        rfl

end Settling

/-- A type whose fields have different names, and so have those of its member types. -/
inductive DistinctFields : TypeDecl → Prop
  | intro {type : TypeDecl} (own : (type.fields.map (·.name)).Nodup)
      (members : ∀ member ∈ type.memberTypes, DistinctFields member) : DistinctFields type

theorem nesting_le_nestings {types : List TypeDecl} {type : TypeDecl} (listed : type ∈ types) :
    nesting type ≤ nestings types := by
  induction types with
  | nil => cases listed
  | cons first rest inductionHypothesis =>
    rw [nestings]
    rcases List.mem_cons.mp listed with rfl | listed
    · exact Nat.le_max_left ..
    · exact Nat.le_trans (inductionHypothesis listed) (Nat.le_max_right ..)

theorem nesting_eq (type : TypeDecl) : nesting type = nestings type.memberTypes + 1 := by
  cases type
  rw [nesting]

theorem firstOnly_of_unmarked {type : TypeDecl} (unmarked : Unmarked type) :
    FirstOnly (Phase.fields.members type) := by
  have bare : ∀ member ∈ Phase.fields.members type, member.2 = [] := List.forall_mem_map.mpr unmarked.fields
  exact @FirstOnly.extended [] _ List.Pairwise.nil ⟨_, bare, rfl⟩

theorem pending_of_unmarked {weaver : Weaver} {type : TypeDecl} (unmarked : Unmarked type) :
    weaver.pending .type type = [] := by
  simp [Weaver.pending, spots, entries, Phase.members, indexed_cons, unmarked.own]

section Weaving

variable {weaver : Weaver} (standard : ∀ handler ∈ weaver.handlers, handler ∈ standardHandlers)
include standard

/-- A type that is woven to the end without an error is settled. The new member types have no member types of
their own, so one more level is enough for them. -/
theorem settled_weaveType {fuel : Nat} {type : TypeDecl}
    (ready : DistinctFields type ∧ nesting type < fuel ∨ Unmarked type ∧ 0 < fuel)
    (clean : Diagnostic.hasErrors (weaver.weaveType fuel type).2 = false) :
    Settled weaver (weaver.weaveType fuel type).1 := by
  induction fuel generalizing type with
  | zero => omega
  | succ fuel inductionHypothesis =>
    cases inner : type.isLocal || type.isAnonymous with
    | true =>
      rw [Weaver.weaveType, if_pos inner]
      exact .left inner
    | false =>
      rw [weaveType_succ inner] at clean ⊢
      obtain ⟨cleanOwn, cleanMembers⟩ := hasErrors_append.mp clean
      have firstOnly : FirstOnly (Phase.fields.members type) := by
        rcases ready with ⟨⟨distinct, _⟩, _⟩ | ⟨unmarked, _⟩
        · exact firstOnly_of_distinct distinct
        · exact firstOnly_of_unmarked unmarked
      obtain ⟨quiet, types⟩ := quiet_weaveOwn standard firstOnly cleanOwn
      obtain ⟨added, unmarkedAdded, needed, typesCarried⟩ := memberTypes_carried standard firstOnly
      generalize weaver.weaveOwn type = progress at quiet types cleanMembers ⊢
      refine .quiet (quiet.withMemberTypes _) (List.forall_mem_map.mpr fun decl listed => ?_)
      refine inductionHypothesis ?_ (hasErrors_flatMap cleanMembers decl listed)
      rw [types, typesCarried, List.mem_append] at listed
      rcases ready with ⟨⟨_, distinctMembers⟩, deep⟩ | ⟨unmarked, _⟩
      · rw [nesting_eq] at deep
        rcases listed with old | new
        · have below := nesting_le_nestings old
          exact .inl ⟨distinctMembers decl old, by omega⟩
        · exact .inr ⟨unmarkedAdded decl new, by omega⟩
      · rcases listed with old | new
        · simp [unmarked.memberTypes] at old
        · exact absurd (pending_of_unmarked unmarked) (needed (List.ne_nil_of_mem new))

end Weaving

/-- The weaver of a unit. -/
def unitWeaver (options : Options) (types : TypeTable) (unit : CompilationUnit) : Weaver where
  handlers := enabledHandlers options
  options := options
  types := types
  file := unit.fileName

section Units

variable (options : Options) (types : TypeTable) (unit : CompilationUnit)

theorem weaveUnit_eq :
    weaveUnit options types unit =
      ({ unit with types := unit.types.map fun type =>
          ((unitWeaver options types unit).weaveType (nesting type + 1) type).1 },
       unit.types.flatMap fun type => ((unitWeaver options types unit).weaveType (nesting type + 1) type).2) := by
  rw [weaveUnit]
  simp only [List.map_map, List.flatMap_map]
  rfl

theorem standard_unitWeaver :
    ∀ handler ∈ (unitWeaver options types unit).handlers, handler ∈ standardHandlers :=
  fun _ listed => (List.mem_filter.mp listed).1

theorem weaveUnit_of_settled (settled : ∀ type ∈ unit.types, Settled (unitWeaver options types unit) type) :
    weaveUnit options types unit = (unit, []) := by
  have same : unit.types.map (fun type =>
      ((unitWeaver options types unit).weaveType (nesting type + 1) type).1) = unit.types := by
    rw [List.map_congr_left fun type listed => congrArg Prod.fst ((settled type listed).weaveType_eq _),
      List.map_id']
  have none : unit.types.flatMap (fun type =>
      ((unitWeaver options types unit).weaveType (nesting type + 1) type).2) = [] :=
    List.flatMap_eq_nil_iff.mpr fun type listed => congrArg Prod.snd ((settled type listed).weaveType_eq _)
  rw [weaveUnit_eq, same, none]

/-- A unit that was woven without an error is left as it is when it is woven again, and there is nothing to
report. -/
theorem weaveUnit_idempotent (distinct : ∀ type ∈ unit.types, DistinctFields type)
    (clean : Diagnostic.hasErrors (weaveUnit options types unit).2 = false) :
    weaveUnit options types (weaveUnit options types unit).1 = ((weaveUnit options types unit).1, []) := by
  apply weaveUnit_of_settled
  rw [weaveUnit_eq] at clean ⊢
  refine List.forall_mem_map.mpr fun type listed => ?_
  exact settled_weaveType (standard_unitWeaver options types unit)
    (.inl ⟨distinct type listed, Nat.lt_succ_self _⟩) (hasErrors_flatMap clean type listed)

end Units

/-- A class with a builder, a setter and a generator, and in it a class with one instance. -/
def pointDecl : TypeDecl where
  name := "Point"
  annotations := [mark "Builder"]
  fields := [{ annotations := [mark "FluentSetter"], type := .named "int", name := "x" }]
  methods := [
    { returnType := .named "Iterator", name := "steps",
      body := [.expression (.call none "yield" [] [.int 1])] }]
  memberTypes := [{ name := "Origin", annotations := [mark "Singleton"] }]

def pointUnit : CompilationUnit where
  fileName := "Point.java"
  types := [pointDecl]

theorem weaveUnit_idempotent_point :
    (∀ type ∈ pointUnit.types, DistinctFields type) ∧
    Diagnostic.hasErrors (weaveUnit {} {} pointUnit).2 = false ∧
    ((weaveUnit {} {} pointUnit).1.types.flatMap fun type => type.memberTypes.map (·.name)) =
      ["Origin", "OptionalDef", "$PointBuilder"] ∧
    weaveUnit {} {} (weaveUnit {} {} pointUnit).1 = ((weaveUnit {} {} pointUnit).1, []) := by
  have distinct : ∀ type ∈ pointUnit.types, DistinctFields type := by
    intro type listed
    obtain rfl := List.mem_singleton.mp listed
    refine .intro (by decide) fun member inside => ?_
    obtain rfl := List.mem_singleton.mp inside
    exact .intro List.nodup_nil nofun
  have clean : Diagnostic.hasErrors (weaveUnit {} {} pointUnit).2 = false := by decide +kernel
  exact ⟨distinct, clean, by decide +kernel, weaveUnit_idempotent {} {} pointUnit distinct clean⟩

end JavaWeave.Weave
