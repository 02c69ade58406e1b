import JavaWeave.Project.Program
import JavaWeave.Proofs.Builder.Product
import JavaWeave.Proofs.Weave.Idempotence

namespace JavaWeave.Weave

open Syntax

/-- An annotation that asks for a builder, and says no more than whether it starts again. -/
structure AsksForBuilder (note : Annotation) (allowReset : Option Bool) : Prop where
  denotes : note.denotes "Builder" = true
  members : note.members = allowReset.toList.map fun allowed => ⟨"allowReset", .literal (.bool allowed)⟩

namespace AsksForBuilder

variable {note : Annotation} {allowReset : Option Bool} (asks : AsksForBuilder note allowReset)
include asks

theorem allows : note.bool? "allowReset" = .ok allowReset := by
  rw [ Annotation.bool?, Annotation.read?, Annotation.get?, asks.members]
  cases allowReset <;> rfl

theorem comparable : Comparable note := by
  obtain ⟨origin, type, members⟩ := note
  obtain rfl := asks.members
  cases allowReset <;> exact fun _ listed => absurd listed List.not_mem_nil

end AsksForBuilder

/-- The plan for a class under default options. -/
def defaultPlan (types : TypeTable) (decl : TypeDecl) (allowReset : Option Bool) : BuilderPlan where
  owner := decl
  leading := ""
  access := .publicAccess
  allowReset := allowReset.getD false
  fields := .classify types [] true decl

theorem AsksForBuilder.asks {note : Annotation} {allowReset : Option Bool} (asks : AsksForBuilder note allowReset)
    {setting : Setting} (noted : setting.note = some note) (options : setting.options = {}) :
    Asks setting (defaultPlan setting.types setting.decl allowReset) [] [] := by
  have unwritten {name : String} (other : name ≠ "allowReset") : note.get? name = none := by
    rw [ Annotation.get?, Option.map_eq_none_iff, List.find?_eq_none]
    intro member listed
    obtain ⟨allowed, -, rfl⟩ := List.mem_map.mp (asks.members ▸ listed)
    simpa using other.symm
  have unread {α : Type} {name expected : String} {shape : Expression → Option α} (other : name ≠ "allowReset") :
      note.read? name expected shape = .ok none := by
    rw [ Annotation.read?, unwritten other]
  have empty {name : String} (other : name ≠ "allowReset") : note.strings name = .ok [] := by
    rw [ Annotation.strings, Annotation.readAll, Annotation.elements, unwritten other]
    rfl
  have access : note.access? "value" = .ok none := by
    rw [ Annotation.access?, Annotation.constant?, unread (by decide)]
    rfl
  refine ⟨note, none, none, none, allowReset, noted, access, unread (by decide), empty (by decide),
    unread (by decide), empty (by decide), asks.allows, ?_⟩
  rw [options]
  rfl

theorem plain_defaultPlan {types : TypeTable} {decl : TypeDecl} (owner : FieldClass decl)
    (shapes : ∀ field ∈ decl.fields, fieldShape types true field = .plain) (allowReset : Option Bool) :
    (defaultPlan types decl allowReset).Plain := by
  have same (role : FieldRole) : (indexed decl.fields).filterMap (fun item =>
      if fieldRole [] (fieldShape types true item.2) item.2 = role then
        some ({ index := item.1, name := item.2.name, type := item.2.type, initial := item.2.initial,
                shape := fieldShape types true item.2 } : BuilderField)
      else none) = heldFields decl role := by
    refine List.filterMap_congr fun item listed => ?_
    simp only [shapes item.2 (List.mem_of_getElem? (mem_indexed.mp listed))]
  exact ⟨owner, same .required, same .optional⟩

theorem anyYields_of_each {expressions : List Expression} (each : ∀ e ∈ expressions, e.yields = false) :
    anyYields expressions = false := by
  induction expressions with
  | nil => rfl
  | cons e rest inductionHypothesis =>
    obtain ⟨first, others⟩ := List.forall_mem_cons.mp each
    simp [anyYields, first, inductionHypothesis others]

theorem yields_straight {e : Expression} (straight : Straight e) : e.yields = false := by
  induction straight with
  | name | this | literal => rfl
  | field _ inductionHypothesis => exact inductionHypothesis
  | callOn _ _ first others => simp [Expression.callOn, Expression.yields, first, anyYields_of_each others]
  | make _ others => exact anyYields_of_each others
  | set _ _ first second => simp [Expression.set, Expression.yields, first, second]

theorem bodyYields_straight {body : List Statement} (straight : ∀ s ∈ body, StraightStep s) :
    bodyYields body = false := by
  induction body with
  | nil => rfl
  | cons s rest inductionHypothesis =>
    obtain ⟨first, others⟩ := List.forall_mem_cons.mp straight
    have still : s.yields = false := by
      cases first with
      | expression inner | returns inner => exact yields_straight inner
    rw [bodyYields, still, inductionHypothesis others]
    rfl

section Parts

variable {type : TypeDecl} (stamp : Origin → Origin)

theorem straight_restamp (straight : StraightType type) : StraightType (type.restamp stamp) where
  constants := straight.constants
  initializers := straight.initializers
  fields := List.forall_mem_map.mpr straight.fields
  constructors := List.forall_mem_map.mpr straight.constructors
  methods := List.forall_mem_map.mpr straight.methods

theorem unmarked_restamp (unmarked : Unmarked type) : Unmarked (type.restamp stamp) where
  own := unmarked.own
  fields := List.forall_mem_map.mpr unmarked.fields
  methods := List.forall_mem_map.mpr unmarked.methods
  memberTypes := unmarked.memberTypes

end Parts

namespace BuilderPlan.Plain

variable {plan : BuilderPlan} (plain : plan.Plain)
include plain

theorem unmarked_interface {interface : StepInterface} (listed : interface ∈ plan.allInterfaces []) :
    interface.Unmarked := by
  intro step member
  cases plain.plainStep listed member <;> rfl

theorem mem_memberTypes {type : TypeDecl} (listed : type ∈ plan.memberTypes) :
    StraightType type ∧ Unmarked type := by
  rcases List.mem_append.mp listed with listed | listed
  · obtain ⟨interface, own, rfl⟩ := List.mem_map.mp listed
    exact ⟨plain.straight_interfaceDecl own, unmarked_interfaceDecl plan (plain.unmarked_interface own)⟩
  · cases List.mem_singleton.mp listed
    exact ⟨plain.straight_builderDecl,
      unmarked_builderDecl plan fun _ listed => plain.unmarked_interface listed⟩

theorem straight_product (entry : String) (stamp : Origin → Origin) (place : Nat) :
    StraightType (plan.product entry stamp place) := by
  have edits := plain.straight_edits entry
  rw [plain.edits_eq] at edits
  constructor
  · exact plain.owner.constants
  · exact plain.owner.initializers
  · refine List.forall_mem_map.mpr fun field listed e initial => ?_
    rw [handOver] at initial
    split at initial
    · cases initial
    · obtain ⟨value, rfl⟩ := plain.owner.literal field listed e initial
      exact .literal value
  · intro constructor listed
    cases List.mem_singleton.mp listed
    cases edits (.injectConstructor plan.builderConstructor) (by simp) with
    | constructor body => exact body
  · refine List.forall_mem_map.mpr fun method listed => ?_
    rcases List.mem_cons.mp listed with rfl | listed
    · cases edits (.injectMethod (plan.entryMethod entry)) (by simp) with
      | method body => exact body
    · rw [defaultMethods] at listed
      split at listed
      next allowed =>
        obtain ⟨field, optional, given⟩ := List.mem_filterMap.mp listed
        obtain ⟨e, initial, rfl⟩ := Option.map_eq_some_iff.mp given
        have scheduled : Edit.injectMethod (plan.defaultMethod field e) ∈ plan.initialEdits field := by
          simp [initialEdits, initial, allowed]
        cases edits _ (List.mem_append_right _ (List.mem_append_left _
          (List.mem_flatMap.mpr ⟨field, optional, scheduled⟩))) with
        | method body => exact body
      next => cases listed

end BuilderPlan.Plain

/-- An annotation that no handler carries out. -/
def Idle (note : Annotation) : Prop := handlerFor? standardHandlers note = none

theorem AsksForBuilder.handler {note : Annotation} {allowReset : Option Bool} (asks : AsksForBuilder note allowReset) :
    handlerFor? standardHandlers note = some builderHandler := by
  have first : builderHandler.trigger.matches note = true := by
    simp [builderHandler, Trigger.matches, asks.denotes]
  rw [handlerFor?, standardHandlers, List.find?_cons, first]

theorem AsksForBuilder.server {note : Annotation} {allowReset : Option Bool} (asks : AsksForBuilder note allowReset) :
    serverFor? standardHandlers note = some builderHandler :=
  serverFor?_eq_some.mpr ⟨asks.comparable, asks.handler⟩

theorem Idle.server {note : Annotation} (idle : Idle note) : serverFor? standardHandlers note = none := by
  rw [serverFor?, show handlerFor? standardHandlers note = none from idle, ite_self]

/-- Only a builder is asked for, and by one annotation. -/
structure OnlyBuilder (decl : TypeDecl) (before : List Annotation) (note : Annotation) (after : List Annotation)
    (allowReset : Option Bool) : Prop where
  asks : AsksForBuilder note allowReset
  annotations : decl.annotations = before ++ note :: after
  others : ∀ other ∈ before ++ after, Idle other
  fields : ∀ field ∈ decl.fields, ∀ other ∈ field.annotations, Idle other

section Class

variable {types : TypeTable} {unit : CompilationUnit}

theorem handlers_default : (unitWeaver {} types unit).handlers = standardHandlers :=
  List.filter_eq_self.mpr fun _ _ => rfl

theorem pending_eq_nil {phase : Phase} {type : TypeDecl}
    (idle : ∀ member ∈ phase.members type, ∀ note ∈ member.2, Idle note) :
    (unitWeaver {} types unit).pending phase type = [] := by
  rw [Weaver.pending, spots, List.filterMap_eq_nil_iff]
  intro entry listed
  obtain ⟨notes, member, there⟩ := mem_entries.mp listed
  rw [Option.map_eq_none_iff, handlers_default]
  exact (idle _ (List.mem_of_getElem? member) _ (List.mem_of_getElem? there)).server

theorem pending_of_unmarked_phase {type : TypeDecl} (unmarked : Unmarked type) {phase : Phase} :
    (unitWeaver {} types unit).pending phase type = [] := by
  refine pending_eq_nil fun member listed note noted => ?_
  have bare : member.2 = [] := by
    cases phase with
    | type =>
      cases List.mem_singleton.mp listed
      exact unmarked.own
    | fields =>
      obtain ⟨field, own, rfl⟩ := List.mem_map.mp listed
      exact unmarked.fields field own
    | methods =>
      obtain ⟨method, own, rfl⟩ := List.mem_map.mp listed
      exact unmarked.methods method own
  rw [bare] at noted
  cases noted

variable {decl : TypeDecl} {before after : List Annotation} {note : Annotation} {allowReset : Option Bool}
  (only : OnlyBuilder decl before note after allowReset)
include only

theorem OnlyBuilder.pending :
    (unitWeaver {} types unit).pending .type decl =
      [{ member := 0, name := decl.name, place := before.length, note, handler := builderHandler }] := by
  have idle {notes : List Annotation} (all : ∀ other ∈ notes, Idle other) (shift : Nat → Nat) :
      (((indexed notes).map fun item => (⟨0, decl.name, shift item.1, item.2⟩ : Entry)).filterMap fun entry =>
        (serverFor? standardHandlers entry.note).map (Spot.mk entry)) = [] := by
    rw [List.filterMap_eq_nil_iff, List.forall_mem_map]
    intro (place, other) listed
    rw [Option.map_eq_none_iff]
    exact (all other (List.mem_of_getElem? (mem_indexed.mp listed))).server
  obtain ⟨first, last⟩ := List.forall_mem_append.mp only.others
  rw [Weaver.pending, spots, entries, handlers_default]
  simp only [Phase.members, indexed_cons, indexed_nil, List.map_nil, List.flatMap_cons, List.flatMap_nil,
    List.append_nil, only.annotations, indexed_append, List.map_append, List.map_cons, List.map_map,
    List.filterMap_append, List.filterMap_cons, only.asks.server, Function.comp_def]
  rw [idle first fun place => place, idle last fun place => before.length + (place + 1)]
  rfl

/-- The class with its builder. -/
def OnlyBuilder.result (_ : OnlyBuilder decl before note after allowReset) (types : TypeTable) : TypeDecl :=
  (defaultPlan types decl allowReset).product "create" (stampAt note.origin.span) before.length

variable (owner : FieldClass decl) (shapes : ∀ field ∈ decl.fields, fieldShape types true field = .plain)
include owner shapes

theorem OnlyBuilder.attempt (unit : CompilationUnit) : ∃ reports, Weaver.attempt builderHandler .type
    ((unitWeaver {} types unit).setting (some note) note.origin.span (some (.type before.length)) decl) =
      (only.result types, reports, true) := by
  have plain := plain_defaultPlan owner shapes allowReset
  have there : before.length < decl.annotations.length := by simp [only.annotations]
  have committed := plain.commit_eq note.origin.span "create" there
  have asks : Asks ((unitWeaver {} types unit).setting (some note) note.origin.span (some (.type before.length)) decl)
      (defaultPlan types decl allowReset) [] [] := only.asks.asks rfl rfl
  have free : decl.memberType? (defaultPlan types decl allowReset).builderName = none := by
    rw [TypeDecl.memberType?, owner.memberTypes]
    rfl
  have isInterface : decl.isInterface = false := by rw [TypeDecl.isInterface, owner.kind]; rfl
  have isEnum : decl.isEnum = false := by rw [TypeDecl.isEnum, owner.kind]; rfl
  obtain ⟨draft, applied⟩ := (Handling.outcome_builder .type _).mpr
    ⟨rfl, isInterface, isEnum, _, [], [], asks, free, committed⟩
  rw [Weaver.attempt_eq, applied]
  exact ⟨draft.warnings, rfl⟩

/-- The class gets its builder. -/
theorem OnlyBuilder.runPhase (unit : CompilationUnit) : ∃ reports, (unitWeaver {} types unit).runPhase { type := decl } .type =
    { type := only.result types, diagnostics := reports } := by
  have standard : ∀ handler ∈ (unitWeaver {} types unit).handlers, handler ∈ standardHandlers := fun _ listed =>
    handlers_default ▸ listed
  obtain ⟨reports, attempted⟩ := only.attempt owner shapes unit
  have place : Service.placeOf { type := decl } ⟨⟨0, decl.name, before.length, note⟩, builderHandler⟩ =
      before.length := by
    have stands : Service.stands { type := decl } 0 = fun _ => true := rfl
    simp [Service.placeOf, stands]
  rw [runPhase_eq standard .type _ (fun other => by cases other), only.pending, Weaver.served, List.foldl_cons,
    List.foldl_nil, Weaver.serve, place]
  simp only [Phase.site, Phase.target, attempted]
  exact ⟨reports, by simp [Service.progress]⟩

/-- There is nothing left to carry out. -/
theorem OnlyBuilder.quiet (unit : CompilationUnit) : Quiet (unitWeaver {} types unit) (only.result types) where
  pending phase := by
    refine pending_eq_nil ?_
    cases phase with
    | type =>
      intro member listed other noted
      cases List.mem_singleton.mp listed
      obtain ⟨⟨place, other⟩, kept, rfl⟩ := List.mem_map.mp noted
      obtain ⟨stands, apart⟩ := List.mem_filter.mp kept
      have there : (before ++ note :: after)[place]? = some other := only.annotations ▸ mem_indexed.mp stands
      have apart : place ≠ before.length := by simpa using apart
      refine only.others other (List.mem_append.mpr ?_)
      rcases Nat.lt_or_gt_of_ne apart with earlier | later
      · rw [List.getElem?_append_left earlier] at there
        exact .inl (List.mem_of_getElem? there)
      · obtain ⟨behind, rfl⟩ := Nat.exists_eq_add_of_lt later
        rw [List.getElem?_append_right (by omega), show before.length + behind + 1 - before.length = behind + 1 by omega,
          List.getElem?_cons_succ] at there
        exact .inr (List.mem_of_getElem? there)
    | fields =>
      refine List.forall_mem_map.mpr (List.forall_mem_map.mpr fun field listed other noted => ?_)
      refine only.fields field listed other ?_
      rw [handOver] at noted
      split at noted <;> exact noted
    | methods =>
      refine List.forall_mem_map.mpr (List.forall_mem_map.mpr fun method listed other noted => ?_)
      have bare : method.annotations = [] := by
        rcases List.mem_cons.mp listed with rfl | listed
        · rfl
        · rw [BuilderPlan.defaultMethods] at listed
          split at listed
          · obtain ⟨field, -, given⟩ := List.mem_filterMap.mp listed
            obtain ⟨e, -, rfl⟩ := Option.map_eq_some_iff.mp given
            rfl
          · cases listed
      rw [Method.restamp, bare] at noted
      cases noted
  yields _ method listed :=
    bodyYields_straight (((plain_defaultPlan owner shapes allowReset).straight_product ..).methods method listed)

/-- The class comes out with its builder. -/
theorem OnlyBuilder.weaveType (inner : (decl.isLocal || decl.isAnonymous) = false) (fuel : Nat) :
    ((unitWeaver {} types unit).weaveType (fuel + 1) decl).1 = only.result types := by
  have plain := plain_defaultPlan owner shapes allowReset
  have quiet := only.quiet owner shapes unit
  obtain ⟨reports, ran⟩ := only.runPhase owner shapes unit
  have own : (unitWeaver {} types unit).weaveOwn decl = { type := only.result types, diagnostics := reports } := by
    have still (phase : Phase) :
        (unitWeaver {} types unit).runPhase { type := only.result types, diagnostics := reports } phase =
          { type := only.result types, diagnostics := reports } :=
      runPhase_of_pending { type := only.result types, diagnostics := reports } (quiet.pending phase) rfl
    simp only [Weaver.weaveOwn, List.foldl_cons, List.foldl_nil, ran, still]
    exact Quiet.generate_eq quiet _
  have settled : ∀ member ∈ (only.result types).memberTypes, Settled (unitWeaver {} types unit) member := by
    refine List.forall_mem_map.mpr fun member listed => ?_
    obtain ⟨straight, unmarked⟩ := plain.mem_memberTypes listed
    have unmarked := unmarked_restamp (stampAt note.origin.span) unmarked
    refine .quiet ⟨fun phase => ?_, fun _ method listed => ?_⟩ ?_
    · exact pending_of_unmarked_phase unmarked
    · exact bodyYields_straight ((straight_restamp _ straight).methods method listed)
    · rw [unmarked.memberTypes]
      exact List.forall_mem_nil _
  have same : (only.result types).memberTypes.map (fun member =>
      ((unitWeaver {} types unit).weaveType fuel member).1) = (only.result types).memberTypes := by
    rw [List.map_congr_left fun member listed => congrArg Prod.fst ((settled member listed).weaveType_eq fuel),
      List.map_id']
  rw [weaveType_succ inner, own, same]
  rfl

end Class

section Names

variable {weaver : Weaver} (standard : ∀ handler ∈ weaver.handlers, handler ∈ standardHandlers)

theorem name_attempt {handler : Handler} (disciplined : handler.Disciplined) (target : Target) (setting : Setting) :
    (Weaver.attempt handler target setting).1.name = setting.decl.name := by
  rcases attempt_cases disciplined target setting with ⟨after, reports, attempted, grown⟩ | ⟨reports, attempted, -⟩
  · obtain ⟨added, -, same⟩ := grown.members .type nofun
    have first := congrArg (fun members => (members.head?).map Prod.fst) same
    have kept : (removeAnnotationAt setting.decl setting.site).name = setting.decl.name := by
      rcases setting.site with _ | _ | _ | _ <;> rfl
    rw [attempted, ← kept]
    exact Option.some.inj first
  · rw [attempted]

include standard

theorem name_weaveOwn (type : TypeDecl) : (weaver.weaveOwn type).type.name = type.name := by
  have each {handler : Handler} (listed : handler ∈ weaver.handlers) : handler.Disciplined :=
    disciplined_of_standard (standard handler listed)
  have carried (phase : Phase) (progress : Progress) (occurrence : Occurrence) :
      (weaver.carryOut phase progress occurrence).type.name = progress.type.name := by
    rw [Weaver.carryOut]
    split
    case h_1 handler target site found there =>
      exact name_attempt (each (List.mem_of_find?_eq_some found)) target _
    case h_2 => rfl
  have phase (phase : Phase) (progress : Progress) : (weaver.runPhase progress phase).type.name = progress.type.name := by
    rw [Weaver.runPhase]
    refine List.foldlRecOn (motive := fun next => next.type.name = progress.type.name) _ _ ?_
      fun next same occurrence _ => (carried phase next occurrence).trans same
    rfl
  have generated (progress : Progress) (index : Nat) :
      (weaver.generate progress index).type.name = progress.type.name := by
    rw [Weaver.generate]
    split
    case h_1 handler method found there =>
      split
      · exact name_attempt (each (List.mem_of_find?_eq_some found)) (.method index) _
      · rfl
    case h_2 => rfl
  simp only [Weaver.weaveOwn, List.foldl_cons, List.foldl_nil]
  refine List.foldlRecOn (motive := fun next => next.type.name = type.name) _ _ ?_
    fun next same index _ => (generated next index).trans same
  rw [phase, phase, phase]

/-- No type changes its name. -/
theorem name_weaveType (fuel : Nat) (type : TypeDecl) : (weaver.weaveType fuel type).1.name = type.name := by
  cases fuel with
  | zero => rfl
  | succ fuel =>
    rw [Weaver.weaveType]
    split
    · rfl
    · dsimp only
      exact name_weaveOwn standard type

end Names

/-- A type that has none of the names, and neither has a member type. -/
inductive Unnamed (names : List String) : TypeDecl → Prop
  | intro {type : TypeDecl} (own : type.name ∉ names) (members : ∀ member ∈ type.memberTypes, Unnamed names member) :
      Unnamed names type

section Table

variable {names : List String} {name : String} (listed : name ∈ names) (plain : '.' ∉ name.toList)

theorem resolve?_insert (table : TypeTable) (key : String) (info : TypeInfo) (wanted : String) :
    (table.insert key info).resolve? wanted = if wanted = key then some info else table.resolve? wanted := by
  rw [TypeTable.insert, TypeTable.resolve?, List.lookup_cons]
  split <;> simp_all [TypeTable.resolve?]

include listed plain

theorem unqualified {own : String} (apart : own ∉ names) (outer : String) : name ≠ TypeTable.qualify outer own := by
  rw [TypeTable.qualify]
  split
  · exact fun same => apart (same ▸ listed)
  · rintro rfl
    exact plain (by simp)

theorem resolve?_addType {type : TypeDecl} (unnamed : Unnamed names type) :
    ∀ (table : TypeTable) (outer : String), table.resolve? name = none →
      (TypeTable.addType table outer type).resolve? name = none := by
  induction unnamed with
  | @intro type own members inductionHypothesis =>
    have each : ∀ (types : List TypeDecl), (∀ member ∈ types, member ∈ type.memberTypes) →
        ∀ (table : TypeTable) (outer : String), table.resolve? name = none →
          (TypeTable.addTypes table outer types).resolve? name = none := by
      intro types
      induction types with
      | nil => exact fun _ table outer unknown => unknown
      | cons first rest inductionHypothesis' =>
        intro among table outer unknown
        rw [TypeTable.addTypes]
        exact inductionHypothesis' (fun member later => among member (List.mem_cons_of_mem _ later)) _ outer
          (inductionHypothesis first (among first List.mem_cons_self) table outer unknown)
    intro table outer unknown
    have fresh : name ≠ type.name := fun same => own (same ▸ listed)
    cases type
    rw [TypeTable.addType, resolve?_insert, if_neg (unqualified listed plain own outer)]
    refine each _ (fun _ => id) _ _ ?_
    rw [TypeTable.insertNew]
    split
    · exact unknown
    · rw [resolve?_insert, if_neg fresh, unknown]

end Table

/-- The types of fields that hold a number, a truth value or a text. -/
def kinds : List JavaType := [.named "int", .named "long", .named "boolean", .string]

/-- The names of these types. -/
def kindNames : List String := kinds.map (·.name)

theorem resolve?_ofUnits {units : List CompilationUnit}
    (unnamed : ∀ unit ∈ units, ∀ type ∈ unit.types, Unnamed kindNames type) {name : String}
    (listed : name ∈ kindNames) : (TypeTable.ofUnits units).resolve? name = none := by
  have plain : ∀ name ∈ kindNames, '.' ∉ name.toList := by decide
  have unknown : ∀ name ∈ kindNames, TypeTable.library.resolve? name = none := by decide +kernel
  have declared : (units.foldl TypeTable.addUnit {}).resolve? name = none := by
    refine List.foldlRecOn (motive := fun table : TypeTable => table.resolve? name = none) _ _ ?_
      fun table known unit there => ?_
    · rfl
    rw [TypeTable.addUnit]
    generalize unit.package.getD "" = outer
    have each := unnamed unit there
    generalize unit.types = types at each
    induction types generalizing table with
    | nil => exact known
    | cons type rest inductionHypothesis =>
      obtain ⟨first, others⟩ := List.forall_mem_cons.mp each
      rw [TypeTable.addTypes]
      exact inductionHypothesis _ (resolve?_addType listed (plain name listed) first table outer known) others
  have library := unknown name listed
  rw [TypeTable.resolve?] at declared library
  rw [TypeTable.ofUnits, TypeTable.orElse, TypeTable.resolve?, List.lookup_append, declared, library]
  rfl

/-- Such fields are set as a whole. -/
theorem fieldShape_of_kind {units : List CompilationUnit}
    (unnamed : ∀ unit ∈ units, ∀ type ∈ unit.types, Unnamed kindNames type) {field : Field}
    (kind : field.type ∈ kinds) : fieldShape (TypeTable.ofUnits units) true field = .plain := by
  have unknown := resolve?_ofUnits unnamed (List.mem_map_of_mem kind)
  have nothing : ∀ ancestor ∈ ["java.util.Map", "java.util.Collection"],
      (TypeTable.ofUnits units).isSubtype field.type.name ancestor = false := by
    have apart : ∀ ancestor ∈ ["java.util.Map", "java.util.Collection"], ∀ type ∈ kinds,
        (Names.denotes type.name ancestor || Names.denotes ancestor type.name) = false := by decide
    intro ancestor listed
    rw [TypeTable.isSubtype, TypeTable.searchFrom]
    simp [unknown, apart ancestor listed _ kind, TypeTable.searchFrom]
  rw [fieldShape, TypeTable.isMap, TypeTable.isCollection, nothing _ (by simp), nothing _ (by simp)]
  simp

end JavaWeave.Weave
