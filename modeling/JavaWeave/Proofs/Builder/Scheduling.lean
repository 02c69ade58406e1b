import JavaWeave.Handler.Builder
import JavaWeave.Proofs.Weave.Commit
import JavaWeave.Proofs.Weave.Handling

namespace JavaWeave.Weave

open Syntax

namespace Handling

variable {α β : Type} {setting : Setting}

theorem outcome_bind_ok {steps : Handling α} {next : α → Handling β} {draft after : Draft} {value : β} :
    (steps >>= next).outcome setting draft = (.ok value, after) ↔
      ∃ first between, steps.outcome setting draft = (.ok first, between) ∧
        (next first).outcome setting between = (.ok value, after) := by
  rw [outcome_bind]
  rcases steps.outcome setting draft with ⟨_ | first, between⟩
  · simp
  · constructor
    · exact fun same => ⟨first, between, rfl, same⟩
    · rintro ⟨_, _, same, rest⟩
      cases same
      exact rest

/-- The steps go through, return the value and schedule just these edits behind those before. -/
def Schedules (setting : Setting) (before : List Edit) (steps : Handling α) (value : α) (edits : List Edit) : Prop :=
  ∀ warnings, ∃ more, steps.outcome setting ⟨before, warnings⟩ = (.ok value, ⟨before ++ edits, more⟩)

namespace Schedules

variable {before edits others : List Edit} {steps : Handling α} {next : α → Handling β} {value : α} {result : β}

theorem pure (value : α) : Schedules setting before (pure value : Handling α) value [] :=
  fun warnings => ⟨warnings, by rw [outcome_pure, List.append_nil]⟩

theorem bind (first : Schedules setting before steps value edits)
    (rest : Schedules setting (before ++ edits) (next value) result others) :
    Schedules setting before (steps >>= next) result (edits ++ others) := by
  intro warnings
  obtain ⟨between, firstOk⟩ := first warnings
  obtain ⟨more, restOk⟩ := rest between
  exact ⟨more, by rw [outcome_bind, firstOk, ← List.append_assoc]; exact restOk⟩

/-- Steps before that schedule nothing. -/
theorem after (first : Schedules setting before steps value [])
    (rest : Schedules setting before (next value) result others) :
    Schedules setting before (steps >>= next) result others := by
  have whole := first.bind (by rwa [List.append_nil])
  rwa [List.nil_append] at whole

theorem warn (message : Diagnostic.Message) (arguments : List String) :
    Schedules setting before (warn message arguments) () [] := by
  intro warnings
  rw [List.append_nil]
  exact ⟨_, rfl⟩

theorem schedule (edit : Edit) : Schedules setting before (schedule edit) () [edit] :=
  fun warnings => ⟨warnings, rfl⟩

theorem read : Schedules setting before (read : Handling Setting) setting [] := by
  intro warnings
  rw [List.append_nil]
  exact ⟨_, rfl⟩

theorem edited : Schedules setting before edited setting.decl [] := by
  intro warnings
  rw [List.append_nil]
  exact ⟨_, rfl⟩

theorem options : Schedules setting before options setting.options [] := by
  intro warnings
  rw [List.append_nil]
  exact ⟨_, rfl⟩

theorem hasMethod (name : String) (arity : Option Nat) :
    Schedules setting before (hasMethod name arity)
      (Draft.hasMethod { edits := before } setting.decl name arity) [] := by
  intro warnings
  rw [List.append_nil]
  exact ⟨_, rfl⟩

theorem hasType (name : String) :
    Schedules setting before (hasType name) (Draft.hasType { edits := before } setting.decl name) [] := by
  intro warnings
  rw [List.append_nil]
  exact ⟨_, rfl⟩

/-- A loop without state schedules what its passes schedule. -/
theorem forIn {items : List α} {step : α → PUnit → Handling (ForInStep PUnit)} {each : α → List Edit}
    (pass : ∀ item before, Schedules setting before (step item ⟨⟩) (.yield ⟨⟩) (each item)) :
    Schedules setting before (ForIn.forIn items ⟨⟩ step) ⟨⟩ (items.flatMap each) := by
  induction items generalizing before with
  | nil => exact .pure _
  | cons item items inductionHypothesis =>
    rw [List.forIn_cons, List.flatMap_cons]
    exact (pass item before).bind inductionHypothesis

/-- A loop that schedules nothing goes through the states of its passes. -/
theorem forIn_state {items : List α} {step : α → β → Handling (ForInStep β)} (change : β → α → β) {start : β}
    (pass : ∀ item state, Schedules setting before (step item state) (.yield (change state item)) []) :
    Schedules setting before (ForIn.forIn items start step) (items.foldl change start) [] := by
  induction items generalizing start with
  | nil => exact .pure _
  | cons item items inductionHypothesis =>
    rw [List.forIn_cons, List.foldl_cons]
    exact (pass item start).after inductionHypothesis

end Schedules

theorem outcome_read (draft : Draft) : (read : Handling Setting).outcome setting draft = (.ok setting, draft) := rfl

theorem outcome_fail (problem : Problem) (draft : Draft) :
    (fail problem : Handling α).outcome setting draft = (.error problem, draft) := rfl

/-- Reading a member gives what the annotation has there. -/
theorem outcome_member_ok {reading : Annotation → Except MemberProblem α} {draft after : Draft} {value : α} :
    (member reading).outcome setting draft = (.ok value, after) ↔
      ∃ note, setting.note = some note ∧ reading note = .ok value ∧ after = draft := by
  rw [member, occurrence, outcome_bind_ok]
  simp only [outcome_bind, outcome_read]
  cases noted : setting.note with
  | none => simp [outcome_fail]
  | some note =>
    simp only [outcome_pure, Prod.mk.injEq, Except.ok.injEq, Option.some.injEq]
    constructor
    · rintro ⟨_, _, ⟨rfl, rfl⟩, rest⟩
      cases found : reading note with
      | error problem => simp [found, outcome_fail] at rest
      | ok other =>
        simp only [found, outcome_pure, Prod.mk.injEq, Except.ok.injEq] at rest
        exact ⟨note, rfl, by rw [found, rest.1], rest.2.symm⟩
    · rintro ⟨_, rfl, found, rfl⟩
      exact ⟨note, after, ⟨rfl, rfl⟩, by rw [found]; rfl⟩

theorem Schedules.member {reading : Annotation → Except MemberProblem α} {before : List Edit} {note : Annotation}
    {value : α} (noted : setting.note = some note) (found : reading note = .ok value) :
    Schedules setting before (member reading) value [] := by
  intro warnings
  rw [List.append_nil]
  exact ⟨warnings, outcome_member_ok.2 ⟨note, noted, found, rfl⟩⟩

end Handling

/-- What the method at a place is as an extension, if it is marked as one. -/
def verdict? (type : TypeDecl) (required : List String) (method : Method) : Option ExtensionVerdict :=
  if annotated method.annotations extensionNote then some (judgeExtension type required method) else none

/-- The method at a place as an extension that can be used. -/
def usable? (type : TypeDecl) (required : List String) : Nat × Method → Option Extension
  | (index, method) =>
    match verdict? type required method with
    | some (.usable givesRequired) => some { index, method, givesRequired }
    | _ => none

/-- The place of an extension that cannot be used. -/
def rejected? (type : TypeDecl) (required : List String) : Nat × Method → Option Nat
  | (index, method) =>
    match verdict? type required method with
    | some .notPrivateVoid | some (.incomplete _) => some index
    | _ => none

namespace BuilderPlan

/-- The extensions of the class that is built. -/
def extensions (plan : BuilderPlan) : Extensions where
  usable := (indexed plan.owner.methods).filterMap (usable? plan.owner plan.fields.requiredNames)
  rejected := (indexed plan.owner.methods).filterMap (rejected? plan.owner plan.fields.requiredNames)

/-- All interfaces, in the order in which they are reached. -/
def allInterfaces (plan : BuilderPlan) (forwarding : List Step) : List StepInterface :=
  plan.requiredInterfaces plan.extensions.usable ++ [plan.optionalInterface plan.extensions.usable forwarding]

def constructorEdit (plan : BuilderPlan) : Edit :=
  match (indexed plan.owner.constructors).find? fun (_, constructor) => adoptsBuilder constructor with
  | some (index, constructor) =>
    .replaceConstructor index { constructor with
      parameters := constructor.parameters.map fun parameter => { parameter with type := plan.builderType } }
  | none => .injectConstructor plan.builderConstructor

def entryEdits (plan : BuilderPlan) (entry : String) : List Edit :=
  if plan.owner.hasMethod entry (some 0) then [] else [.injectMethod (plan.entryMethod entry)]

/-- How the initial value of an optional field moves to the builder. -/
def initialEdits (plan : BuilderPlan) (field : BuilderField) : List Edit :=
  match field.initial with
  | some initial =>
    (if plan.allowReset then [.injectMethod (plan.defaultMethod field initial)] else [])
      ++ [.removeFieldInitializer field.index]
  | none => []

/-- The steps that forward to methods that can be forwarded to. -/
def forwardingSteps (plan : BuilderPlan) (names : List String) : List Step :=
  names.filterMap fun name =>
    (plan.forwardable? name).map fun (returns, thrown) => forwardStep name returns thrown

def edits (plan : BuilderPlan) (entry : String) (forwarding : List Step) : List Edit :=
  [plan.constructorEdit] ++ (plan.entryEdits entry ++ (plan.fields.optional.flatMap plan.initialEdits
    ++ (plan.extensions.usable.flatMap (fun extension => [.removeMethod extension.index])
    ++ (plan.extensions.rejected.flatMap (fun index => [.removeMethodNote index extensionNote])
    ++ ((plan.allInterfaces forwarding).flatMap (fun interface => [.injectType (plan.interfaceDecl interface)])
    ++ [.injectType (plan.builderDecl (plan.allInterfaces forwarding))])))))

end BuilderPlan

namespace Handling.Schedules

variable {setting : Setting} {before : List Edit}

/-- One pass over the methods of a class. -/
def examined (type : TypeDecl) (required : List String) (found : Extensions) (marked : Nat × Method) : Extensions where
  usable := found.usable ++ (usable? type required marked).toList
  rejected := found.rejected ++ (rejected? type required marked).toList

theorem foldl_examined (type : TypeDecl) (required : List String) (methods : List (Nat × Method))
    (found : Extensions) :
    methods.foldl (examined type required) found =
      { usable := found.usable ++ methods.filterMap (usable? type required)
        rejected := found.rejected ++ methods.filterMap (rejected? type required) } := by
  induction methods generalizing found with
  | nil => simp
  | cons marked methods inductionHypothesis =>
    rw [List.foldl_cons, inductionHypothesis, examined]
    cases usable : usable? type required marked <;> cases rejected : rejected? type required marked <;>
      simp [usable, rejected]

theorem examineExtensions (type : TypeDecl) (required : List String) :
    Schedules setting before (examineExtensions type required)
      { usable := (indexed type.methods).filterMap (usable? type required)
        rejected := (indexed type.methods).filterMap (rejected? type required) } [] := by
  have folded := foldl_examined type required (indexed type.methods) {}
  simp only [List.nil_append] at folded
  refine .after (.forIn_state (examined type required) fun marked found => ?_) (folded ▸ .pure _)
  obtain ⟨index, method⟩ := marked
  simp only [examined, usable?, rejected?, verdict?]
  split
  · cases judgeExtension type required method with
    | notPrivateVoid =>
      simp only [Option.toList, List.append_nil]
      exact .after (.warn _ _) (.pure _)
    | incomplete missing =>
      simp only [Option.toList, List.append_nil]
      exact .after (.warn _ _) (.pure _)
    | usable givesRequired =>
      simp only [Option.toList, List.append_nil]
      exact .pure _
  · simp only [Option.toList, List.append_nil]
    exact .pure _

theorem forwardSteps (plan : BuilderPlan) (names : List String) :
    Schedules setting before (forwardSteps plan names) (plan.forwardingSteps names) [] := by
  let change (steps : List Step) (name : String) : List Step :=
    steps ++ ((plan.forwardable? name).map fun (returns, thrown) =>
      BuilderPlan.forwardStep name returns thrown).toList
  have folded (steps : List Step) : names.foldl change steps = steps ++ plan.forwardingSteps names := by
    induction names generalizing steps with
    | nil => simp [BuilderPlan.forwardingSteps]
    | cons name names inductionHypothesis =>
      rw [List.foldl_cons, inductionHypothesis]
      cases found : plan.forwardable? name <;> simp [change, BuilderPlan.forwardingSteps, found]
  refine .after (.forIn_state change fun name steps => ?_) (by rw [folded, List.nil_append]; exact .pure _)
  simp only [change]
  cases plan.forwardable? name with
  | none =>
    simp only [Option.map_none, Option.toList, List.append_nil]
    exact .after (.warn _ _) (.pure _)
  | some found =>
    simp only [Option.map_some, Option.toList]
    exact .pure _

theorem injectBuilderConstructor (plan : BuilderPlan) :
    Schedules setting before (injectBuilderConstructor plan) () [plan.constructorEdit] := by
  rw [Weave.injectBuilderConstructor, BuilderPlan.constructorEdit]
  cases (indexed plan.owner.constructors).find? fun (_, constructor) => adoptsBuilder constructor with
  | none => exact .schedule _
  | some adopted => exact .schedule _

/-- What comes behind the entry: initial values move, extensions leave the class, and the types of the builder
come in. -/
theorem injectMembers (plan : BuilderPlan) (extensions : Extensions) (interfaces : List StepInterface) :
    Schedules setting before
      (do
        for field in plan.fields.optional do
          if let some initial := field.initial then
            if plan.allowReset then injectMethod (plan.defaultMethod field initial)
            Weave.schedule (.removeFieldInitializer field.index)
        for extension in extensions.usable do Weave.schedule (.removeMethod extension.index)
        for index in extensions.rejected do Weave.schedule (.removeMethodNote index extensionNote)
        for interface in interfaces do injectType (plan.interfaceDecl interface)
        injectType (plan.builderDecl interfaces)) ()
      (plan.fields.optional.flatMap plan.initialEdits
        ++ (extensions.usable.flatMap (fun extension => [Edit.removeMethod extension.index])
        ++ (extensions.rejected.flatMap (fun index => [Edit.removeMethodNote index extensionNote])
        ++ (interfaces.flatMap (fun interface => [Edit.injectType (plan.interfaceDecl interface)])
        ++ [Edit.injectType (plan.builderDecl interfaces)])))) := by
  refine .bind (.forIn fun field before => ?_) (.bind (.forIn fun extension before => ?_)
    (.bind (.forIn fun index before => ?_) (.bind (.forIn fun interface before => ?_) (.schedule _))))
  · rw [BuilderPlan.initialEdits]
    cases field.initial with
    | none => exact .pure _
    | some initial =>
      cases plan.allowReset with
      | true => exact .bind (.schedule _) (.bind (.schedule _) (.pure _))
      | false =>
        have removed : Schedules setting before (do
            Weave.schedule (.removeFieldInitializer field.index)
            Pure.pure (ForInStep.yield PUnit.unit)) (.yield ⟨⟩) [.removeFieldInitializer field.index] :=
          .bind (.schedule _) (.pure _)
        exact removed
  · exact .bind (.schedule _) (.pure _)
  · exact .bind (.schedule _) (.pure _)
  · exact .bind (.schedule _) (.pure _)

theorem injectBuilder {plan : BuilderPlan} (owner : plan.owner = setting.decl) (entry : String)
    (forwarded : List String) :
    Schedules setting [] (injectBuilder plan plan.extensions entry forwarded) ()
      (plan.edits entry (plan.forwardingSteps forwarded)) := by
  refine .after (.forwardSteps plan forwarded) (.bind (.injectBuilderConstructor plan) ?_)
  refine .after (.hasMethod entry (some 0)) ?_
  have asked : Draft.hasMethod { edits := [] ++ [plan.constructorEdit] } setting.decl entry (some 0)
      = plan.owner.hasMethod entry (some 0) := by
    rw [owner, Draft.hasMethod, BuilderPlan.constructorEdit]
    cases (indexed plan.owner.constructors).find? fun (_, constructor) => adoptsBuilder constructor <;>
      exact Bool.or_false _
  rw [asked, BuilderPlan.entryEdits]
  cases plan.owner.hasMethod entry (some 0) with
  | true => exact .after (.warn _ _) (.injectMembers plan plan.extensions _)
  | false => exact .bind (.schedule _) (.injectMembers plan plan.extensions _)

end Handling.Schedules

/-- The builder that an annotation asks for, and the methods it wants forwarded. -/
def Asks (setting : Setting) (plan : BuilderPlan) (excluded forwarded : List String) : Prop :=
  ∃ note access leading convenient allowReset,
    setting.note = some note ∧ note.access? "value" = .ok access ∧ note.string? "prefix" = .ok leading ∧
    note.strings "exclude" = .ok excluded ∧ note.bool? "convenientMethods" = .ok convenient ∧
    note.strings "callMethods" = .ok forwarded ∧ note.bool? "allowReset" = .ok allowReset ∧
    plan = {
      owner := setting.decl
      leading := leading.getD setting.options.builderLeading
      access := access.getD .publicAccess
      allowReset := allowReset.getD setting.options.allowReset
      fields := .classify setting.types excluded (convenient.getD setting.options.convenientMethods) setting.decl }

theorem Asks.owner {setting : Setting} {plan : BuilderPlan} {excluded forwarded : List String}
    (asks : Asks setting plan excluded forwarded) : plan.owner = setting.decl := by
  obtain ⟨_, _, _, _, _, -, -, -, -, -, -, -, rfl⟩ := asks
  rfl

namespace Handling

variable {setting : Setting}

theorem outcome_rebuild (draft : Draft) :
    rebuild.outcome setting draft =
      match commit setting.decl setting.span setting.site draft.edits with
      | .ok type => (.ok (.applied type), draft)
      | .error problem => (.error (.internal problem), draft) := by
  change (orInternal (commit setting.decl setting.span setting.site draft.edits)
    >>= fun type => pure (.applied type) : Handling Outcome).outcome setting draft = _
  cases commit setting.decl setting.span setting.site draft.edits <;> rfl

/-- Once the members are read, the builder is made unless a type of its name is there. -/
theorem outcome_makeBuilder {plan : BuilderPlan} (owner : plan.owner = setting.decl)
    (excluded forwarded : List String) (entry : String) (warnings : List Diagnostic) (type : TypeDecl) :
    (∃ after, Handling.outcome (do
        if ← hasType plan.builderName then
          warn .typeExists [plan.builderName]
          return .skipped
        for name in excluded do
          unless setting.decl.hasField name do warn .excludedFieldMissing [name]
        let extensions ← examineExtensions setting.decl plan.fields.requiredNames
        injectBuilder plan extensions entry forwarded
        rebuild) setting ⟨[], warnings⟩ = (.ok (.applied type), after)) ↔
      setting.decl.memberType? plan.builderName = none ∧
      commit setting.decl setting.span setting.site (plan.edits entry (plan.forwardingSteps forwarded))
        = .ok type := by
  have asked : (hasType plan.builderName).outcome setting ⟨[], warnings⟩
      = (.ok (setting.decl.memberType? plan.builderName).isSome, ⟨[], warnings⟩) := by
    change (Except.ok (Draft.hasType _ _ _), _) = _
    rw [Draft.hasType, List.any_nil, Bool.or_false]
  rw [outcome_bind, asked]
  cases present : setting.decl.memberType? plan.builderName with
  | some other =>
    have warned : Schedules setting [] (warn .typeExists [plan.builderName]) () [] := .warn _ _
    obtain ⟨more, warned⟩ := warned warnings
    simp only [Option.isSome_some, if_true]
    rw [outcome_bind, warned]
    simp [outcome_pure]
  | none =>
    have missing : Schedules setting [] (ForIn.forIn excluded PUnit.unit fun name _ =>
        if setting.decl.hasField name = true then pure (ForInStep.yield PUnit.unit)
        else do
          warn .excludedFieldMissing [name]
          pure (ForInStep.yield PUnit.unit)) ⟨⟩ [] := by
      refine .forIn_state (fun _ _ => ⟨⟩) fun name _ => ?_
      cases setting.decl.hasField name with
      | true => exact .pure _
      | false => exact .after (.warn _ _) (.pure _)
    have examined : Schedules setting [] (examineExtensions setting.decl plan.fields.requiredNames)
        plan.extensions [] := by
      rw [← owner]
      exact .examineExtensions _ _
    have injected := Schedules.injectBuilder owner entry forwarded
    obtain ⟨first, missing⟩ := missing warnings
    obtain ⟨second, examined⟩ := examined first
    obtain ⟨_, injected⟩ := injected second
    simp only [Option.isSome_none, Bool.false_eq_true, if_false, outcome_bind, missing, List.append_nil, examined,
      injected, outcome_rebuild, List.nil_append, true_and]
    cases commit setting.decl setting.span setting.site
        (plan.edits entry (plan.forwardingSteps forwarded)) with
    | ok other => simp
    | error problem => simp

theorem outcome_wantedAccess_ok {standard value : Access} {draft after : Draft} :
    (wantedAccess standard).outcome setting draft = (.ok value, after) ↔
      ∃ note access, setting.note = some note ∧ note.access? "value" = .ok access ∧
        value = access.getD standard ∧ after = draft := by
  rw [wantedAccess, outcome_bind_ok]
  simp only [outcome_member_ok, outcome_pure, Prod.mk.injEq, Except.ok.injEq]
  constructor
  · rintro ⟨access, _, ⟨note, noted, found, rfl⟩, rfl, rfl⟩
    exact ⟨note, access, noted, found, rfl, rfl⟩
  · rintro ⟨note, access, noted, found, rfl, rfl⟩
    exact ⟨access, after, ⟨note, noted, found, rfl⟩, rfl, rfl⟩

/-- The handler applies to a class whose annotation can be read and that has no type of the builder's name, and
what it makes of the class is the commit of the builder's edits. -/
theorem outcome_builder (target : Target) (type : TypeDecl) :
    (∃ after, (builderHandler.handle target).outcome setting {} = (.ok (.applied type), after)) ↔
      target = .type ∧ setting.decl.isInterface = false ∧ setting.decl.isEnum = false ∧
      ∃ plan excluded forwarded, Asks setting plan excluded forwarded ∧
        setting.decl.memberType? plan.builderName = none ∧
        commit setting.decl setting.span setting.site
          (plan.edits setting.options.entryMethod (plan.forwardingSteps forwarded)) = .ok type := by
  constructor
  · rintro ⟨after, applied⟩
    simp only [builderHandler] at applied
    obtain ⟨_, _, found, applied⟩ := outcome_bind_ok.1 applied
    cases found
    split at applied
    · obtain ⟨_, _, misused, -⟩ := outcome_bind_ok.1 applied
      cases misused
    rename_i proper
    simp only [Bool.or_eq_true, not_or, bne_iff_ne, ne_eq, Decidable.not_not, Bool.not_eq_true] at proper
    obtain ⟨_, _, found, applied⟩ := outcome_bind_ok.1 applied
    cases found
    obtain ⟨_, _, found, applied⟩ := outcome_bind_ok.1 applied
    obtain ⟨note, access, noted, accessRead, rfl, rfl⟩ := outcome_wantedAccess_ok.1 found
    obtain ⟨leading, _, found, applied⟩ := outcome_bind_ok.1 applied
    obtain ⟨_, same, leadingRead, rfl⟩ := outcome_member_ok.1 found
    cases noted.symm.trans same
    obtain ⟨excluded, _, found, applied⟩ := outcome_bind_ok.1 applied
    obtain ⟨_, same, excludedRead, rfl⟩ := outcome_member_ok.1 found
    cases noted.symm.trans same
    obtain ⟨convenient, _, found, applied⟩ := outcome_bind_ok.1 applied
    obtain ⟨_, same, convenientRead, rfl⟩ := outcome_member_ok.1 found
    cases noted.symm.trans same
    obtain ⟨forwarded, _, found, applied⟩ := outcome_bind_ok.1 applied
    obtain ⟨_, same, forwardedRead, rfl⟩ := outcome_member_ok.1 found
    cases noted.symm.trans same
    obtain ⟨allowReset, _, found, applied⟩ := outcome_bind_ok.1 applied
    obtain ⟨_, same, allowResetRead, rfl⟩ := outcome_member_ok.1 found
    cases noted.symm.trans same
    obtain ⟨_, _, found, applied⟩ := outcome_bind_ok.1 applied
    cases found
    refine ⟨proper.1.1, proper.1.2, proper.2, _, excluded, forwarded,
      ⟨note, access, leading, convenient, allowReset, noted, accessRead, leadingRead, excludedRead, convenientRead,
        forwardedRead, allowResetRead, rfl⟩, ?_⟩
    exact (outcome_makeBuilder rfl excluded forwarded setting.options.entryMethod [] type).1 ⟨after, applied⟩
  · rintro ⟨rfl, noInterface, noEnum, plan, excluded, forwarded, ⟨note, access, leading, convenient, allowReset, noted,
      accessRead, leadingRead, excludedRead, convenientRead, forwardedRead, allowResetRead, rfl⟩, free, committed⟩
    obtain ⟨after, made⟩ := (outcome_makeBuilder rfl excluded forwarded setting.options.entryMethod [] type).2
      ⟨free, committed⟩
    refine ⟨after, ?_⟩
    simp only [builderHandler]
    refine outcome_bind_ok.2 ⟨setting.decl, {}, rfl, ?_⟩
    rw [if_neg (by simp [noInterface, noEnum])]
    refine outcome_bind_ok.2 ⟨setting.options, {}, rfl, ?_⟩
    refine outcome_bind_ok.2 ⟨_, {}, outcome_wantedAccess_ok.2 ⟨note, access, noted, accessRead, rfl, rfl⟩, ?_⟩
    refine outcome_bind_ok.2 ⟨leading, {}, outcome_member_ok.2 ⟨note, noted, leadingRead, rfl⟩, ?_⟩
    refine outcome_bind_ok.2 ⟨excluded, {}, outcome_member_ok.2 ⟨note, noted, excludedRead, rfl⟩, ?_⟩
    refine outcome_bind_ok.2 ⟨convenient, {}, outcome_member_ok.2 ⟨note, noted, convenientRead, rfl⟩, ?_⟩
    refine outcome_bind_ok.2 ⟨forwarded, {}, outcome_member_ok.2 ⟨note, noted, forwardedRead, rfl⟩, ?_⟩
    refine outcome_bind_ok.2 ⟨allowReset, {}, outcome_member_ok.2 ⟨note, noted, allowResetRead, rfl⟩, ?_⟩
    exact outcome_bind_ok.2 ⟨setting, {}, rfl, made⟩

end Handling

end JavaWeave.Weave
