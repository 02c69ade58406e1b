import JavaWeave.Proofs.Types.Declared
import JavaWeave.Weave.Transform

namespace JavaWeave.Weave

open Syntax

namespace Handling

variable {α β : Type}

/-- Steps that are the same under tables that answer alike. -/
structure Steady (steps : Handling α) : Prop where
  same : ∀ (setting : Setting) (types : TypeTable), types.Alike setting.types →
    steps.run { setting with types } = steps.run setting

namespace Steady

variable {steps other : Handling α} {next : α → Handling β}

theorem pure (value : α) : Steady (pure value : Handling α) := ⟨fun _ _ _ => rfl⟩

theorem bind (first : Steady steps) (rest : ∀ value, Steady (next value)) : Steady (steps >>= next) where
  same setting types alike := by
    rw [ReaderT.run_bind, ReaderT.run_bind, first.same setting types alike]
    exact bind_congr fun value => (rest value).same setting types alike

theorem ite {condition : Prop} [Decidable condition] (whenTrue : Steady steps) (whenFalse : Steady other) :
    Steady (if condition then steps else other) := by
  split
  · exact whenTrue
  · exact whenFalse

/-- Steps that several branches go on with are looked at once. -/
theorem joined {following : Handling β} (branches : Steady following → Steady steps) (rest : Steady following) :
    Steady steps := branches rest

theorem branch {condition : Prop} [Decidable condition] (whenTrue : Steady steps) (whenFalse : Steady other)
    (rest : ∀ value, Steady (next value)) : Steady (if condition then steps >>= next else other >>= next) :=
  .ite (.bind whenTrue rest) (.bind whenFalse rest)

theorem lacking {condition : Prop} [Decidable condition] {steps : Handling Unit} {next : Unit → Handling β}
    (whenFalse : Steady steps) (rest : Steady (next ())) :
    Steady (if condition then next () else steps >>= next) :=
  .ite rest (.bind whenFalse fun _ => rest)

theorem whenever {condition : Prop} [Decidable condition] {steps : Handling Unit} {next : Unit → Handling β}
    (whenTrue : Steady steps) (rest : Steady (next ())) :
    Steady (if condition then steps >>= next else next ()) :=
  .ite (.bind whenTrue fun _ => rest) rest

/-- Steps that look at the whole setting go on alike if the table is only asked. -/
theorem read {next : Setting → Handling β} (rest : ∀ setting, Steady (next setting))
    (asks : ∀ (setting : Setting) (types : TypeTable), types.Alike setting.types →
      next { setting with types } = next setting) : Steady (read >>= next) where
  same setting types alike := by
    change (next { setting with types }).run { setting with types } = (next setting).run setting
    rw [asks setting types alike]
    exact (rest setting).same setting types alike

theorem forIn {items : List α} {step : α → β → Handling (ForInStep β)}
    (each : ∀ item state, Steady (step item state)) : ∀ {start : β}, Steady (ForIn.forIn items start step) := by
  induction items with
  | nil => exact .pure _
  | cons item items inductionHypothesis =>
    intro start
    rw [List.forIn_cons]
    refine .bind (each item start) fun result => ?_
    cases result with
    | done after => exact .pure after
    | yield after => exact inductionHypothesis

theorem mapM {option : Option α} {read : α → Handling β} (each : ∀ value, Steady (read value)) :
    Steady (option.mapM read) := by
  cases option with
  | none => exact .pure none
  | some value => exact .bind (each value) fun result => .pure (some result)

theorem misuse (message : Diagnostic.Message) (arguments : List String) :
    Steady (misuse message arguments : Handling α) := ⟨fun _ _ _ => rfl⟩

theorem misused (message : Diagnostic.Message) : Steady ( misuseOfAnnotation message : Handling α) :=
  ⟨fun _ _ _ => rfl⟩

/-- Nothing follows a misuse. -/
theorem misuseThen (message : Diagnostic.Message) (arguments : List String) :
    Steady (Weave.misuse message arguments >>= next) := ⟨fun _ _ _ => rfl⟩

theorem misusedThen (message : Diagnostic.Message) : Steady ( misuseOfAnnotation message >>= next) :=
  ⟨fun _ _ _ => rfl⟩

theorem fail (problem : Problem) : Steady (fail problem : Handling α) := ⟨fun _ _ _ => rfl⟩

theorem orInternal (result : Except InternalProblem α) : Steady (orInternal result) := by
  cases result with
  | ok value => exact .pure value
  | error problem => exact .fail _

theorem warn (message : Diagnostic.Message) (arguments : List String) : Steady (warn message arguments) :=
  ⟨fun _ _ _ => rfl⟩

theorem schedule (edit : Edit) : Steady (schedule edit) := ⟨fun _ _ _ => rfl⟩

theorem injectField (field : Field) : Steady (injectField field) := schedule _

theorem injectMethod (method : Method) : Steady (injectMethod method) := schedule _

theorem edited : Steady edited := ⟨fun _ _ _ => rfl⟩

theorem options : Steady options := ⟨fun _ _ _ => rfl⟩

theorem annotationName : Steady annotationName := ⟨fun _ _ _ => rfl⟩

theorem hasMethod (name : String) (arity : Option Nat) : Steady (hasMethod name arity) := ⟨fun _ _ _ => rfl⟩

theorem hasField (name : String) : Steady (hasField name) := ⟨fun _ _ _ => rfl⟩

theorem hasType (name : String) : Steady (hasType name) := ⟨fun _ _ _ => rfl⟩

theorem methodAt (index : Nat) : Steady (methodAt index) := by
  refine .bind .edited fun decl => ?_
  split
  · exact .pure _
  · exact .fail _

theorem fieldAt (index : Nat) : Steady (fieldAt index) := by
  refine .bind .edited fun decl => ?_
  split
  · exact .pure _
  · exact .fail _

theorem occurrence : Steady occurrence := by
  refine .read (fun setting => ?_) fun _ _ _ => rfl
  split
  · exact .pure _
  · exact .fail _

theorem member (reading : Annotation → Except MemberProblem α) : Steady (member reading) := by
  refine .bind .occurrence fun note => ?_
  split
  · exact .pure _
  · exact .fail _

theorem rebuild : Steady rebuild := by
  refine .read (fun setting => .bind ⟨fun _ _ _ => rfl⟩ fun draft => ?_) fun _ _ _ => rfl
  exact .bind (.orInternal _) fun type => .pure _

theorem methodTarget (target : Target) : Steady (methodTarget target) := by
  cases target with
  | method index => exact .pure index
  | type => exact .misused _
  | field index => exact .misused _

end Steady

end Handling

open Handling

/-- A handler that sees the types of the program only through what the table answers. -/
def Handler.Steady (handler : Handler) : Prop := ∀ target, (handler.handle target).Steady

theorem Handling.Steady.wantedAccess (standard : Access) : Steady (wantedAccess standard) :=
  .bind (.member _) fun _ => .pure _

theorem Handling.Steady.setterFields (note : String) (target : Target) : Steady (setterFields note target) := by
  cases target with
  | type => exact .bind .edited fun _ => .pure _
  | method index => exact .misused _
  | field index =>
    refine .bind (.fieldAt index) fun field => ?_
    refine .ite (.bind .annotationName fun _ => .bind (.misuse _ _) fun _ => ?_) ?_
    all_goals exact .ite (.bind .annotationName fun _ => .bind (.misuse _ _) fun _ => .pure _) (.pure _)

theorem steady_fluentSetter : fluentSetterHandler.Steady := by
  intro target
  refine .bind .edited fun type => .ite (.misusedThen _) ?_
  refine .bind (.wantedAccess _) fun access => .bind (.setterFields _ target) fun fields => ?_
  refine .bind (.forIn fun field _ => .bind (.hasMethod _ _) fun found => ?_) fun _ => .rebuild
  exact .branch (.warn _ _) (.injectMethod _) fun _ => .pure _

theorem Handling.Steady.changeSupport (support : ChangeSupport) : Steady support.inject := by
  refine .bind (.hasField _) fun _ => .lacking (.injectField _) ?_
  refine .bind (.hasField _) fun _ => .lacking (.injectField _) ?_
  refine .bind (.hasMethod _ _) fun _ => .lacking (.injectMethod _) ?_
  refine .bind (.forIn fun name _ => .bind (.hasMethod _ _) fun _ => .lacking (.injectMethod _) (.pure _)) fun _ => ?_
  exact .bind (.hasMethod _ _) fun _ => .ite (.pure _) (.injectMethod _)

theorem steady_boundSetter : boundSetterHandler.Steady := by
  intro target
  refine .bind .edited fun type => .ite (.misusedThen _) (.bind (.wantedAccess _) fun access => ?_)
  refine .bind (.member _) fun vetoable => .bind (.member _) fun throwing => ?_
  refine .bind (.setterFields _ target) fun fields => .bind (.changeSupport _) fun _ => ?_
  refine .whenever (.changeSupport _) (.bind (.forIn fun field _ => .bind (.hasField _) fun _ => ?_) fun _ => .rebuild)
  refine .lacking (.injectField _) (.bind (.hasMethod _ _) fun _ => ?_)
  exact .branch (.warn _ _) (.injectMethod _) fun _ => .pure _

theorem Handling.Steady.notBlank (complaint : Diagnostic.Message) (name : String) : Steady (notBlank complaint name) :=
  .ite (.misusedThen _) (.pure name)

theorem Handling.Steady.lockNameMember (note : Annotation) (name standard : String) :
    Steady (lockNameMember note name standard) := by
  refine .bind (.member _) fun lock => ?_
  cases lock with
  | some lock => exact .notBlank _ lock
  | none => exact .pure standard

theorem Handling.Steady.signalMember (note : Annotation) : Steady (signalMember note) :=
  .bind (.member _) fun _ => .notBlank _ _

theorem Handling.Steady.awaitMember (note : Annotation) : Steady (awaitMember note) :=
  .bind (.signalMember note) fun _ => .bind (.member _) fun _ => .pure _

theorem Handling.Steady.lockPlan : Steady LockPlan.read := by
  refine .bind .occurrence fun note => .bind .options fun options => .bind .annotationName fun name => ?_
  split
  · exact .bind (.lockNameMember _ _ _) fun _ => .pure _
  · exact .bind (.lockNameMember _ _ _) fun _ => .pure _
  · exact .bind (.lockNameMember _ _ _) fun _ => .bind (.awaitMember _) fun _ => .pure _
  · exact .bind (.lockNameMember _ _ _) fun _ => .bind (.signalMember _) fun _ => .pure _
  · refine .bind (.member _) fun awaits => .bind (.member _) fun signals => .bind (.lockNameMember _ _ _) fun lock => ?_
    refine .bind (.mapM fun _ => .awaitMember _) fun await => ?_
    exact .bind (.mapM fun _ => .signalMember _) fun signal => .pure _

theorem steady_conditionLock : conditionLockHandler.Steady := by
  intro target
  refine .bind (.methodTarget target) fun index => .bind (.methodAt index) fun method => ?_
  refine .ite (.misusedThen _) (.bind .lockPlan fun plan => ?_)
  apply Steady.joined
  · intro rest
    cases plan.await with
    | some await => exact .bind (.hasMethod _ _) fun _ => .lacking (.misuse _ _) rest
    | none => exact rest
  refine .bind .edited fun type => ?_
  apply Steady.joined
  · intro rest
    cases type.field? plan.lock with
    | some field => exact .lacking (.misuse _ _) rest
    | none => exact rest
  refine .bind (.hasField _) fun _ => .lacking (.injectField _) ?_
  refine .bind (.forIn fun condition _ => ?_) fun _ => .bind (.schedule _) fun _ => .rebuild
  exact .bind (.hasField _) fun _ => .lacking (.injectField _) (.pure _)

theorem steady_doPrivileged : doPrivilegedHandler.Steady := by
  intro target
  refine .bind (.methodTarget target) fun index => .bind (.methodAt index) fun method => ?_
  refine .ite (.misusedThen _) (.bind (.schedule _) fun _ => ?_)
  exact .bind .edited fun _ => .bind (.schedule _) fun _ => .rebuild

theorem steady_swingInvoke : swingInvokeHandler.Steady := by
  intro target
  refine .bind (.methodTarget target) fun index => .bind (.methodAt index) fun method => ?_
  refine .ite (.misusedThen _) (.lacking (.misused _) (.bind .annotationName fun _ => .bind (.schedule _) fun _ => ?_))
  exact .bind .edited fun _ => .bind (.schedule _) fun _ => .rebuild

theorem steady_functionObject : functionObjectHandler.Steady := by
  intro target
  refine .bind (.methodTarget target) fun index => .bind .annotationName fun name => .bind (.methodAt index) fun method => ?_
  refine .ite (.misusedThen _) ?_
  cases (FunctionKind.ofNote name).complaint? method.returnType with
  | some complaint => exact .misuseThen _ _
  | none =>
    refine .bind (.member _) fun template => .bind (.schedule _) fun _ => .bind (.schedule _) fun _ => ?_
    exact .bind .edited fun _ => .bind (.schedule _) fun _ => .rebuild

theorem steady_rethrow : rethrowHandler.Steady := by
  intro target
  refine .bind (.methodTarget target) fun index => .bind (.methodAt index) fun method => ?_
  refine .ite (.misusedThen _) (.bind .annotationName fun name => ?_)
  refine .branch (.member _) (.member _) fun groups => .bind (.forIn fun message _ => ?_) fun _ => ?_
  · exact .bind (.forIn fun name _ => .bind (.warn _ _) fun _ => .pure _) fun _ => .pure _
  · exact .bind (.schedule _) fun _ => .rebuild

theorem steady_entrypoint : entrypointHandler.Steady := by
  intro target
  refine .bind .edited fun type => .ite (.misusedThen _) (.bind .annotationName fun name => ?_)
  refine .lacking (.misuse _ _) (.bind (.forIn fun entry _ => .bind (.hasMethod _ _) fun _ => ?_) fun _ => .rebuild)
  exact .branch (.warn _ _) (.injectMethod _) fun _ => .pure _

theorem steady_enumId : enumIdHandler.Steady := by
  intro target
  refine .bind .edited fun type => ?_
  cases target with
  | type => exact .misused _
  | method index => exact .misused _
  | field index =>
    refine .lacking (.misused _) (.bind (.fieldAt index) fun field => .ite (.misusedThen _) ?_)
    refine .bind (.hasField _) fun _ => ?_
    apply Steady.joined
    · intro rest
      refine .ite (.bind (.warn _ _) fun _ => rest) ?_
      exact .bind (.injectField _) fun _ => .bind (.schedule _) fun _ => rest
    refine .bind (.hasMethod _ _) fun _ => .branch (.warn _ _) (.injectMethod _) fun _ => ?_
    exact .bind (.hasMethod _ _) fun _ => .lacking (.injectMethod _) .rebuild

theorem Handling.Steady.wantedStyle : Steady wantedStyle := by
  refine .bind (.member _) fun style => ?_
  split
  · split
    · exact .pure _
    · exact .misuse _ _
  · exact .bind .options fun _ => .pure _

theorem Handling.Steady.finishSingleton (type : TypeDecl) (holding : Expression) :
    Steady (finishSingleton type holding) := by
  refine .bind (.forIn fun _ _ => .bind (.schedule _) fun _ => .pure _) fun _ => ?_
  refine .whenever (.schedule _) (.bind (.hasMethod _ _) fun _ => ?_)
  exact .branch (.warn _ _) (.injectMethod _) fun _ => .rebuild

theorem steady_singleton : singletonHandler.Steady := by
  intro target
  refine .bind .edited fun type => .ite (.misusedThen _) (.ite (.misusedThen _) (.bind .wantedStyle fun style => ?_))
  cases style with
  | enum =>
    cases type.superclass with
    | some parent => exact .misuseThen _ _
    | none => exact .bind (.schedule _) fun _ => .finishSingleton _ _
  | holder =>
    refine .bind (.hasType _) fun _ => .ite (.bind (.warn _ _) fun _ => .pure _) ?_
    exact .bind (.schedule _) fun _ => .finishSingleton _ _

theorem steady_generator : generatorHandler.Steady := by
  intro target
  refine .bind (.methodTarget target) fun index => .bind (.methodAt index) fun method => ?_
  cases Generator.check method with
  | error objection => exact .misuse _ _
  | ok shape => exact .bind .edited fun _ => .bind .options fun _ => .bind (.schedule _) fun _ => .rebuild

section

variable {first second : TypeTable} (alike : first.Alike second)
include alike

theorem collectMethods_alike (fuel : Nat) : ∀ (pending : List (String × List JavaType)) (seen : List String)
    (collected : List Signature),
    collectMethods first fuel pending seen collected = collectMethods second fuel pending seen collected := by
  induction fuel with
  | zero => exact fun _ _ _ => rfl
  | succ fuel inductionHypothesis =>
    intro pending seen collected
    cases pending with
    | nil => rfl
    | cons next pending =>
      rw [collectMethods, collectMethods, alike.resolve? next.1]
      simp only [inductionHypothesis]

theorem listenerMethods_alike (listener : JavaType) :
    listenerMethods first listener = listenerMethods second listener := by
  rw [listenerMethods, listenerMethods, alike.edges, collectMethods_alike alike]

theorem classify_alike (excluded : List String) (convenient : Bool) (type : TypeDecl) :
    BuilderFields.classify first excluded convenient type = BuilderFields.classify second excluded convenient type := by
  have shapes : fieldShape first convenient = fieldShape second convenient := by
    funext field
    rw [fieldShape, fieldShape, alike.isMap, alike.isCollection]
  rw [BuilderFields.classify, BuilderFields.classify, shapes]

end

theorem Handling.Steady.listenerSupport (listener : JavaType) (methods : List Signature) :
    Steady (injectListenerSupport listener methods) := by
  refine .bind (.hasField _) fun _ => .branch (.warn _ _) (.injectField _) fun _ => ?_
  refine .bind (.forIn fun method _ => .bind (.hasMethod _ _) fun _ => ?_) fun _ => .pure _
  exact .branch (.warn _ _) (.injectMethod _) fun _ => .pure _

theorem steady_listenerSupport : listenerSupportHandler.Steady := by
  intro target
  refine .ite (.misusedThen _) (.bind .edited fun type => .ite (.misusedThen _) (.bind (.member _) fun listeners => ?_))
  refine .ite (.misuseThen _ _) (.read (fun setting => ?_) fun setting types alike => ?_)
  · refine .bind (.forIn fun listener _ => ?_) fun _ => ?_
    · cases setting.types.resolve? listener.name with
      | none => exact .misuseThen _ _
      | some info => exact .lacking (.misuse _ _) (.pure _)
    · exact .bind (.forIn fun listener _ => .bind (.listenerSupport _ _) fun _ => .pure _) fun _ => .rebuild
  · simp only [alike.resolve?, listenerMethods_alike alike]

theorem Handling.Steady.forwardSteps (plan : BuilderPlan) (names : List String) : Steady (forwardSteps plan names) := by
  refine .bind (.forIn fun name steps => ?_) fun steps => .pure _
  split
  · exact .pure _
  · exact .bind (.warn _ _) fun _ => .pure _

theorem Handling.Steady.examineExtensions (type : TypeDecl) (required : List String) :
    Steady (examineExtensions type required) := by
  refine .bind (.forIn fun marked found => .ite ?_ (.pure _)) fun found => .pure _
  split
  · exact .bind (.warn _ _) fun _ => .pure _
  · exact .bind (.warn _ _) fun _ => .pure _
  · exact .pure _

theorem Handling.Steady.builderConstructor (plan : BuilderPlan) : Steady (injectBuilderConstructor plan) := by
  unfold injectBuilderConstructor
  split
  · exact .schedule _
  · exact .schedule _

theorem Handling.Steady.injectBuilder (plan : BuilderPlan) (extensions : Extensions) (entry : String)
    (forwarded : List String) : Steady (injectBuilder plan extensions entry forwarded) := by
  refine .bind (.forwardSteps plan forwarded) fun forwarding => .bind (.builderConstructor plan) fun _ => ?_
  refine .bind (.hasMethod _ _) fun _ => .branch (.warn _ _) (.injectMethod _) fun _ => ?_
  refine .bind (.forIn fun field _ => ?_) fun _ => ?_
  · cases field.initial with
    | none => exact .pure _
    | some initial => exact .whenever (.injectMethod _) (.bind (.schedule _) fun _ => .pure _)
  refine .bind (.forIn fun _ _ => .bind (.schedule _) fun _ => .pure _) fun _ => ?_
  refine .bind (.forIn fun _ _ => .bind (.schedule _) fun _ => .pure _) fun _ => ?_
  exact .bind (.forIn fun _ _ => .bind (.schedule _) fun _ => .pure _) fun _ => .schedule _

theorem steady_builder : builderHandler.Steady := by
  intro target
  refine .bind .edited fun type => .ite (.misusedThen _) (.bind .options fun options => ?_)
  refine .bind (.wantedAccess _) fun access => .bind (.member _) fun leading => .bind (.member _) fun excluded => ?_
  refine .bind (.member _) fun convenient => .bind (.member _) fun forwarded => .bind (.member _) fun allowReset => ?_
  refine .read (fun setting => .bind (.hasType _) fun _ => .ite (.bind (.warn _ _) fun _ => .pure _) ?_)
    fun setting types alike => ?_
  · refine .bind (.forIn fun name _ => .lacking (.warn _ _) (.pure _)) fun _ => ?_
    exact .bind (.examineExtensions _ _) fun extensions => .bind (.injectBuilder _ _ _ _) fun _ => .rebuild
  · simp only [classify_alike alike]

theorem steady_extension : extensionHandler.Steady := by
  intro target
  exact .bind (.methodTarget target) fun index => .bind .edited fun type => .ite (.pure _) (.misuse _ _)

/-- Every standard handler sees the types of the program only through what the table answers. -/
theorem steady_of_standard {handler : Handler} (standard : handler ∈ standardHandlers) : handler.Steady := by
  simp only [standardHandlers, List.mem_cons, List.not_mem_nil, or_false] at standard
  rcases standard with rfl | rfl | rfl | rfl | rfl | rfl | rfl | rfl | rfl | rfl | rfl | rfl | rfl | rfl
  · exact steady_builder
  · exact steady_extension
  · exact steady_boundSetter
  · exact steady_fluentSetter
  · exact steady_conditionLock
  · exact steady_doPrivileged
  · exact steady_entrypoint
  · exact steady_enumId
  · exact steady_listenerSupport
  · exact steady_rethrow
  · exact steady_singleton
  · exact steady_swingInvoke
  · exact steady_functionObject
  · exact steady_generator

end JavaWeave.Weave
