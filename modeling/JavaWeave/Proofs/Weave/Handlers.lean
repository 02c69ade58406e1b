import JavaWeave.Handler.Standard
import JavaWeave.Proofs.Weave.Handling

namespace JavaWeave.Weave

open Syntax Handling

variable {setting : Setting} {allowed : Edit → Prop} {target : Target}

theorem Handling.Ensures.wantedAccess {standard : Access} {returned : Access → Prop}
    (gives : ∀ access, returned access) : Ensures setting allowed (wantedAccess standard) returned :=
  .bind (.member fun _ => .pure (gives _))

theorem Handling.Ensures.setterFields {note : String} {target : Target} {returned : List Field → Prop}
    (gives : ∀ fields, returned fields) : Ensures setting allowed (setterFields note target) returned := by
  cases target with
  | type => exact .bind (.edited (.pure (gives _)))
  | method index => exact .misused rfl
  | field index =>
    refine .bind (.fieldAt fun field => ?_)
    refine .ite (fun _ => .bind (.annotationName (.bind (.misuse rfl)))) fun _ => ?_
    refine .ite (fun _ => .bind (.annotationName (.bind (.misuse rfl)))) fun _ => ?_
    exact .pure (gives _)

theorem disciplined_fluentSetter : fluentSetterHandler.Disciplined := by
  intro target setting
  refine .bind (.edited ?_)
  refine .ite (fun _ => .bind (.misused rfl)) fun _ => ?_
  refine .bind (.wantedAccess fun access => ?_)
  refine .bind (.setterFields fun fields => ?_)
  refine .bind (.forIn .rebuild fun field _ _ rest => ?_)
  refine .bind (.hasMethod fun found => ?_)
  exact .ite (fun _ => .bind (.warn (.pure rest))) fun _ => .bind (.injectMethod rfl (.pure rest))

theorem Handling.Ensures.changeSupport {support : ChangeSupport} {returned : Unit → Prop} (gives : returned ()) :
    Ensures setting (Edit.Allowed target) support.inject returned := by
  refine .bind (.hasField fun _ => .lacking (.injectField rfl trivial) ?_)
  refine .bind (.hasField fun _ => .lacking (.injectField rfl trivial) ?_)
  refine .bind (.hasMethod fun _ => .lacking (.injectMethod rfl trivial) ?_)
  refine .bind (.forIn ?_ fun name _ _ rest => ?_)
  · refine .bind (.hasMethod fun _ => ?_)
    exact .ite (fun _ => .pure gives) fun _ => .injectMethod rfl gives
  · refine .bind (.hasMethod fun _ => .lacking (.injectMethod rfl trivial) ?_)
    exact .pure rest

theorem disciplined_boundSetter : boundSetterHandler.Disciplined := by
  intro target setting
  refine .bind (.edited (.ite (fun _ => .bind (.misused rfl)) fun _ => ?_))
  refine .bind (.wantedAccess fun access => .bind (.member fun vetoable => ?_))
  refine .bind (.member fun throwing => .bind (.setterFields fun fields => ?_))
  refine .bind (.changeSupport (.whenever (.changeSupport trivial) ?_))
  refine .bind (.forIn .rebuild fun field _ _ rest => .bind (.hasField fun _ => ?_))
  refine .lacking (.injectField rfl trivial) (.bind (.hasMethod fun _ => ?_))
  exact .ite (fun _ => .bind (.warn (.pure rest))) fun _ => .bind (.injectMethod rfl (.pure rest))

theorem Handling.Ensures.notBlank {complaint : Diagnostic.Message} {name : String} {returned : String → Prop}
    (severe : complaint.severity = .error) (gives : returned name) :
    Ensures setting allowed (notBlank complaint name) returned :=
  .ite (fun _ => .bind (.misused severe)) fun _ => .pure gives

theorem Handling.Ensures.lockNameMember {note : Annotation} {name standard : String} {returned : String → Prop}
    (gives : ∀ lock, returned lock) : Ensures setting allowed (lockNameMember note name standard) returned := by
  refine .bind (.member fun lock => ?_)
  cases lock with
  | some lock => exact .notBlank rfl (gives lock)
  | none => exact .pure (gives standard)

theorem Handling.Ensures.signalMember {note : Annotation} {returned : String → Prop}
    (gives : ∀ signal, returned signal) : Ensures setting allowed (signalMember note) returned :=
  .bind (.member fun _ => .notBlank rfl (gives _))

theorem Handling.Ensures.awaitMember {note : Annotation} {returned : AwaitPlan → Prop}
    (gives : ∀ await, returned await) : Ensures setting allowed (awaitMember note) returned :=
  .bind (.signalMember fun _ => .bind (.member fun _ => .pure (gives _)))

theorem Handling.Ensures.lockPlan {returned : LockPlan → Prop} (gives : ∀ plan, returned plan) :
    Ensures setting allowed LockPlan.read returned := by
  refine .bind (.occurrence fun note => .bind (.options (.bind (.annotationName ?_))))
  split
  · exact .bind (.lockNameMember fun lock => .pure (gives _))
  · exact .bind (.lockNameMember fun lock => .pure (gives _))
  · refine .bind (.lockNameMember fun lock => ?_)
    exact .bind (.awaitMember fun await => .pure (gives _))
  · refine .bind (.lockNameMember fun lock => ?_)
    exact .bind (.signalMember fun signal => .pure (gives _))
  · refine .bind (.member fun awaits => .bind (.member fun signals => ?_))
    refine .bind (.lockNameMember fun lock => ?_)
    refine .bind (.mapM (fun _ => .awaitMember fun _ => trivial) fun await => ?_)
    exact .bind (.mapM (fun _ => .signalMember fun _ => trivial) fun signal => .pure (gives _))

theorem disciplined_conditionLock : conditionLockHandler.Disciplined := by
  intro target setting
  refine .bind (.methodTarget fun index _ => .bind (.methodAt fun method => ?_))
  refine .ite (fun _ => .bind (.misused rfl)) fun _ => .bind (.lockPlan fun plan => ?_)
  apply Ensures.joined
  · intro rest
    cases plan.await with
    | some await => exact .bind (.hasMethod fun _ => .lacking (.misuse rfl) rest)
    | none => exact rest
  refine .bind (.edited ?_)
  apply Ensures.joined
  · intro rest
    cases setting.decl.field? plan.lock with
    | some field => exact .lacking (.misuse rfl) rest
    | none => exact rest
  refine .bind (.hasField fun _ => .lacking (.injectField rfl trivial) ?_)
  refine .bind (.forIn (.bind (.schedule trivial .rebuild)) fun condition _ _ rest => ?_)
  exact .bind (.hasField fun _ => .lacking (.injectField rfl trivial) (.pure rest))

theorem disciplined_doPrivileged : doPrivilegedHandler.Disciplined := by
  intro target setting
  refine .bind (.methodTarget fun index _ => .bind (.methodAt fun method => ?_))
  refine .ite (fun _ => .bind (.misused rfl)) fun _ => ?_
  exact .bind (.schedule trivial (.bind (.edited (.bind (.schedule trivial .rebuild)))))

theorem disciplined_swingInvoke : swingInvokeHandler.Disciplined := by
  intro target setting
  refine .bind (.methodTarget fun index _ => .bind (.methodAt fun method => ?_))
  refine .ite (fun _ => .bind (.misused rfl)) fun _ => ?_
  refine .lacking (.misused rfl) (.bind (.annotationName ?_))
  exact .bind (.schedule trivial (.bind (.edited (.bind (.schedule trivial .rebuild)))))

theorem disciplined_functionObject : functionObjectHandler.Disciplined := by
  intro target setting
  refine .bind (.methodTarget fun index _ => .bind (.annotationName (.bind (.methodAt fun method => ?_))))
  refine .ite (fun _ => .bind (.misused rfl)) fun _ => ?_
  cases (FunctionKind.ofNote setting.annotationName).complaint? method.returnType with
  | some complaint => exact .bind (.misuse rfl)
  | none =>
    refine .bind (.member fun template => .bind (.schedule trivial (.bind (.schedule trivial ?_))))
    exact .bind (.edited (.bind (.schedule trivial .rebuild)))

theorem disciplined_rethrow : rethrowHandler.Disciplined := by
  intro target setting
  refine .bind (.methodTarget fun index _ => .bind (.methodAt fun method => ?_))
  refine .ite (fun _ => .bind (.misused rfl)) fun _ => .bind (.annotationName ?_)
  refine .branch (.member fun _ => trivial) (.member fun _ => trivial) fun groups => ?_
  refine .bind (.forIn ?_ fun message _ _ rest => .bind (.forIn (.pure rest) fun _ _ _ next => ?_))
  · exact .bind (.schedule trivial .rebuild)
  · exact .bind (.warn (.pure next))

theorem disciplined_entrypoint : entrypointHandler.Disciplined := by
  intro target setting
  refine .bind (.edited (.ite (fun _ => .bind (.misused rfl)) fun _ => ?_))
  refine .bind (.annotationName (.ite (fun _ => ?_) fun _ => .bind (.misuse rfl)))
  refine .bind (.forIn .rebuild fun entry _ _ rest => .bind (.hasMethod fun _ => ?_))
  exact .ite (fun _ => .bind (.warn (.pure rest))) fun _ => .bind (.injectMethod rfl (.pure rest))

theorem disciplined_enumId : enumIdHandler.Disciplined := by
  intro target setting
  refine .bind (.edited ?_)
  cases target with
  | type => exact .misused rfl
  | method index => exact .misused rfl
  | field index =>
    refine .ite (fun _ => ?_) fun _ => .bind (.misused rfl)
    refine .bind (.fieldAt fun field => .ite (fun _ => .bind (.misused rfl)) fun _ => ?_)
    refine .bind (.hasField fun _ => ?_)
    apply Ensures.joined
    · intro rest
      refine .ite (fun _ => .bind (.warn rest)) fun _ => ?_
      exact .bind (.injectField rfl (.bind (.injectInitializer trivial rest)))
    refine .bind (.hasMethod fun _ => ?_)
    refine .branch (.warn trivial) (.injectMethod rfl trivial) fun _ => .bind (.hasMethod fun _ => ?_)
    exact .lacking (.injectMethod rfl trivial) .rebuild

theorem Handling.Ensures.listenerSupport {listener : JavaType} {methods : List Signature} {returned : Unit → Prop}
    (gives : returned ()) :
    Ensures setting (Edit.Allowed target) (injectListenerSupport listener methods) returned := by
  refine .bind (.hasField fun _ => .branch (.warn trivial) (.injectField rfl trivial) fun _ => ?_)
  refine .bind (.forIn (.pure gives) fun method named _ rest => .bind (.hasMethod fun _ => ?_))
  refine .ite (fun _ => .bind (.warn (.pure rest))) fun _ => .bind (.injectMethod ?_ (.pure rest))
  simp only [List.mem_cons, List.mem_map] at named
  rcases named with rfl | rfl | ⟨signature, _, rfl⟩
  · rfl
  · rfl
  · rfl

theorem disciplined_listenerSupport : listenerSupportHandler.Disciplined := by
  intro target setting
  refine .ite (fun _ => .bind (.misused rfl)) fun _ => .bind (.edited ?_)
  refine .ite (fun _ => .bind (.misused rfl)) fun _ => .bind (.member fun listeners => ?_)
  refine .ite (fun _ => .bind (.misuse rfl)) fun _ => .bind (.read ?_)
  refine .bind (.forIn ?_ fun listener _ _ rest => ?_)
  · refine .bind (.forIn .rebuild fun listener _ _ rest => ?_)
    exact .bind (.listenerSupport (.pure rest))
  · cases setting.types.resolve? listener.name with
    | none => exact .bind (.misuse rfl)
    | some info => exact .lacking (.misuse rfl) (.pure rest)

theorem unmarked_instanceHolder (owner : JavaType) (name : String) : Unmarked (instanceHolder owner name) where
  own := rfl
  fields field listed := by rw [List.mem_singleton.mp listed]
  methods _ listed := nomatch listed
  memberTypes := rfl

theorem Handling.Ensures.wantedStyle {returned : SingletonStyle → Prop} (gives : ∀ style, returned style) :
    Ensures setting allowed wantedStyle returned := by
  refine .bind (.member fun style => ?_)
  split
  · split
    · exact .pure (gives _)
    · exact .misuse rfl
  · exact .bind (.options (.pure (gives _)))

theorem Handling.Ensures.finishSingleton {type : TypeDecl} {holding : Expression} :
    Ensures setting (Edit.Allowed target) (finishSingleton type holding)
      (Outcome.Commits setting (Edit.Allowed target)) := by
  refine .bind (.forIn ?_ fun _ _ _ rest => .bind (.schedule trivial (.pure rest)))
  refine .whenever (.injectConstructor trivial trivial) (.bind (.hasMethod fun _ => ?_))
  exact .branch (.warn trivial) (.injectMethod rfl trivial) fun _ => .rebuild

theorem disciplined_singleton : singletonHandler.Disciplined := by
  intro target setting
  refine .bind (.edited (.ite (fun _ => .bind (.misused rfl)) fun onClass => ?_))
  have onType : target = .type := by grind
  refine .ite (fun _ => .bind (.misused rfl)) fun _ => ?_
  refine .bind (.wantedStyle fun style => ?_)
  cases style with
  | enum =>
    cases setting.decl.superclass with
    | some parent => exact .bind (.misuse rfl)
    | none => exact .bind (.schedule trivial .finishSingleton)
  | holder =>
    refine .bind (.hasType fun _ => .ite (fun _ => .bind (.warn (.pure trivial))) fun _ => ?_)
    exact .bind (.injectType ⟨onType, unmarked_instanceHolder _ _⟩ .finishSingleton)

theorem objection_severity {visit : Visit} {message : Diagnostic.Message}
    (objects : Generator.objectionAt? visit = some message) : message.severity = .error := by
  unfold Generator.objectionAt? at objects
  grind [Diagnostic.Message.severity]

theorem check_severity {method : Method} {message : Diagnostic.Message} {arguments : List String}
    (objects : Generator.check method = .error (message, arguments)) : message.severity = .error := by
  unfold Generator.check at objects
  split at objects
  · cases objects
    rfl
  split at objects
  · cases objects
    rfl
  split at objects
  · rename_i found
    cases objects
    obtain ⟨visit, _, here⟩ := List.exists_of_findSome?_eq_some found
    exact objection_severity here
  · cases objects

theorem disciplined_generator : generatorHandler.Disciplined := by
  intro target setting
  refine .bind (.methodTarget fun index _ => .bind (.methodAt fun method => ?_))
  cases checked : Generator.check method with
  | error objection => exact .misuse (check_severity checked)
  | ok shape => exact .bind (.edited (.bind (.options (.bind (.schedule trivial .rebuild)))))

/-- The methods of an interface have no annotations. -/
def StepInterface.Unmarked (interface : StepInterface) : Prop :=
  ∀ step ∈ interface.steps, step.signature.annotations = []

theorem setterSteps_unmarked {plan : BuilderPlan} {field : BuilderField} {returns : JavaType} {step : Step}
    (member : step ∈ plan.setterSteps field returns) : step.signature.annotations = [] := by
  unfold BuilderPlan.setterSteps at member
  cases shape : field.shape <;> simp only [shape, List.mem_cons, List.not_mem_nil, or_false] at member
  case plain => subst member; rfl
  all_goals
    rcases member with rfl | rfl
    · rfl
    · rfl

theorem unmarked_requiredInterfaces {plan : BuilderPlan} {extensions : List Extension}
    {interface : StepInterface} (listed : interface ∈ plan.requiredInterfaces extensions) :
    interface.Unmarked := by
  obtain ⟨⟨index, field, name⟩, _, rfl⟩ := List.mem_map.mp listed
  intro step member
  rcases List.mem_append.mp member with member | member
  · obtain ⟨extension, _, rfl⟩ := List.mem_map.mp member
    rfl
  · exact setterSteps_unmarked member

theorem unmarked_optionalInterface {plan : BuilderPlan} {extensions : List Extension} {forwarding : List Step}
    (unmarked : ∀ step ∈ forwarding, step.signature.annotations = []) :
    (plan.optionalInterface extensions forwarding).Unmarked := by
  intro step member
  simp only [BuilderPlan.optionalInterface, List.mem_append, List.mem_flatMap, List.mem_map,
    List.mem_singleton] at member
  rcases member with (((⟨field, _, member⟩ | ⟨extension, _, rfl⟩) | rfl) | member) | member
  · exact setterSteps_unmarked member
  · rfl
  · rfl
  · split at member
    · rw [List.mem_singleton.mp member]
      rfl
    · cases member
  · exact unmarked step member

theorem unmarked_interfaceDecl (plan : BuilderPlan) {interface : StepInterface}
    (unmarked : interface.Unmarked) : Unmarked (plan.interfaceDecl interface) where
  own := rfl
  fields _ listed := nomatch listed
  methods method listed := by
    obtain ⟨step, member, rfl⟩ := List.mem_map.mp listed
    exact unmarked step member
  memberTypes := rfl

theorem unmarked_builderDecl (plan : BuilderPlan) {interfaces : List StepInterface}
    (unmarked : ∀ interface ∈ interfaces, interface.Unmarked) : Unmarked (plan.builderDecl interfaces) where
  own := rfl
  fields field listed := by
    obtain ⟨held, _, rfl⟩ := List.mem_map.mp listed
    rfl
  methods method listed := by
    obtain ⟨interface, member, listed⟩ := List.mem_flatMap.mp listed
    obtain ⟨step, within, rfl⟩ := List.mem_map.mp listed
    exact unmarked interface member step within
  memberTypes := rfl

theorem Handling.Ensures.forwardSteps {plan : BuilderPlan} {names : List String} {returned : List Step → Prop}
    (gives : ∀ steps, (∀ step ∈ steps, step.signature.annotations = []) → returned steps) :
    Ensures setting allowed (forwardSteps plan names) returned := by
  refine .bind (Ensures.mono (.forIn nofun fun name _ steps unmarked => ?_) fun steps unmarked =>
    .pure (gives steps unmarked))
  split
  · refine .pure fun step member => ?_
    rcases List.mem_append.mp member with member | member
    · exact unmarked step member
    · rw [List.mem_singleton.mp member]
      rfl
  · exact .bind (.warn (.pure unmarked))

theorem Handling.Ensures.examineExtensions {type : TypeDecl} {required : List String} {returned : Extensions → Prop}
    (gives : ∀ extensions, returned extensions) :
    Ensures setting allowed (examineExtensions type required) returned := by
  refine .bind (.forIn (.pure (gives _)) fun marked _ found _ => .ite (fun _ => ?_) fun _ => ?_)
  · split
    · exact .bind (.warn (.pure (.pure (gives _))))
    · exact .bind (.warn (.pure (.pure (gives _))))
    · exact .pure (.pure (gives _))
  · exact .pure (.pure (gives _))

theorem Handling.Ensures.builderConstructor {plan : BuilderPlan} {returned : Unit → Prop} (gives : returned ()) :
    Ensures setting (Edit.Allowed target) (injectBuilderConstructor plan) returned := by
  unfold injectBuilderConstructor
  split
  · exact .schedule trivial gives
  · exact .injectConstructor trivial gives

theorem Handling.Ensures.injectBuilder {plan : BuilderPlan} {extensions : Extensions} {entry : String}
    {forwarded : List String} {returned : Unit → Prop} (gives : returned ()) :
    Ensures setting (Edit.Allowed .type) (injectBuilder plan extensions entry forwarded) returned := by
  refine .bind (.forwardSteps fun forwarding unmarked => ?_)
  have interfaces : ∀ interface ∈ plan.requiredInterfaces extensions.usable
      ++ [plan.optionalInterface extensions.usable forwarding], interface.Unmarked := by
    intro interface listed
    rcases List.mem_append.mp listed with listed | listed
    · exact unmarked_requiredInterfaces listed
    · rw [List.mem_singleton.mp listed]
      exact unmarked_optionalInterface unmarked
  refine .bind (.builderConstructor (.bind (.hasMethod fun _ => ?_)))
  refine .branch (.warn trivial) (.injectMethod rfl trivial) fun _ => ?_
  refine .bind (.forIn ?_ fun field _ _ rest => ?_)
  · refine .bind (.forIn ?_ fun _ _ _ rest => .bind (.schedule rfl (.pure rest)))
    refine .bind (.forIn ?_ fun _ _ _ rest => .bind (.schedule rfl (.pure rest)))
    refine .bind (.forIn ?_ fun interface listed _ rest => ?_)
    · exact .injectType ⟨rfl, unmarked_builderDecl plan interfaces⟩ gives
    · have unmarked := unmarked_interfaceDecl plan (interfaces interface listed)
      exact .bind (.injectType ⟨rfl, unmarked⟩ (.pure rest))
  · cases field.initial with
    | none => exact .pure rest
    | some initial =>
      exact .whenever (.injectMethod rfl trivial) (.bind (.schedule trivial (.pure rest)))

theorem disciplined_builder : builderHandler.Disciplined := by
  intro target setting
  refine .bind (.edited (.ite (fun _ => .bind (.misused rfl)) fun onClass => ?_))
  obtain rfl : target = .type := by grind
  refine .bind (.options (.bind (.wantedAccess fun access => .bind (.member fun leading => ?_))))
  refine .bind (.member fun excluded => .bind (.member fun convenient => .bind (.member fun forwarded => ?_)))
  refine .bind (.member fun allowReset => .bind (.read (.bind (.hasType fun _ => ?_))))
  refine .ite (fun _ => .bind (.warn (.pure trivial))) fun _ => ?_
  refine .bind (.forIn ?_ fun name _ _ rest => .lacking (.warn trivial) (.pure rest))
  refine .bind (.examineExtensions fun extensions => ?_)
  exact .bind (.injectBuilder .rebuild)

theorem disciplined_extension : extensionHandler.Disciplined := by
  intro target setting
  refine .bind (.methodTarget fun index _ => .bind (.edited ?_))
  exact .ite (fun _ => .pure trivial) fun _ => .misuse rfl

/-- Every standard handler keeps to the allowed edits. -/
theorem disciplined_of_standard {handler : Handler} (standard : handler ∈ standardHandlers) :
    handler.Disciplined := by
  simp only [standardHandlers, List.mem_cons, List.not_mem_nil, or_false] at standard
  rcases standard with rfl | rfl | rfl | rfl | rfl | rfl | rfl | rfl | rfl | rfl | rfl | rfl | rfl | rfl
  · exact disciplined_builder
  · exact disciplined_extension
  · exact disciplined_boundSetter
  · exact disciplined_fluentSetter
  · exact disciplined_conditionLock
  · exact disciplined_doPrivileged
  · exact disciplined_entrypoint
  · exact disciplined_enumId
  · exact disciplined_listenerSupport
  · exact disciplined_rethrow
  · exact disciplined_singleton
  · exact disciplined_swingInvoke
  · exact disciplined_functionObject
  · exact disciplined_generator

end JavaWeave.Weave
