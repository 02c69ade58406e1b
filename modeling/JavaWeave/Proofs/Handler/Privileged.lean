import JavaWeave.Handler.DoPrivileged
import JavaWeave.Proofs.Interpreter.Self
import JavaWeave.Proofs.Syntax.Straight

/-! A method whose body runs as a privileged action. An exception that has to be declared passes three gates: the
library wraps it, the clause around the call takes the wrapper, and the chain behind it throws the cause again, as it is
or inside of an unchecked exception. For each end that the action may come to, the end of the method is told. -/

namespace JavaWeave.Weave.Privileged

open Syntax Interpreter

variable {perform : Performer} {fuel : Nat} {frame : Frame} {world : World} {cause : Address} {message : String}

/-- No class or interface of a program goes by a name or takes it over from the library. -/
structure Lacks (classes : ClassTable) (target : String) : Prop where
  undeclared : ∀ id, (classes.get id).name ≠ target
  unlisted : ∀ id, ∀ name ∈ (classes.get id).interfaces, Names.simple name ≠ target
  uninherited : ∀ id name, (classes.get id).superclass = some (.library name) → Library.isSubtype name target = false

theorem isNamedFrom_of_lacks {classes : ClassTable} {target : String} (ordinary : target ≠ "Object")
    (lacks : Lacks classes target) (height : Nat) (id : ClassId) : classes.isNamedFrom target height id = false := by
  induction height generalizing id with
  | zero => rfl
  | succ height inductionHypothesis =>
    have library : (classes.libraryBase? id).any (Library.isSubtype · target) = false := by
      unfold ClassTable.libraryBase?
      split
      · next name found =>
        obtain ⟨last, -, above⟩ := Option.bind_eq_some_iff.mp found
        simpa using lacks.uninherited last name above
      · rfl
    have other (current : ClassId) : ((classes.get current).name == target) = false := by
      simpa using lacks.undeclared current
    have different : (target == "Object") = false := by simpa using ordinary
    rw [ClassTable.isNamedFrom, different, library, Bool.false_or, Bool.or_false, List.any_eq_false]
    intro current _
    rw [other, Bool.false_or, Bool.not_eq_true, List.any_eq_false]
    intro name listed
    have apart : (Names.simple name == target) = false := by simpa using lacks.unlisted current name listed
    rw [apart, Bool.false_or]
    split
    · simp [inductionHypothesis]
    · exact Bool.false_ne_true

/-- The class of the exceptions that the library wraps others in. -/
def wrapperType : JavaType := .named "java.security.PrivilegedActionException"

theorem simple_wrapperType : Names.simple wrapperType.name = "PrivilegedActionException" := by cbv

theorem single_wrapperType : Single wrapperType where
  flat := rfl
  undivided := by decide +kernel
  stripped := rfl

theorem wrapper_not_ancestor (height : Nat) (type : String) :
    "PrivilegedActionException" ∉ Library.ancestors height type := by
  have unlisted : ∀ entry ∈ Library.exceptions, entry.2 ≠ "PrivilegedActionException" := by decide +kernel
  induction height generalizing type with
  | zero => exact List.not_mem_nil
  | succ height inductionHypothesis =>
    rw [Library.ancestors]
    split
    · next parent found =>
      refine fun member => (List.mem_cons.mp member).elim (fun same => ?_) (inductionHypothesis parent)
      rw [Library.parent?] at found
      split at found
      · next listed =>
        obtain ⟨front, back, entries, -⟩ := List.lookup_eq_some_iff.mp listed
        cases found
        exact unlisted (type, parent) (by simp [entries]) same.symm
      · split at found
        · exact absurd (same.trans (Option.some.inj found).symm) (by decide)
        · split at found
          · exact absurd (same.trans (Option.some.inj found).symm) (by decide)
          · cases found
    · exact List.not_mem_nil

/-- The library has no subtypes of the wrapper, which has to be declared. -/
theorem eq_wrapper_of_isSubtype {type : String} (above : Library.isSubtype type "PrivilegedActionException" = true) :
    type = "PrivilegedActionException" := by
  have unlisted : ∀ entry ∈ Library.types, "PrivilegedActionException" ∉ entry.2 := by decide +kernel
  rw [Library.isSubtype, Bool.or_eq_true, Bool.or_eq_true, beq_iff_eq, beq_iff_eq] at above
  rcases above with (same | other) | above
  · exact same
  · exact absurd other (by decide)
  · split at above
    · next names found =>
      obtain ⟨front, back, entries, -⟩ := List.lookup_eq_some_iff.mp found
      exact absurd (List.contains_iff_mem.mp above) (unlisted (type, names) (by simp [entries]))
    · exact absurd (List.contains_iff_mem.mp above) (wrapper_not_ancestor _ _)

theorem kind_ne_wrapper (object : Object) : object.kind ≠ "PrivilegedActionException" := by
  cases object with
  | plain which => cases which <;> decide
  | _ => simp [Object.kind]

/-- An exception that need not be declared is not taken for the wrapper of another. -/
theorem unwrapped_of_unchecked (lacks : Lacks world.classes "PrivilegedActionException")
    (unchecked : world.isChecked (.ref cause) = false) : world.isInstance (.ref cause) wrapperType = false := by
  change world.isNamed (.ref cause) wrapperType.name = false
  have simple := simple_wrapperType
  simp only [World.isNamed, simple]
  split
  · exact (congrArg (world.classes.isNamedFrom · _ _) simple).trans (isNamedFrom_of_lacks (by decide) lacks _ _)
  · next state there =>
    rw [Bool.eq_false_iff]
    intro above
    have checked : Library.isChecked state.type = true := by rw [eq_wrapper_of_isSubtype above]; decide +kernel
    simp only [World.isChecked, there, checked, Bool.true_eq_false] at unchecked
  · rfl
  · next object _ _ _ _ =>
    exact Bool.eq_false_iff.mpr fun above => kind_ne_wrapper object (eq_wrapper_of_isSubtype above)
  · rfl

/-- The exception that the library wraps another in. -/
def wrapper (message : String) (cause : Address) : Object :=
  .throwable { type := "PrivilegedActionException", message := some message, cause := .ref cause }

/-- The exception that stands for one which a method does not declare. -/
def replacement (message : String) (cause : Address) : Object :=
  .throwable { type := "RuntimeException", message := some message, cause := .ref cause }

/-- How the method ends whose action comes to an end. A result is handed on, and so is what nothing wraps. A wrapped
exception is thrown again itself if it is of a type that the method declares, else as the cause of another. -/
inductive Relayed (perform : Performer) (frame : Frame) (isVoid : Bool) (declared : List JavaType) :
    Except Unwind Value × World → Except Unwind Flow × World → Prop where
  | returned (value : Value) (world : World) :
      Relayed perform frame isVoid declared (.ok value, world) (.ok (if isVoid then .normal else .returns value), world)
  | unchecked {cause : Address} {world : World} (free : world.isChecked (.ref cause) = false)
      (other : world.isInstance (.ref cause) wrapperType = false) :
      Relayed perform frame isVoid declared (.error (.thrown (.ref cause)), world)
        (.error (.thrown (.ref cause)), world)
  | unwrapped {cause : Address} {message : String} {type : JavaType} {world told : World}
      (checked : world.isChecked (.ref cause) = true) (tells : perform (.text (.ref cause)) world = (.ok message, told))
      (listed : type ∈ declared) (fits : (told.grown (wrapper message cause)).isInstance (.ref cause) type = true) :
      Relayed perform frame isVoid declared (.error (.thrown (.ref cause)), world)
        (.error (.thrown (.ref cause)), told.grown (wrapper message cause))
  | replaced {cause : Address} {message message' : String} {world told told' : World}
      (checked : world.isChecked (.ref cause) = true) (tells : perform (.text (.ref cause)) world = (.ok message, told))
      (unlisted : ∀ type ∈ declared, (told.grown (wrapper message cause)).isInstance (.ref cause) type = false)
      (tells' : perform (.text (.ref cause)) (told.grown (wrapper message cause)) = (.ok message', told'))
      (meant : resolveType (told.grown (wrapper message cause)).classes frame "java.lang.RuntimeException" =
        some (.library "RuntimeException")) :
      Relayed perform frame isVoid declared (.error (.thrown (.ref cause)), world)
        (.error (.thrown (.ref told'.frontier)), told'.grown (replacement message' cause))
  | failed (fault : Fault) (world : World) :
      Relayed perform frame isVoid declared (.error (.failed fault), world) (.error (.failed fault), world)
  | outOfFuel (world : World) :
      Relayed perform frame isVoid declared (.error .outOfFuel, world) (.error .outOfFuel, world)

/-- What is done with the exception of an action. -/
def unwrapping (declared : List JavaType) : List Statement :=
  .declare (.final (.named "java.lang.Throwable") "$cause" (.callOn (.name "$ex") "getException" []))
    :: (rethrowChain "$cause" declared
      ++ [.throws (.make (.named "java.lang.RuntimeException") [.name "$cause"])])

/-- The clause that takes wrapped exceptions. -/
def wrapperClause (declared : List JavaType) : CatchClause := ⟨.final wrapperType "$ex", unwrapping declared⟩

/-- The body that leaves the work to an action. -/
def delegating (action : Expression) (isVoid : Bool) (declared : List JavaType) : List Statement :=
  let privileged : Expression := .callOn (.name "java.security.AccessController") "doPrivileged" [action]
  [.tryCatch [if isVoid then .expression privileged else .returns (some privileged)] [wrapperClause declared] none]

/-- The action that the body of a method becomes. -/
def actionOf (owner : String) (method : Method) : Expression :=
  .makeAnonymous ((JavaType.named "java.security.PrivilegedExceptionAction").apply [actionResult method]) []
    { name := ""
      methods := [{
        modifiers := .ofList [.publicAccess]
        returnType := actionResult method
        name := "run"
        thrown := [.named "java.lang.Exception"]
        body := actionBody owner method
        implementing := true }] }

theorem privilegedBody_eq (owner : String) (method : Method) :
    privilegedBody owner method = delegating (actionOf owner method) method.returnType.isVoid method.thrown := rfl

/-- Code under which the cause of a wrapped exception is a variable. -/
def holding (frame : Frame) (wrapped cause : Address) : Frame :=
  ((frame.push.declare "$ex" (.ref wrapped)).declare "$cause" (.ref cause))

theorem get?_cause (frame : Frame) (wrapped cause : Address) :
    (holding frame wrapped cause).get? "$cause" = some (.ref cause) := by
  simp [Frame.get?_eq, holding, Frame.push, Frame.declare, Frame.inInnermost, Frame.lookupIn_cons]

/-- The cause of a wrapped exception is taken out. -/
theorem outcome_takeCause {wrapped : Address} (there : world.heap.get? wrapped = some (wrapper message cause)) :
    outcome (exec (.ofPerformer perform) fuel none
        (.declare (.final (.named "java.lang.Throwable") "$cause" (.callOn (.name "$ex") "getException" []))))
        (frame.push.declare "$ex" (.ref wrapped), world) =
      (.ok .normal, (holding frame wrapped cause, world)) := by
  have held : (frame.push.declare "$ex" (.ref wrapped)).get? "$ex" = some (.ref wrapped) := by
    simp [Frame.get?_eq, Frame.push, Frame.declare, Frame.inInnermost, Frame.lookupIn_cons]
  have answered : dispatch perform (.ref wrapped) "getException" [] world = (.ok (.ref cause), world) := by
    simp only [dispatch, run_bind, run_heap, there]
    rfl
  have taken : outcome (eval perform (.callOn (.name "$ex") "getException" []))
      (frame.push.declare "$ex" (.ref wrapped), world) =
        (.ok (.ref cause), (frame.push.declare "$ex" (.ref wrapped), world)) := by
    rw [outcome_callReceived (by decide) (outcome_receiverLocal (by cbv) held) (outcome_evalAll_nil _ _),
      outcome_liftM, callOn, answered]
  exact outcome_declare rfl taken

theorem outcome_instanceOf {e : Expression} {value : Value} {point after : Point} (type : JavaType)
    (gives : outcome (eval perform e) point = (.ok value, after)) :
    outcome (eval perform (.instanceOf e type)) point = (.ok (.bool (after.2.isInstance value type)), after) := by
  simp only [eval_instanceOf, outcome_bind, gives, proceed_ok, outcome_world, outcome_pure]

/-- An object is cast to a type that it is of. -/
theorem outcome_cast {e : Expression} {point after : Point} {type : JavaType} (plain : type.isPrimitive = false)
    (gives : outcome (eval perform e) point = (.ok (.ref cause), after))
    (fits : after.2.isInstance (.ref cause) type = true) :
    outcome (eval perform (.cast type e)) point = (.ok (.ref cause), after) := by
  simp only [eval_cast, outcome_bind, gives, proceed_ok, castTo, outcome_world, outcome_frame, plain, fits, Value.isNull,
    Bool.not_true, Bool.and_false, Bool.false_eq_true, if_false, outcome_pure]

/-- An exception of one of the types is thrown again, by the first statement whose type it is of. -/
theorem outcome_rethrowChain {point : Point} {declared : List JavaType}
    (holds : point.1.get? "$cause" = some (.ref cause)) (plain : ∀ type ∈ declared, type.isPrimitive = false)
    (listed : ∃ type ∈ declared, point.2.isInstance (.ref cause) type = true) (rest : List Statement) :
    outcome (execAll (.ofPerformer perform) fuel (rethrowChain "$cause" declared ++ rest)) point =
      (.error (.thrown (.ref cause)), point) := by
  obtain ⟨type, listed, fits⟩ := listed
  have held : outcome (eval perform (.name "$cause")) point = (.ok (.ref cause), point) := outcome_evalLocal holds
  induction declared with
  | nil => cases listed
  | cons first others inductionHypothesis =>
    obtain ⟨own, plain⟩ := List.forall_mem_cons.mp plain
    rw [rethrowChain, List.map_cons, List.cons_append, outcome_execAll_cons]
    have asked := outcome_instanceOf first held
    cases here : point.2.isInstance (.ref cause) first with
    | true =>
      rw [here] at asked
      rw [outcome_whenever_true asked, outcome_throws (outcome_cast own held here), andThen_error]
    | false =>
      rw [here] at asked
      have later : type ∈ others :=
        (List.mem_cons.mp listed).resolve_left fun same => Bool.false_ne_true (here.symm.trans (same ▸ fits))
      rw [outcome_whenever_false asked, andThen_normal]
      exact inductionHypothesis plain later

/-- An exception of none of the types goes past the chain. -/
theorem outcome_rethrowChain_none {point : Point} {declared : List JavaType}
    (holds : point.1.get? "$cause" = some (.ref cause))
    (unlisted : ∀ type ∈ declared, point.2.isInstance (.ref cause) type = false) (rest : List Statement) :
    outcome (execAll (.ofPerformer perform) fuel (rethrowChain "$cause" declared ++ rest)) point =
      outcome (execAll (.ofPerformer perform) fuel rest) point := by
  have held : outcome (eval perform (.name "$cause")) point = (.ok (.ref cause), point) := outcome_evalLocal holds
  induction declared with
  | nil => rfl
  | cons first others inductionHypothesis =>
    obtain ⟨own, unlisted⟩ := List.forall_mem_cons.mp unlisted
    have asked := outcome_instanceOf first held
    rw [own] at asked
    rw [rethrowChain, List.map_cons, List.cons_append, outcome_execAll_cons, outcome_whenever_false asked,
      andThen_normal]
    exact inductionHypothesis unlisted

/-- An exception with a cause is thrown, whose message is the text of the cause. -/
theorem outcome_replace {point : Point} {told : World} (holds : point.1.get? "$cause" = some (.ref cause))
    (meant : resolveType point.2.classes point.1 "java.lang.RuntimeException" = some (.library "RuntimeException"))
    (tells : perform (.text (.ref cause)) point.2 = (.ok message, told)) :
    outcome (execAll (.ofPerformer perform) fuel
        [.throws (.make (.named "java.lang.RuntimeException") [.name "$cause"])]) point =
      (.error (.thrown (.ref told.frontier)), (point.1, told.grown (replacement message cause))) := by
  have given : outcome (evalAll perform [.name "$cause"]) point = (.ok [.ref cause], point) :=
    outcome_evalAll_single (outcome_evalLocal holds)
  have made : outcome (eval perform (.make (.named "java.lang.RuntimeException") [.name "$cause"])) point =
      (.ok (.ref told.frontier), (point.1, told.grown (replacement message cause))) := by
    have state : throwableState perform "RuntimeException" [.ref cause] = do
        let text ← perform (.text (.ref cause))
        return { type := "RuntimeException", message := some text, cause := .ref cause } := rfl
    rw [outcome_makeThrowable given meant (by decide +kernel), outcome_liftM, run_bind, state, run_bind, tells]
    rfl
  rw [outcome_execAll_single, outcome_throws made]

/-- An exception that is not taken for a wrapper stays thrown. -/
theorem outcome_clause_other (declared : List JavaType) (other : world.isInstance (.ref cause) wrapperType = false) :
    outcome (execCatches (.ofPerformer perform) fuel (.ref cause) [wrapperClause declared]) (frame, world) =
      (.error (.thrown (.ref cause)), (frame, world)) := by
  have passes : world.catches (wrapperClause declared).parameter.type (.ref cause) = false :=
    (catches_eq_isInstance single_wrapperType world _).trans other
  rw [outcome_execCatches, List.find?_cons, passes, List.find?_nil]

/-- The clause for a wrapper ends as the chain of its cause does. -/
theorem outcome_clause {wrapped : Address} {declared : List JavaType} {ending : Except Unwind Flow} {last : World}
    (there : world.heap.get? wrapped = some (wrapper message cause))
    (ends : outcome (execAll (.ofPerformer perform) fuel (unwrapping declared).tail)
      (holding frame wrapped cause, world) = (ending, (holding frame wrapped cause, last))) :
    outcome (execCatches (.ofPerformer perform) fuel (.ref wrapped) [wrapperClause declared]) (frame, world) =
      (ending, (frame, last)) := by
  have instanceOf : world.isInstance (.ref wrapped) wrapperType = true := by
    have object : world.heap.object? (.ref wrapped) = some (wrapper message cause) := there
    change world.isNamed (.ref wrapped) wrapperType.name = true
    simp only [World.isNamed, object, wrapper, simple_wrapperType]
    decide +kernel
  have takes : world.catches (wrapperClause declared).parameter.type (.ref wrapped) = true :=
    (catches_eq_isInstance single_wrapperType world _).trans instanceOf
  have handled : outcome (execAll (.ofPerformer perform) fuel (unwrapping declared))
      (frame.push.declare "$ex" (.ref wrapped), world) = (ending, (holding frame wrapped cause, last)) := by
    rw [unwrapping, outcome_execAll_cons, outcome_takeCause there, andThen_normal]
    exact ends
  have bound : outcome (do
      modifyFrame (·.declare "$ex" (.ref wrapped))
      execAll (.ofPerformer perform) fuel (unwrapping declared)) (frame.push, world) =
        (ending, (holding frame wrapped cause, last)) := by
    rw [outcome_bind, outcome_modifyFrame, proceed_ok, handled]
  rw [outcome_execCatches, List.find?_cons, takes]
  change outcome (inScope (do
    modifyFrame (·.declare "$ex" (.ref wrapped))
    execAll (.ofPerformer perform) fuel (unwrapping declared))) (frame, world) = _
  rw [outcome_inScope, Point.push, bound]
  rfl

section

variable {object : Value} {ready after : World}

theorem privileged_passes {ending : Except Unwind Value}
    (runs : dispatch perform object "run" [] ready = (ending, after))
    (free : ∀ value, ending = .error (.thrown value) → after.isChecked value = false) :
    privileged perform object ready = (ending, after) := by
  rw [privileged, run_tryCatch, runs]
  rcases ending with (value | fault | _) | value
  · change (if after.isChecked value = true then _ else throw (.thrown value) : Run Value) after = _
    rw [free value rfl, if_neg Bool.false_ne_true]
    rfl
  all_goals rfl

theorem privileged_wraps {told : World}
    (runs : dispatch perform object "run" [] ready = (.error (.thrown (.ref cause)), after))
    (checked : after.isChecked (.ref cause) = true) (tells : perform (.text (.ref cause)) after = (.ok message, told)) :
    privileged perform object ready = (.error (.thrown (.ref told.frontier)), told.grown (wrapper message cause)) := by
  rw [privileged, run_tryCatch, runs]
  change (if after.isChecked (.ref cause) = true then _ else _ : Run Value) after = _
  rw [if_pos checked, run_bind, tells]
  rfl

/-- How the statement ends that calls the action. -/
theorem outcome_delegate {action : Expression} (isVoid : Bool) {ending : Except Unwind Value}
    (unbound : outcome (lookup perform "java") (frame, world) = (.ok none, (frame, world)))
    (meant : resolveType world.classes frame "java.security.AccessController" = some (.library "AccessController"))
    (made : outcome (eval perform action) (frame, world) = (.ok object, (frame, ready)))
    (ends : privileged perform object ready = (ending, after)) :
    let call : Expression := .callOn (.name "java.security.AccessController") "doPrivileged" [action]
    outcome (execAll (.ofPerformer perform) fuel [if isVoid then .expression call else .returns (some call)])
        (frame, world) =
      (ending.map fun value => if isVoid then .normal else .returns value, (frame, after)) := by
  intro call
  have first : (Text.split '.' "java.security.AccessController").headD "java.security.AccessController" = "java" := by
    cbv
  have called : outcome (eval perform call) (frame, world) = (ending, (frame, after)) := by
    rw [outcome_callLibrary (by decide) (by rw [first, unbound]) meant (outcome_evalAll_single made), outcome_liftM,
      show callLibrary perform "AccessController" "doPrivileged" [object] = privileged perform object from rfl, ends]
  have evaluates : (Meaning.ofPerformer perform).eval = eval perform := rfl
  rw [outcome_execAll_single]
  cases isVoid with
  | true =>
    simp only [if_true, exec_expression, evaluates, outcome_bind, outcome_discard, called]
    cases ending <;> rfl
  | false =>
    simp only [Bool.false_eq_true, if_false, exec_returns, evaluates, outcome_map, called]
    cases ending <;> rfl

/-- A method whose body runs as a privileged action ends as its action does: with the result, with the exception itself
where it need not be declared or is of a type that the method declares, and else with one that has it as its cause. -/
theorem outcome_delegating {action : Expression} {isVoid : Bool} {declared : List JavaType}
    {ending : Except Unwind Value} {result : Except Unwind Flow} {last : World}
    (unbound : outcome (lookup perform "java") (frame.push, world) = (.ok none, (frame.push, world)))
    (meant : resolveType world.classes frame "java.security.AccessController" = some (.library "AccessController"))
    (plain : ∀ type ∈ declared, type.isPrimitive = false)
    (made : outcome (eval perform action) (frame.push, world) = (.ok object, (frame.push, ready)))
    (runs : dispatch perform object "run" [] ready = (ending, after))
    (relayed : Relayed perform frame isVoid declared (ending, after) (result, last)) :
    outcome (execAll (.ofPerformer perform) fuel (delegating action isVoid declared)) (frame, world) =
      (result, (frame, last)) := by
  have whole {ending : Except Unwind Value} {after : World} (ends : privileged perform object ready = (ending, after)) :
      outcome (execAll (.ofPerformer perform) fuel (delegating action isVoid declared)) (frame, world) =
        rescue (ending.map fun value => if isVoid then .normal else .returns value, (frame, after))
          fun thrown => outcome (execCatches (.ofPerformer perform) fuel thrown [wrapperClause declared]) := by
    rw [delegating, outcome_execAll_single]
    simp only [exec_tryCatch_none, outcome_guarded, outcome_inScope]
    rw [Point.push, outcome_delegate isVoid unbound meant made ends]
    rfl
  cases relayed with
  | returned value =>
    rw [whole (privileged_passes runs (by simp))]
    rfl
  | @unchecked cause _ free other =>
    rw [whole (privileged_passes runs (by simp [free]))]
    exact outcome_clause_other declared other
  | @unwrapped cause message type _ told checked tells listed fits =>
    have there := World.get?_grown told told.frontier (wrapper message cause)
    rw [if_pos rfl] at there
    rw [whole (privileged_wraps runs checked tells)]
    exact outcome_clause there (outcome_rethrowChain (get?_cause ..) plain ⟨type, listed, fits⟩ _)
  | @replaced cause message message' _ told told' checked tells unlisted tells' found =>
    have there := World.get?_grown told told.frontier (wrapper message cause)
    rw [if_pos rfl] at there
    rw [whole (privileged_wraps runs checked tells)]
    refine outcome_clause there ?_
    exact (outcome_rethrowChain_none (get?_cause ..) unlisted _).trans (outcome_replace (get?_cause ..) found tells')
  | failed fault =>
    rw [whole (privileged_passes runs (by simp))]
    rfl
  | outOfFuel =>
    rw [whole (privileged_passes runs (by simp))]
    rfl

end

theorem placing_unwrapping (declared : List JavaType) (next : Nat) :
    (ClassTable.placing.onStatements () (unwrapping declared)).run next = (unwrapping declared, next) := by
  have chain : ClassTable.placing.onStatements () (unwrapping declared) = pure (unwrapping declared) := by
    refine Reviser.pure_then rfl (Reviser.pure_then ?_ rfl)
    induction declared with
    | nil => rfl
    | cons type others inductionHypothesis =>
      exact Reviser.pure_then rfl (Reviser.pure_then inductionHypothesis rfl)
  rw [chain]
  rfl

/-- When a program is loaded, the class of the action gets a place, and nothing else changes. -/
theorem placing_delegating {action placed : Expression} {next after : Nat} (isVoid : Bool) (declared : List JavaType)
    (revised : (ClassTable.placing.onExpression () action).run next = (placed, after)) :
    (ClassTable.placing.onStatements () (delegating action isVoid declared)).run next =
      (delegating placed isVoid declared, after) := by
  have first : ((ClassTable.placing.onExpression () action).run next).1 = placed := congrArg Prod.fst revised
  have second : ((ClassTable.placing.onExpression () action).run next).2 = after := congrArg Prod.snd revised
  let call (action : Expression) : Statement :=
    let privileged : Expression := .callOn (.name "java.security.AccessController") "doPrivileged" [action]
    if isVoid then .expression privileged else .returns (some privileged)
  let clause := (ClassTable.placing.onStatements () (unwrapping declared)).run
    ((ClassTable.placing.onExpression () action).run next).2
  have parts : (ClassTable.placing.onStatements () (delegating action isVoid declared)).run next =
      ([.tryCatch [call ((ClassTable.placing.onExpression () action).run next).1]
        [⟨.final wrapperType "$ex", clause.1⟩] none], clause.2) := by
    cases isVoid <;> rfl
  rw [parts, first, show clause = (unwrapping declared, after) from second ▸ placing_unwrapping declared _]
  rfl

/-- The body of a privileged method, as it runs in a program, ends as its action does. -/
theorem outcome_privilegedBody {owner : String} {method : Method} {next : Nat} {object : Value} {ready after : World}
    {ending : Except Unwind Value} {result : Except Unwind Flow} {last : World}
    (unbound : outcome (lookup perform "java") (frame.push, world) = (.ok none, (frame.push, world)))
    (meant : resolveType world.classes frame "java.security.AccessController" = some (.library "AccessController"))
    (plain : ∀ type ∈ method.thrown, type.isPrimitive = false)
    (made : outcome (eval perform ((ClassTable.placing.onExpression () (actionOf owner method)).run next).1)
      (frame.push, world) = (.ok object, (frame.push, ready)))
    (runs : dispatch perform object "run" [] ready = (ending, after))
    (relayed : Relayed perform frame method.returnType.isVoid method.thrown (ending, after) (result, last)) :
    outcome (execAll (.ofPerformer perform) fuel
        ((ClassTable.placing.onStatements () (privilegedBody owner method)).run next).1) (frame, world) =
      (result, (frame, last)) := by
  rw [privilegedBody_eq, placing_delegating method.returnType.isVoid method.thrown rfl]
  exact outcome_delegating unbound meant plain made runs relayed

/-- The text of an exception can be told, as it is and once it is wrapped, and code that then makes an exception of the
library finds its class. -/
structure Tells (perform : Performer) (frame : Frame) (world : World) (cause : Address) (message : String)
    (told : World) : Prop where
  first : perform (.text (.ref cause)) world = (.ok message, told)
  second : ∃ message' told', perform (.text (.ref cause)) (told.grown (wrapper message cause)) = (.ok message', told')
  meant : resolveType told.classes frame "java.lang.RuntimeException" = some (.library "RuntimeException")

/-- Each end of an action that throws nothing but exceptions whose texts can be told is one of those above. -/
theorem exists_relayed {ending : Except Unwind Value} (isVoid : Bool) (declared : List JavaType)
    (lacks : Lacks world.classes "PrivilegedActionException")
    (texts : ∀ value, ending = .error (.thrown value) →
      ∃ cause message told, value = .ref cause ∧ Tells perform frame world cause message told) :
    ∃ result, Relayed perform frame isVoid declared (ending, world) result := by
  rcases ending with (value | fault | _) | value
  · obtain ⟨cause, message, told, rfl, tells⟩ := texts value rfl
    cases checked : world.isChecked (.ref cause) with
    | false => exact ⟨_, .unchecked checked (unwrapped_of_unchecked lacks checked)⟩
    | true =>
      by_cases fits : ∃ type ∈ declared, (told.grown (wrapper message cause)).isInstance (.ref cause) type = true
      · obtain ⟨type, listed, fits⟩ := fits
        exact ⟨_, .unwrapped checked tells.first listed fits⟩
      · obtain ⟨message', told', tells'⟩ := tells.second
        have unlisted : ∀ type ∈ declared, (told.grown (wrapper message cause)).isInstance (.ref cause) type = false :=
          fun type listed => Bool.eq_false_iff.mpr fun fits' => fits ⟨type, listed, fits'⟩
        exact ⟨_, .replaced checked tells.first unlisted tells' tells.meant⟩
  · exact ⟨_, .failed fault world⟩
  · exact ⟨_, .outOfFuel world⟩
  · exact ⟨_, .returned value world⟩

end JavaWeave.Weave.Privileged
