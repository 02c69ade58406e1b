import JavaWeave.Proofs.Generator.Handling
import JavaWeave.Proofs.Generator.Yielders

namespace JavaWeave.Generator

open Syntax Interpreter

/-- The exceptions that a round hands to the search for a handler. -/
def throwableType : JavaType := .named "java.lang.Throwable"

/-- The label of the loop over states. -/
def Machine.label? (machine : Machine) : Option String := if machine.isLabeled then some loopLabel else none

/-- The method that looks for the next element is the loop over states. -/
theorem outcome_advanceMethod (machine : Machine) (numbering : Numbering) (fuel : Nat) (meaning : Meaning)
    (point : Point) :
    outcome (execAll meaning fuel (advanceMethod machine numbering).body) point =
      let ending := outcome (repeatWhile (truth (meaning.eval (.bool true)))
        (afterPass machine.label? <$> exec meaning fuel none (stateRound machine numbering)) fuel) point.push
      (ending.1.map (match machine.label? with | some label => afterLabel label | none => id), ending.2.pop) := by
  rw [advanceMethod_body, outcome_execAll_single]
  unfold Machine.label?
  cases machine.isLabeled with
  | false =>
    simp only [Bool.false_eq_true, if_false, exec_whileLoop, outcome_inScope]
    generalize outcome (repeatWhile _ _ _) point.push = ending
    rcases ending with ⟨_ | _, _⟩ <;> rfl
  | true =>
    simp only [if_true, exec_labeled, exec_whileLoop, outcome_map, outcome_inScope]
    generalize outcome (repeatWhile _ _ _) point.push = ending
    rcases ending with ⟨_ | _, _⟩ <;> rfl

/-- Steps that take fuel come to a result: from some amount of fuel on they always give it. -/
def Settles (steps : Nat → Run α) (world : World) (result : Except Unwind α) (after : World) : Prop :=
  ∃ enough, ∀ fuel, enough ≤ fuel → steps fuel world = (result, after)

/-- A request is answered. -/
def Comes (request : Request) (world : World) (result : Except Unwind request.Answer) (after : World) : Prop :=
  Settles (fun fuel => performer fuel request) world result after

/-- A request that is answered by way of another. -/
theorem Comes.step {request request' : Request} {world world' after after' : World}
    {result : Except Unwind request.Answer} {result' : Except Unwind request'.Answer}
    (comes : Comes request world result after)
    (follows : ∀ fuel, performer fuel request world = (result, after) →
      performer (fuel + 1) request' world' = (result', after')) : Comes request' world' result' after' := by
  obtain ⟨enough, comes⟩ := comes
  refine ⟨enough + 1, fun fuel sufficient => ?_⟩
  obtain ⟨fuel, rfl⟩ : ∃ less, fuel = less + 1 := ⟨fuel - 1, by omega⟩
  exact follows fuel (comes fuel (by omega))

/-- Statements end, and leave the frame as it was. -/
def Ends (statements : List Statement) (frame : Interpreter.Frame) (world : World) (result : Except Unwind Flow)
    (after : World) : Prop :=
  ∃ enough, ∀ fuel, enough ≤ fuel →
    outcome (execAll (.ofPerformer (performer fuel)) fuel statements) (frame, world) = (result, (frame, after))

/-- The exception that says that a generator has broken down, with what broke it and what that says of itself. -/
def brokenBy (thrown : Value) (text : String) : Object :=
  .throwable { type := "ConcurrentModificationException", message := some text, cause := thrown }

/-- How a generator breaks down, given what the exception says of itself: with an exception that has it as its
cause. Where asking the exception for its text ends abruptly, that comes out instead. -/
def breakdown (thrown : Value) : Except Unwind String → World → Unwind × World
  | .ok text, world => (.thrown (.ref world.frontier), world.grown (brokenBy thrown text))
  | .error unwind, world => (unwind, world)

theorem depth_breakdown (thrown : Value) (said : Except Unwind String) (world : World) :
    (breakdown thrown said world).2.depth = world.depth := by
  cases said <;> rfl

section

variable (yielder : Yielder) (id : ClassId) (self : Address)

/-- The frame of the loop over states. -/
def loopFrame : Interpreter.Frame := (startFrame id yielder.getNext self).push

/-- The frame of the search for the handler of an exception. -/
def searchFrame (thrown : Value) : Interpreter.Frame :=
  (startFrame id yielder.getErrorHandler self).declare caughtName thrown

/-- Rounds of the loop over states after which it goes on. -/
inductive GoesOn : World → World → Prop
  | stay (world : World) : GoesOn world world
  | round {world next last : World} {flow : Flow}
      (ends : Ends [stateRound yielder.machine yielder.numbering] (loopFrame yielder id self) world (.ok flow) next)
      (again : afterPass yielder.machine.label? flow = none) (rest : GoesOn next last) : GoesOn world last

/-- In a call that looks for the next element the code of a state throws an exception, and no try statement around
that state takes it. The last world is that of the search when it has found nothing. -/
inductive Uncaught : World → Value → World → Prop
  | intro {world reached left after : World} {thrown : Value} {number : Int32}
      (rounds : GoesOn yielder id self (world.atDepth (world.depth + 1)) reached)
      (throws : Ends [stateSwitch yielder.machine yielder.numbering] (loopFrame yielder id self).push.push reached
        (.error (.thrown thrown)) left)
      (level : left.depth = world.depth + 1)
      (throwable : left.catches throwableType thrown = true)
      (intact : Embodied yielder id self left)
      (state : left.field? self stateName = some (.int number))
      (untaken : Ends (handlerSearch yielder.machine yielder.numbering
          (yielder.machine.contextAt (yielder.numbering.denotes number)).reverse)
        (searchFrame yielder id self thrown).push (left.atDepth (left.depth + 1)) (.ok .normal) after)
      (unharmed : Embodied yielder id self after) : Uncaught world thrown after

end

section

variable {yielder : Yielder} {id : ClassId} {self : Address}

theorem ofPerformer_readsNumbers (perform : Performer) : ReadsNumbers (.ofPerformer perform) := by
  intro number point
  change outcome (eval perform (.literal (.int number))) point = _
  exact outcome_evalLiteral _ _ _

/-- The condition of the loop over states holds always. -/
private theorem outcome_always (perform : Performer) (point : Point) :
    outcome (truth ((Meaning.ofPerformer perform).eval (.bool true))) point = (.ok true, point) :=
  outcome_truth (outcome_evalLiteral perform (.bool true) point)

/-- Rounds after which the loop goes on bring it from one world to another. -/
theorem GoesOn.outcome_repeat {world last : World} (goes : GoesOn yielder id self world last) :
    ∃ enough count, ∀ fuel, enough ≤ fuel → ∀ more,
      outcome (repeatWhile (truth ((Meaning.ofPerformer (performer fuel)).eval (.bool true)))
          (afterPass yielder.machine.label? <$> exec (.ofPerformer (performer fuel)) fuel none
            (stateRound yielder.machine yielder.numbering)) (more + count)) (loopFrame yielder id self, world) =
        outcome (repeatWhile (truth ((Meaning.ofPerformer (performer fuel)).eval (.bool true)))
          (afterPass yielder.machine.label? <$> exec (.ofPerformer (performer fuel)) fuel none
            (stateRound yielder.machine yielder.numbering)) more) (loopFrame yielder id self, last) := by
  induction goes with
  | stay world => exact ⟨0, 0, fun fuel _ more => rfl⟩
  | @round world next last flow ends again rest ih =>
    obtain ⟨enough, count, onward⟩ := ih
    obtain ⟨enough', ends⟩ := ends
    refine ⟨max enough enough', count + 1, fun fuel sufficient more => ?_⟩
    have passed := ends fuel (by omega)
    rw [outcome_execAll_single] at passed
    rw [← onward fuel (by omega), ← Nat.add_assoc, repeatWhile]
    simp only [outcome_bind, outcome_always, proceed_ok, if_true, outcome_map, passed, again]

variable {world mid after : World} {thrown : Value} {said : Except Unwind String} {fuel : Nat}

/-- Where no handler is found the generator ends in a breakdown. -/
theorem outcome_giveUp {frame : Interpreter.Frame} (current : frame.self = some self)
    (meant : resolveType world.classes frame "java.util.ConcurrentModificationException" =
      some (.library "ConcurrentModificationException"))
    (free : frame.get? stateName = none) (caught : frame.get? caughtName = some thrown)
    (object : ∃ address, thrown = .ref address) (state : ∃ number, world.field? self stateName = some (.int number))
    (tells : performer fuel (.text thrown) (world.putField self stateName (.int (-1))) = (said, after)) :
    outcome (execAll (.ofPerformer (performer fuel)) fuel giveUp) (frame, world) =
      (.error (breakdown thrown said after).1, (frame, (breakdown thrown said after).2)) := by
  obtain ⟨address, rfl⟩ := object
  obtain ⟨number, holds⟩ := state
  have literal : outcome (eval (performer fuel) (.int (-1))) (frame, world) =
      (.ok (.int (-1)), (frame, world)) := outcome_evalLiteral _ (.int (-1)) _
  have stored : outcome (exec (.ofPerformer (performer fuel)) fuel none (assignName stateName (.int (-1))))
      (frame, world) = (.ok .normal, (frame, world.putField self stateName (.int (-1)))) := by
    rw [assignName, outcome_storeOwn current free (by decide) holds literal, conform_int]
  have given : outcome (evalAll (performer fuel) [.name caughtName])
      (frame, world.putField self stateName (.int (-1))) =
      (.ok [.ref address], (frame, world.putField self stateName (.int (-1)))) := by
    have read : outcome (eval (performer fuel) (.name caughtName))
        (frame, world.putField self stateName (.int (-1))) =
        (.ok (.ref address), (frame, world.putField self stateName (.int (-1)))) := outcome_evalLocal caught
    simp [evalAll_cons, evalAll_nil, read]
  have still : resolveType (world.putField self stateName (.int (-1))).classes frame
      "java.util.ConcurrentModificationException" = some (.library "ConcurrentModificationException") := by
    rw [World.classes_putField, meant]
  have made : outcome (eval (performer fuel)
      (.make (.named "java.util.ConcurrentModificationException") [.name caughtName]))
      (frame, world.putField self stateName (.int (-1))) = _ := outcome_makeThrowable given still (by decide)
  simp only [outcome_liftM, throwableState, run_bind, tells] at made
  rw [giveUp, outcome_execAll_cons, stored, andThen_normal, outcome_execAll_single]
  cases said with
  | ok text => exact outcome_throws made
  | error unwind => exact outcome_throws_error made

/-- A thrown value that is caught as an exception is an object. -/
theorem exists_ref_of_catches (caught : world.catches throwableType thrown = true) :
    ∃ address, thrown = .ref address := by
  cases thrown with
  | ref address => exact ⟨address, rfl⟩
  | _ => cases caught

/-- Where no try statement takes an exception, the search for its handler ends the generator. -/
theorem getErrorHandler_of_untaken {number : Int32} (fits : yielder.numbering.Fits)
    (room : world.depth < depthLimit) (object : ∃ address, thrown = .ref address)
    (state : world.field? self stateName = some (.int number))
    (untaken : outcome (execAll (.ofPerformer (performer fuel)) fuel (handlerSearch yielder.machine
        yielder.numbering (yielder.machine.contextAt (yielder.numbering.denotes number)).reverse))
      ((searchFrame yielder id self thrown).push, world.atDepth (world.depth + 1)) =
        (.ok .normal, ((searchFrame yielder id self thrown).push, mid)))
    (embodied : Embodied yielder id self mid)
    (tells : performer fuel (.text thrown) (mid.putField self stateName (.int (-1))) = (said, after)) :
    performer (fuel + 1) (.invoke id yielder.getErrorHandler (some self) [thrown]) world =
      (.error (breakdown thrown said after).1, (breakdown thrown said after).2.atDepth
        ((breakdown thrown said after).2.depth - 1)) := by
  have bound : outcome (bindParameters yielder.getErrorHandler.parameters [thrown])
      (startFrame id yielder.getErrorHandler self, world.atDepth (world.depth + 1)) =
      (.ok (), (searchFrame yielder id self thrown, world.atDepth (world.depth + 1))) := rfl
  have selected : outcome ((Meaning.ofPerformer (performer fuel)).eval (.name stateName))
      (searchFrame yielder id self thrown, world.atDepth (world.depth + 1)) =
      (.ok (.int number), (searchFrame yielder id self thrown, world.atDepth (world.depth + 1))) :=
    outcome_evalOwn rfl rfl state
  have meant : resolveType mid.classes (searchFrame yielder id self thrown)
      "java.util.ConcurrentModificationException" = some (.library "ConcurrentModificationException") :=
    embodied.hosted.broken
  obtain ⟨_, stands⟩ := embodied.state
  have gaveUp := outcome_giveUp rfl meant rfl rfl object ⟨_, stands⟩ tells
  have ends : outcome (execAll (.ofPerformer (performer fuel)) fuel yielder.getErrorHandler.body)
      (searchFrame yielder id self thrown, world.atDepth (world.depth + 1)) =
      (.error (breakdown thrown said after).1, (searchFrame yielder id self thrown,
        (breakdown thrown said after).2)) := by
    have searched : outcome (inScope (execAll (.ofPerformer (performer fuel)) fuel (handlerSearch yielder.machine
          yielder.numbering (yielder.machine.contextAt (yielder.numbering.denotes number)).reverse)))
        (searchFrame yielder id self thrown, world.atDepth (world.depth + 1)) =
          (.ok .normal, (searchFrame yielder id self thrown, mid)) := by
      rw [outcome_inScope]
      exact congrArg (fun ending : Except Unwind Flow × Point => (ending.1, ending.2.pop)) untaken
    rw [Yielder.getErrorHandler, outcome_handlerMethod (ofPerformer_readsNumbers _) selected rfl fits, searched,
      andThen_normal, gaveUp]
  have begun : proceed (outcome (bindParameters yielder.getErrorHandler.parameters [thrown])
      (startFrame id yielder.getErrorHandler self, world.atDepth (world.depth + 1)))
      (fun _ => outcome (execAll (.ofPerformer (performer fuel)) fuel yielder.getErrorHandler.body)) =
        (.error (breakdown thrown said after).1, (searchFrame yielder id self thrown,
          (breakdown thrown said after).2)) := by
    rw [bound, proceed_ok, ends]
  rw [performer_invoke profile_getErrorHandler.bound room begun]
  rfl

/-- A round in which an exception is thrown for which the search ends abruptly. -/
private theorem outcome_round_of_error {unwind : Unwind} {left : World} (embodied : Embodied yielder id self left)
    (throws : outcome (execAll (.ofPerformer (performer fuel)) fuel
        [stateSwitch yielder.machine yielder.numbering]) ((loopFrame yielder id self).push.push, world) =
      (.error (.thrown thrown), ((loopFrame yielder id self).push.push, left)))
    (throwable : left.catches throwableType thrown = true)
    (breaks : performer fuel (.invoke id yielder.getErrorHandler (some self) [thrown]) left =
      (.error unwind, after)) :
    outcome (exec (.ofPerformer (performer fuel)) fuel none (stateRound yielder.machine yielder.numbering))
      (loopFrame yielder id self, world) = (.error unwind, (loopFrame yielder id self, after)) := by
  let frame : Interpreter.Frame := (loopFrame yielder id self).push.push.declare caughtName thrown
  obtain ⟨target, holds⟩ := embodied.state
  have read : outcome (eval (performer fuel) (.name caughtName)) (frame, left) = (.ok thrown, (frame, left)) :=
    outcome_evalLocal rfl
  have given : outcome (evalAll (performer fuel) [.name caughtName]) (frame, left) =
      (.ok [thrown], (frame, left)) := by
    simp [evalAll_cons, evalAll_nil, read]
  have called : outcome (eval (performer fuel) (.callOwn "getErrorHandler" [.name caughtName])) (frame, left) =
      (.error unwind, (frame, after)) := by
    have asked : outcome (callUnqualified (performer fuel) "getErrorHandler" [thrown]) (frame, left) =
        (.error unwind, (frame, after)) :=
      embodied.outcome_call rfl rfl mem_getErrorHandler (by decide) profile_getErrorHandler breaks
    simp only [Expression.callOwn, eval_callOwn, outcome_bind, given, proceed_ok, asked]
  have stopped : outcome (exec (.ofPerformer (performer fuel)) fuel none (.expression handlerUpdate))
      (frame, left) = (.error unwind, (frame, after)) :=
    outcome_storeOwn_error rfl rfl (by decide) holds called
  have caught : outcome (execCatches (.ofPerformer (performer fuel)) fuel thrown
      [⟨.final (.named "java.lang.Throwable") caughtName, [.expression handlerUpdate]⟩])
      ((loopFrame yielder id self).push, left) =
      (.error unwind, ((loopFrame yielder id self).push, after)) := by
    simp only [execCatches_cons, outcome_bind, outcome_world, proceed_ok]
    rw [show left.catches (Parameter.final (.named "java.lang.Throwable") caughtName).type thrown = true
      from throwable]
    simp only [if_true, outcome_inScope, outcome_bind, outcome_modifyFrame, proceed_ok, outcome_execAll_single]
    exact congrArg (fun ending : Except Unwind Flow × Point => (ending.1, ending.2.pop)) stopped
  have guarded : outcome (exec (.ofPerformer (performer fuel)) fuel none (.tryCatch
      [stateSwitch yielder.machine yielder.numbering]
      [⟨.final (.named "java.lang.Throwable") caughtName, [.expression handlerUpdate]⟩] none))
      ((loopFrame yielder id self).push, world) =
      (.error unwind, ((loopFrame yielder id self).push, after)) := by
    have thrownOut : outcome (inScope (execAll (.ofPerformer (performer fuel)) fuel
        [stateSwitch yielder.machine yielder.numbering])) ((loopFrame yielder id self).push, world) =
        (.error (.thrown thrown), ((loopFrame yielder id self).push, left)) := by
      rw [outcome_inScope]
      exact congrArg (fun ending : Except Unwind Flow × Point => (ending.1, ending.2.pop)) throws
    rw [exec_tryCatch_none, outcome_guarded, thrownOut, rescue_thrown, caught]
  rw [stateRound, exec_block, outcome_inScope, outcome_execAll_single]
  exact congrArg (fun ending : Except Unwind Flow × Point => (ending.1, ending.2.pop)) guarded

/-- A round in which the code of a state returns. -/
private theorem outcome_round_of_returns {value : Value}
    (returns : outcome (execAll (.ofPerformer (performer fuel)) fuel
        [stateSwitch yielder.machine yielder.numbering]) ((loopFrame yielder id self).push.push, world) =
      (.ok (.returns value), ((loopFrame yielder id self).push.push, after))) :
    outcome (exec (.ofPerformer (performer fuel)) fuel none (stateRound yielder.machine yielder.numbering))
      (loopFrame yielder id self, world) = (.ok (.returns value), (loopFrame yielder id self, after)) := by
  have returned : outcome (inScope (execAll (.ofPerformer (performer fuel)) fuel
      [stateSwitch yielder.machine yielder.numbering])) ((loopFrame yielder id self).push, world) =
      (.ok (.returns value), ((loopFrame yielder id self).push, after)) := by
    rw [outcome_inScope]
    exact congrArg (fun ending : Except Unwind Flow × Point => (ending.1, ending.2.pop)) returns
  have unguarded : outcome (exec (.ofPerformer (performer fuel)) fuel none (.tryCatch
      [stateSwitch yielder.machine yielder.numbering]
      [⟨.final (.named "java.lang.Throwable") caughtName, [.expression handlerUpdate]⟩] none))
      ((loopFrame yielder id self).push, world) =
      (.ok (.returns value), ((loopFrame yielder id self).push, after)) := by
    rw [exec_tryCatch_none, outcome_guarded, returned, rescue_ok]
  rw [stateRound, exec_block, outcome_inScope, outcome_execAll_single]
  exact congrArg (fun ending : Except Unwind Flow × Point => (ending.1, ending.2.pop)) unguarded

/-- A call ends as the round does behind which the loop does not go on. -/
private theorem performer_advancing {count more : Nat} {reached : World} {result : Except Unwind Flow}
    (room : world.depth < depthLimit) (passes : fuel = more + 1 + count)
    (rounds : outcome (repeatWhile (truth ((Meaning.ofPerformer (performer fuel)).eval (.bool true)))
          (afterPass yielder.machine.label? <$> exec (.ofPerformer (performer fuel)) fuel none
            (stateRound yielder.machine yielder.numbering)) (more + 1 + count))
          (loopFrame yielder id self, world.atDepth (world.depth + 1)) =
        outcome (repeatWhile (truth ((Meaning.ofPerformer (performer fuel)).eval (.bool true)))
          (afterPass yielder.machine.label? <$> exec (.ofPerformer (performer fuel)) fuel none
            (stateRound yielder.machine yielder.numbering)) (more + 1)) (loopFrame yielder id self, reached))
    (round : outcome (exec (.ofPerformer (performer fuel)) fuel none
        (stateRound yielder.machine yielder.numbering)) (loopFrame yielder id self, reached) =
      (result, (loopFrame yielder id self, after)))
    (leaves : ∀ flow, result = .ok flow → ∃ value, flow = .returns value) :
    performer (fuel + 1) (yielder.advancing id self) world =
      (callResult yielder.getNext.returnType result, after.atDepth (after.depth - 1)) := by
  have ends : outcome (execAll (.ofPerformer (performer fuel)) fuel yielder.getNext.body)
      (startFrame id yielder.getNext self, world.atDepth (world.depth + 1)) =
      (result, (startFrame id yielder.getNext self, after)) := by
    rw [← passes, repeatWhile.eq_def _ _ (more + 1)] at rounds
    simp only [outcome_bind, outcome_always, proceed_ok, if_true, outcome_map, round] at rounds
    rw [Yielder.getNext, outcome_advanceMethod]
    cases result with
    | error unwind =>
      exact congrArg (fun ending : Except Unwind Flow × Point => (ending.1.map _, ending.2.pop)) rounds
    | ok flow =>
      obtain ⟨value, rfl⟩ := leaves flow rfl
      refine (congrArg (fun ending : Except Unwind Flow × Point => (ending.1.map _, ending.2.pop)) rounds).trans ?_
      cases yielder.machine.label? <;> rfl
  exact performer_invoke_bare profile_getNext.bound rfl room ends

/-- A call returns what the code of a state returns. -/
theorem GoesOn.comes {reached : World} {flag : Bool} (room : world.depth < depthLimit)
    (goes : GoesOn yielder id self (world.atDepth (world.depth + 1)) reached)
    (returns : Ends [stateSwitch yielder.machine yielder.numbering] (loopFrame yielder id self).push.push reached
      (.ok (.returns (.bool flag))) after) :
    Comes (yielder.advancing id self) world (.ok (.bool flag)) (after.atDepth (after.depth - 1)) := by
  obtain ⟨enoughRounds, count, rounds⟩ := goes.outcome_repeat
  obtain ⟨enough, returns⟩ := returns
  refine ⟨max enoughRounds enough + count + 2, fun fuel sufficient => ?_⟩
  obtain ⟨fuel, rfl⟩ : ∃ less, fuel = less + 1 := ⟨fuel - 1, by omega⟩
  obtain ⟨more, passes⟩ : ∃ more, fuel = more + 1 + count := ⟨fuel - count - 1, by omega⟩
  exact performer_advancing room passes (rounds fuel (by omega) (more + 1))
    (outcome_round_of_returns (returns fuel (by omega))) (by simp)

/-- A call in which an exception is thrown that no try statement of the body takes ends in a breakdown. -/
theorem Uncaught.comes (fits : yielder.numbering.Fits) (room : world.depth + 2 ≤ depthLimit)
    (uncaught : Uncaught yielder id self world thrown mid)
    (tells : Comes (.text thrown) (mid.putField self stateName (.int (-1))) said after) :
    Comes (yielder.advancing id self) world (.error (breakdown thrown said after).1)
      ((breakdown thrown said after).2.atDepth (after.depth - 2)) := by
  obtain ⟨rounds, throws, level, throwable, intact, state, untaken, unharmed⟩ := uncaught
  obtain ⟨enoughRounds, count, rounds⟩ := rounds.outcome_repeat
  obtain ⟨enoughThrows, throws⟩ := throws
  obtain ⟨enoughSearch, untaken⟩ := untaken
  obtain ⟨enoughText, tells⟩ := tells
  refine ⟨max (max enoughRounds enoughThrows) (max enoughSearch enoughText) + count + 3, fun fuel sufficient => ?_⟩
  obtain ⟨fuel, rfl⟩ : ∃ less, fuel = less + 2 := ⟨fuel - 2, by omega⟩
  obtain ⟨more, passes⟩ : ∃ more, fuel + 1 = more + 1 + count := ⟨fuel - count, by omega⟩
  have asked := getErrorHandler_of_untaken fits (by omega) (exists_ref_of_catches throwable) state
    (untaken fuel (by omega)) unharmed (tells fuel (by omega))
  have round := outcome_round_of_error intact (throws (fuel + 1) (by omega)) throwable asked
  have called := performer_advancing (by omega) passes (rounds (fuel + 1) (by omega) (more + 1)) round (by simp)
  rw [World.depth_atDepth, World.atDepth_atDepth, depth_breakdown] at called
  exact called

/-- No group of the switch over states is that of the end. -/
private theorem findIdx_end (fits : yielder.numbering.Fits) :
    yielder.machine.layout.findIdx (fun id => yielder.numbering.number (.state id) == -1) =
      yielder.machine.layout.length := by
  refine List.findIdx_eq_length.mpr fun id member => ?_
  have apart := Numbering.number_ne_end fits (show id ∈ yielder.numbering.layout from member)
  simpa using apart

private theorem outcome_stateSwitch_end (fits : yielder.numbering.Fits) {point : Point}
    (selected : outcome ((Meaning.ofPerformer (performer fuel)).eval (.name stateName)) point =
      (.ok (.int (-1)), point)) :
    outcome (exec (.ofPerformer (performer fuel)) fuel none (stateSwitch yielder.machine yielder.numbering)) point =
      (.ok (.returns (.bool false)), point) := by
  have last : outcome (execCases (.ofPerformer (performer fuel)) fuel 0 [endGroup]) point.push =
      (.ok (.returns (.bool false)), point.push) := by
    have said : outcome (eval (performer fuel) (.bool false)) point.push = (.ok (.bool false), point.push) :=
      outcome_evalLiteral _ (.bool false) _
    rw [endGroup, outcome_execCases_cons, outcome_execAll_single, outcome_returns said]
    rfl
  rw [show stateSwitch yielder.machine yielder.numbering = .switch (.name stateName)
      (stateGroups yielder.machine yielder.numbering yielder.machine.layout ++ [endGroup]) from rfl,
    outcome_numberSwitch (ofPerformer_readsNumbers _) (isNumbered_stateGroups _ _ _) selected, findIdx_stateGroups,
    findIdx_end fits]
  simp only [outcome_inScope]
  rw [execCases_drop, List.drop_append_of_le_length (by simp [stateGroups_length]), stateGroups_drop,
    List.drop_length, stateGroups, List.nil_append, last]
  rfl

/-- At the end of the body there is no next element, and nothing is changed. -/
theorem getNext_at_end (fits : yielder.numbering.Fits) (room : world.depth < depthLimit)
    (ended : world.field? self stateName = some (.int (-1))) :
    Comes (yielder.advancing id self) world (.ok (.bool false)) world := by
  have returns : Ends [stateSwitch yielder.machine yielder.numbering] (loopFrame yielder id self).push.push
      (world.atDepth (world.depth + 1)) (.ok (.returns (.bool false))) (world.atDepth (world.depth + 1)) := by
    refine ⟨0, fun fuel _ => ?_⟩
    rw [outcome_execAll_single]
    exact outcome_stateSwitch_end fits (outcome_evalOwn rfl rfl ended)
  exact GoesOn.comes room (.stay _) returns

end

end JavaWeave.Generator
