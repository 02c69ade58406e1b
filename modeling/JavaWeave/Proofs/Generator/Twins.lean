import JavaWeave.Proofs.Generator.Enclosure
import JavaWeave.Proofs.Generator.Protocol
import JavaWeave.Proofs.Interpreter.Mirroring

/-! A yielder and its copy. Where the code of a generator keeps to itself, what looking for an element does to a yielder
it does to the copy as well. -/

namespace JavaWeave.Interpreter

open Syntax

namespace Mirror

section

variable {α β : Type} {mirror : Mirror} {count : Nat} {before after : Sight} {like : Nat → α → β → Prop} {a b : Point}

/-- The ends of steps that do the same in both worlds. -/
def Ended (mirror : Mirror) (before after : Sight) (like : Nat → α → β → Prop) (count : Nat) :
    Except Unwind α × Point → Except Unwind β × Point → Prop :=
  Matched (mirror.Unwound before count) fun x y a b => mirror.Aligned after count a b ∧ like a.2.size x y

theorem Ended.aligned {x : Except Unwind α} {y : Except Unwind β}
    (ended : mirror.Ended before before like count (x, a) (y, b)) :
    mirror.Aligned before count a b := by
  cases x <;> cases y
  · exact Mirror.Unwound.aligned ended
  · exact ended.elim
  · exact ended.elim
  · exact ended.1

/-- The point to which the copy comes is all there is to know about it. -/
theorem Aligned.unique {sight sight' : Sight} {p q : Point} (aligned : mirror.Aligned sight count a p)
    (aligned' : mirror.Aligned sight' count a q) : p = q :=
  Prod.ext (aligned.frame.trans aligned'.frame.symm) (aligned.world.unique aligned'.world)

theorem Ended.unique {one : Except Unwind α × Point} {other other' : Except Unwind β × Point}
    (functional : ∀ count x y y', like count x y → like count x y' → y = y')
    (ended : mirror.Ended before after like count one other)
    (ended' : mirror.Ended before after like count one other') :
    other = other' := by
  rcases one with ⟨u | x, p⟩
  · obtain ⟨v, q, rfl, unwound⟩ := Matched.of_error ended
    obtain ⟨v', q', rfl, unwound'⟩ := Matched.of_error ended'
    obtain rfl := unwound.aligned.unique unwound'.aligned
    cases unwound <;> cases unwound' <;> rfl
  · obtain ⟨y, q, rfl, aligned, related⟩ := Matched.of_ok ended
    obtain ⟨y', q', rfl, aligned', related'⟩ := Matched.of_ok ended'
    rw [aligned.unique aligned', functional _ _ _ _ related related']

/-- Steps that take fuel end on the copy if they do on the object. -/
theorem exists_ended {first : Nat → Code α} {second : Nat → Code β} {ending : Except Unwind α × Point}
    (steps : ∀ fuel, mirror.Mirrored count before after like (first fuel) (second fuel))
    (aligned : mirror.Aligned before count a b)
    (ends : ∃ enough, ∀ fuel, enough ≤ fuel → outcome (first fuel) a = ending)
    (functional : ∀ count x y y', like count x y → like count x y' → y = y') :
    ∃ ending', mirror.Ended before after like count ending ending' ∧
      ∃ enough, ∀ fuel, enough ≤ fuel → outcome (second fuel) b = ending' := by
  obtain ⟨enough, ends⟩ := ends
  have ended (fuel : Nat) (sufficient : enough ≤ fuel) :
      mirror.Ended before after like count ending (outcome (second fuel) b) := by
    have matched := steps fuel a b aligned
    rwa [ends fuel sufficient] at matched
  exact ⟨_, ended enough (Nat.le_refl _), enough, fun fuel sufficient =>
    Ended.unique functional (ended fuel sufficient) (ended enough (Nat.le_refl _))⟩

end

theorem Pictures.unique {mirror : Mirror} {loose : Bool} {count : Nat} {value first second : Value}
    (pictures : mirror.Pictures loose count value first) (pictures' : mirror.Pictures loose count value second) :
    first = second := pictures.1.trans pictures'.1.symm

theorem Endings.unique {mirror : Mirror} {count : Nat} {flow first second : Flow}
    (endings : mirror.Endings count flow first) (endings' : mirror.Endings count flow second) : first = second := by
  cases endings with
  | returns pictures =>
    cases endings' with
    | returns pictures' => rw [pictures.unique pictures']
  | _ =>
    cases endings'
    rfl

end Mirror

end JavaWeave.Interpreter

namespace JavaWeave.Generator

open Syntax Interpreter

/-- A yielder and its copy in two worlds, where the code of the generator keeps to itself. -/
structure Twins (yielder : Yielder) (mirror : Mirror) : Prop where
  lawful : mirror.Lawful
  coding : Coding mirror.realm
  keeps : yielder.machine.Keeps mirror.realm
  hosted : Hosted yielder mirror.type mirror.far

namespace Twins

variable {yielder : Yielder} {mirror : Mirror} (twins : Twins yielder mirror) {count fuel : Nat} {sight : Sight}
  {thrown : Value}

include twins

/-- The search for a handler comes to the same for both. -/
theorem mirrored_getErrorHandler (held : mirror.Held count false thrown) :
    mirror.Mirrored count sight sight (mirror.Pictures true)
      (liftM (performer fuel (.invoke mirror.type yielder.getErrorHandler (some mirror.self) [thrown])))
      (liftM (performer fuel (.invoke mirror.type yielder.getErrorHandler (some mirror.copy)
        [thrown.image mirror.place]))) := by
  cases fuel with
  | zero => exact Mirror.mirrored_outOfFuel
  | succ fuel =>
    refine Mirror.mirrored_invoke profile_getErrorHandler.bound fun more later => ?_
    have binds (value : Value) : bindParameters yielder.getErrorHandler.parameters [value] =
        modifyFrame (.declare caughtName value) := outcome_ext fun _ => rfl
    rw [binds, binds]
    have within := Sight.within_declare [[]] caughtName
    refine .mono (.bind within (Mirror.mirrored_declare (held.mono later).loosen) ?_) within fun _ _ _ => id
    rintro more' _ _ _ -
    exact (Mirror.mirrored_execAll twins.lawful fuel _
      (runs_handlerMethod twins.coding twins.keeps yielder.numbering (List.cons_ne_nil _ _) rfl))

/-- The state goes on where the exception is handled. -/
theorem mirrored_handlerUpdate (there : sight.has caughtName = true) :
    mirror.Mirrored count sight sight (mirror.Pictures true) (eval (performer fuel) handlerUpdate)
      (eval (performer fuel) handlerUpdate) := by
  have lawful := twins.lawful
  have target : mirror.realm.target? sight (.name stateName) = some stateName := by
    have field : mirror.realm.assigns sight stateName = true :=
      Bool.or_eq_true_iff.mpr (Or.inr (List.contains_iff_mem.mpr twins.coding.state))
    simp only [Realm.target?, field, Bool.and_true]
    exact if_pos (by decide)
  refine .andThen (Mirror.mirrored_evalPlace target) ?_
  rintro more place place' _ located
  refine Mirror.mirrored_assignPlace lawful located fun last => ?_
  rw [twins.coding.goesOn, Bool.and_true]
  change mirror.Mirrored last sight sight _ (do
      callUnqualified (performer fuel) "getErrorHandler" (← evalAll (performer fuel) [.name caughtName]))
    (do callUnqualified (performer fuel) "getErrorHandler" (← evalAll (performer fuel) [.name caughtName]))
  simp only [evalAll_cons, evalAll_nil, bind_assoc, pure_bind]
  have kept : mirror.realm.evaluates sight false (.name caughtName) = true := evaluates_caught twins.coding there false
  refine .andThen (Mirror.mirrored_eval lawful (.name caughtName) kept) ?_
  rintro later thrown _ _ ⟨rfl, held⟩ a b aligned
  obtain ⟨state, here, here', carries⟩ := aligned.world.stands
  have current : b.1.self = some mirror.copy := by rw [aligned.frame]; rfl
  have own : b.1.type = mirror.type := by rw [aligned.frame]; exact aligned.type
  rw [(twins.hosted.of_classes aligned.world.classes.1).outcome_call aligned.self aligned.type here carries.type
      mem_getErrorHandler (by decide) profile_getErrorHandler,
    (twins.hosted.of_classes aligned.world.classes.2).outcome_call current own here' carries.type
      mem_getErrorHandler (by decide) profile_getErrorHandler]
  exact twins.mirrored_getErrorHandler held a b aligned

/-- An exception that the code of a state throws is handled. -/
theorem mirrored_handling (held : mirror.Held count false thrown) :
    mirror.Mirrored count sight sight mirror.Endings
      (execCatches (.ofPerformer (performer fuel)) fuel thrown
        [⟨.final (.named "java.lang.Throwable") caughtName, [.expression handlerUpdate]⟩])
      (execCatches (.ofPerformer (performer fuel)) fuel (thrown.image mirror.place)
        [⟨.final (.named "java.lang.Throwable") caughtName, [.expression handlerUpdate]⟩]) := by
  have rest : mirror.Mirrored count sight sight mirror.Endings
      (execCatches (.ofPerformer (performer fuel)) fuel thrown [])
      (execCatches (.ofPerformer (performer fuel)) fuel (thrown.image mirror.place) []) :=
    Mirror.mirrored_throw held
  refine Mirror.mirrored_catch (.final (.named "java.lang.Throwable") caughtName) twins.lawful held
    (fun last _ => ?_) rest
  have there : Sight.has ([caughtName] :: sight) caughtName = true := by simp [Sight.has]
  rw [execAll_single, exec_expression]
  exact .andThen (.ignore (twins.mirrored_handlerUpdate there)) fun _ _ _ _ _ => Mirror.mirrored_normal

/-- A round of the loop over states. -/
theorem mirrored_stateRound (label : Option String) :
    mirror.Mirrored count sight sight mirror.Endings
      (exec (.ofPerformer (performer fuel)) fuel label (stateRound yielder.machine yielder.numbering))
      (exec (.ofPerformer (performer fuel)) fuel label (stateRound yielder.machine yielder.numbering)) := by
  rw [stateRound, exec_block, execAll_single, exec_tryCatch_none, execAll_single]
  refine .inScope (.guarded (.inScope ?_) fun _ _ held => twins.mirrored_handling held)
  exact (Mirror.mirrored_exec twins.lawful fuel none _ (runs_stateSwitch twins.coding twins.keeps _ _)).within

/-- Looking for the next element comes to the same for both. -/
theorem mirrored_getNext :
    mirror.Mirrored count sight sight (mirror.Pictures true)
      (liftM (performer fuel (yielder.advancing mirror.type mirror.self)))
      (liftM (performer fuel (yielder.advancing mirror.type mirror.copy))) := by
  cases fuel with
  | zero => exact Mirror.mirrored_outOfFuel
  | succ fuel =>
    refine Mirror.mirrored_invoke profile_getNext.bound fun more later => ?_
    have loop (label : Option String) {sight : Sight} : mirror.Mirrored more sight sight mirror.Endings
        (exec (.ofPerformer (performer fuel)) fuel label
          (.whileLoop (.bool true) (stateRound yielder.machine yielder.numbering)))
        (exec (.ofPerformer (performer fuel)) fuel label
          (.whileLoop (.bool true) (stateRound yielder.machine yielder.numbering))) :=
      .inScope (.repeatWhile (.truth twins.lawful (Mirror.mirrored_bool true))
        (twins.mirrored_stateRound none).passes fuel)
    have body : execAll (.ofPerformer (performer fuel)) fuel yielder.getNext.body =
        exec (.ofPerformer (performer fuel)) fuel none _ :=
      (congrArg (execAll _ _) (advanceMethod_body ..)).trans (execAll_single ..)
    have binds : bindParameters yielder.getNext.parameters [] = pure () := rfl
    rw [body, binds, pure_bind]
    split
    · exact .map (loop (some loopLabel)) fun _ _ _ _ endings => endings.afterLabel loopLabel
    · exact loop none

end Twins

/-- Statements that do the same on the object and on its copy end on the copy if they do on the object. -/
theorem exists_ends {mirror : Mirror} {count : Nat} {sight : Sight} {statements : List Statement}
    {frame frame' : Interpreter.Frame} {world world' after : World} {result : Except Unwind Flow}
    (steps : ∀ fuel, mirror.Mirrored count sight sight mirror.Endings
      (execAll (.ofPerformer (performer fuel)) fuel statements)
      (execAll (.ofPerformer (performer fuel)) fuel statements))
    (aligned : mirror.Aligned sight count (frame, world) (frame', world'))
    (ends : Ends statements frame world result after) :
    ∃ result' after', Ends statements frame' world' result' after' ∧
      mirror.Ended sight sight mirror.Endings count (result, (frame, after)) (result', (frame', after')) := by
  obtain ⟨⟨result', frame'', after'⟩, ended, ends'⟩ :=
    Mirror.exists_ended steps aligned ends fun _ _ _ _ => Mirror.Endings.unique
  obtain rfl : frame'' = frame' := ended.aligned.frame.trans aligned.frame.symm
  exact ⟨result', after', ends', ended⟩

/-- Steps of the whole program that do the same for the object and for its copy. -/
theorem exists_settled {α : Type} {mirror : Mirror} {like : Nat → α → α → Prop} {steps steps' : Nat → Run α}
    {world world' after : World} {result : Except Unwind α} (method : Method)
    (same : ∀ fuel, mirror.Mirrored world.size [[]] [[]] like (liftM (steps fuel)) (liftM (steps' fuel)))
    (reflects : mirror.Reflects world world') (settles : Settles steps world result after)
    (functional : ∀ count x y y', like count x y → like count x y' → y = y') :
    ∃ result' after', Settles steps' world' result' after' ∧
      mirror.Ended [[]] [[]] like world.size (result, (startFrame mirror.type method mirror.self, after))
        (result', (startFrame mirror.type method mirror.copy, after')) := by
  have aligned := Mirror.aligned_startFrame method reflects
  obtain ⟨enough, settles⟩ := settles
  have ends : ∃ enough, ∀ fuel, enough ≤ fuel →
      outcome (liftM (steps fuel) : Code α) (startFrame mirror.type method mirror.self, world) =
        (result, (startFrame mirror.type method mirror.self, after)) :=
    ⟨enough, fun fuel sufficient => by rw [outcome_liftM, settles fuel sufficient]⟩
  obtain ⟨⟨result', frame', after'⟩, ended, enough', ends'⟩ := Mirror.exists_ended same aligned ends functional
  obtain rfl : frame' = startFrame mirror.type method mirror.copy := ended.aligned.frame
  refine ⟨result', after', ⟨enough', fun fuel sufficient => ?_⟩, ended⟩
  have gives := ends' fuel sufficient
  rw [outcome_liftM] at gives
  exact Prod.ext (congrArg (·.1) gives :) (congrArg (·.2.2) gives :)

section

variable {yielder : Yielder} {mirror : Mirror} (twins : Twins yielder mirror) {world world' last : World}

include twins

theorem Twins.embodied (reflects : mirror.Reflects world world')
    (embodied : Embodied yielder mirror.type mirror.self world) :
    Embodied yielder mirror.type mirror.copy world' := by
  have holds {name : String} (before : ∃ value, world.field? mirror.self name = some value) :
      ∃ value, world'.field? mirror.copy name = some value := by
    obtain ⟨value, found⟩ := before
    exact ⟨_, by rw [reflects.field?, found]; rfl⟩
  obtain ⟨state, there, there', carries⟩ := reflects.stands
  obtain ⟨target, found⟩ := embodied.state
  exact {
    hosted := twins.hosted.of_classes reflects.classes.2
    typed := ⟨_, there', carries.type⟩
    state := ⟨target, by rw [reflects.field?, found]; rfl⟩
    found := holds embodied.found
    sought := holds embodied.sought
    element := holds embodied.element }

theorem Twins.goesOn (goes : GoesOn yielder mirror.type mirror.self world last)
    (reflects : mirror.Reflects world world') :
    ∃ last', GoesOn yielder mirror.type mirror.copy world' last' ∧ mirror.Reflects last last' := by
  induction goes generalizing world' with
  | stay world => exact ⟨world', .stay world', reflects⟩
  | @round world next last flow ends again rest ih =>
    have aligned := (Mirror.aligned_startFrame yielder.getNext reflects).push
    obtain ⟨_, next', ends', ended⟩ := exists_ends (fun fuel => by
      rw [execAll_single]
      exact twins.mirrored_stateRound none) aligned ends
    obtain ⟨flow', _, ⟨rfl, rfl⟩, aligned', endings⟩ := Matched.of_ok ended
    obtain ⟨last', rest', reflects'⟩ := ih aligned'.world
    refine ⟨last', .round ends' ?_ rest', reflects'⟩
    have passed := endings.afterPass yielder.machine.label?
    rw [again] at passed
    generalize afterPass yielder.machine.label? flow' = pass at passed ⊢
    cases passed
    rfl

/-- An exception of the body that no try statement takes is thrown for both. -/
theorem Twins.uncaught {thrown : Value} {searched : World}
    (uncaught : Uncaught yielder mirror.type mirror.self world thrown searched)
    (begins : mirror.Reflects world world') :
    ∃ searched', Uncaught yielder mirror.type mirror.copy world' (thrown.image mirror.place) searched' ∧
      mirror.Reflects searched searched' ∧ mirror.Held searched.size false thrown := by
  have lawful := twins.lawful
  obtain ⟨rounds, throws, level, throwable, intact, state, untaken, unharmed⟩ := uncaught
  rename_i reached left number
  obtain ⟨reached', rounds', reflects⟩ := twins.goesOn rounds (begins.level (· + 1))
  -- The code of the state throws the copy of the exception.
  have switches (sight : Sight) :
      mirror.realm.runsAll sight [stateSwitch yielder.machine yielder.numbering] = true :=
    Bool.and_eq_true_iff.mpr ⟨runs_stateSwitch twins.coding twins.keeps yielder.numbering sight, rfl⟩
  have aligned := (Mirror.aligned_startFrame yielder.getNext reflects).push.push.push
  obtain ⟨_, left', throws', ended⟩ :=
    exists_ends (fun fuel => Mirror.mirrored_execAll lawful fuel _ (switches _)) aligned throws
  obtain ⟨_, _, ⟨rfl, rfl⟩, unwound⟩ := Matched.of_error ended
  cases unwound with
  | thrown aligned' held =>
    have reflects' := aligned'.world
    -- The search for a handler finds none.
    have searches : mirror.realm.runsAll ([] :: [[caughtName]]) (handlerSearch yielder.machine yielder.numbering
        (yielder.machine.contextAt (yielder.numbering.denotes number)).reverse) = true :=
      runsAll_of_forall [caughtName] (runs_handlerSearch twins.coding twins.keeps yielder.numbering _)
        (List.cons_ne_nil _ _) (List.forall_mem_singleton.mpr rfl)
    have searching := ((Mirror.aligned_startFrame yielder.getErrorHandler (reflects'.level (· + 1))).declare
      caughtName held.loosen).push
    obtain ⟨_, searched', untaken', ended'⟩ :=
      exists_ends (fun fuel => Mirror.mirrored_execAll lawful fuel _ searches) searching untaken
    obtain ⟨_, _, ⟨rfl, rfl⟩, found, endings⟩ := Matched.of_ok ended'
    cases endings
    refine ⟨searched', .intro rounds' throws' ?_ ?_ (twins.embodied reflects' intact) ?_ untaken'
      (twins.embodied found.world unharmed), found.world, held.mono found.later⟩
    · rw [reflects'.depth, level, begins.depth]
    · rw [reflects'.catches lawful held (Nat.le_refl _), throwable]
    · rw [reflects'.field?, state]
      rfl

/-- What looking for an element comes to it comes to for both. -/
theorem Twins.comes {flag : Bool} {after : World}
    (comes : Comes (yielder.advancing mirror.type mirror.self) world (.ok (.bool flag)) after)
    (reflects : mirror.Reflects world world') :
    ∃ after', Comes (yielder.advancing mirror.type mirror.copy) world' (.ok (.bool flag)) after' ∧
      mirror.Reflects after after' := by
  obtain ⟨_, after', comes', ended⟩ := exists_settled yielder.getNext (fun _ => twins.mirrored_getNext) reflects comes
    fun _ _ _ _ => Mirror.Pictures.unique
  obtain ⟨_, _, ⟨rfl, rfl⟩, aligned, rfl, _⟩ := Matched.of_ok ended
  exact ⟨after', comes', aligned.world⟩

omit twins in
theorem steady_of_reflects {after after' : World} (reflects : mirror.Reflects world world')
    (reflects' : mirror.Reflects after after') (steady : Steady mirror.self world after) :
    Steady mirror.copy world' after' where
  depth := by rw [reflects.depth, reflects'.depth, steady.depth]
  sought := by rw [reflects.field?, reflects'.field?, steady.sought]

/-- What looking for an element finds is found for both. -/
theorem Twins.finds {finding : Finding} {found : World}
    (finds : Finds yielder mirror.type mirror.self world finding found) (reflects : mirror.Reflects world world') :
    ∃ found', Finds yielder mirror.type mirror.copy world' finding found' ∧ mirror.Reflects found found' := by
  cases finds with
  | element comes steady embodied =>
    obtain ⟨found', comes', reflects'⟩ := twins.comes comes reflects
    exact ⟨found', .element comes' (steady_of_reflects reflects reflects' steady) (twins.embodied reflects' embodied),
      reflects'⟩
  | finished comes steady embodied =>
    obtain ⟨found', comes', reflects'⟩ := twins.comes comes reflects
    exact ⟨found', .finished comes' (steady_of_reflects reflects reflects' steady) (twins.embodied reflects' embodied),
      reflects'⟩
  | @breakdown thrown searched told said uncaught tells depth sought ended embodied =>
    obtain ⟨searched', uncaught', searching, held⟩ := twins.uncaught uncaught reflects
    have marked : mirror.Reflects (searched.putField mirror.self stateName (.int (-1)))
        (searched'.putField mirror.copy stateName (.int (-1))) :=
      searching.putField (Mirror.held_of_plain rfl) twins.lawful
    have held' := held.mono (Nat.le_of_eq (World.size_putField searched mirror.self stateName (.int (-1))).symm)
    obtain ⟨said', told', tells', ended'⟩ := exists_settled yielder.getNext
      (fun fuel => Mirror.mirrored_text fuel held') marked tells fun _ _ _ _ first second =>
        first.symm.trans second
    have reflects' := ended'.aligned.world
    refine ⟨told', .breakdown uncaught' tells' ?_ ?_ ?_ (twins.embodied reflects' embodied), reflects'⟩
    · rw [reflects'.depth, depth, reflects.depth]
    · rw [reflects'.field?, reflects.field?, sought]
    · rw [reflects'.field?, ended]
      rfl

end

end JavaWeave.Generator
