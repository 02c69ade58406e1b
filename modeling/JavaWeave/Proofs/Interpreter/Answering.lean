import JavaWeave.Proofs.Interpreter.Framing

namespace JavaWeave.Interpreter

open Syntax

/-- What running statements takes for granted follows frames and keeps a relation between worlds. -/
structure Meaning.Framed (kept : World → World → Prop) (meaning : Meaning) : Prop where
  eval : ∀ e skipped point, Moves kept skipped (meaning.eval e) point
  call : ∀ receiver name arguments skipped point,
    Moves kept skipped (meaning.call receiver name arguments) point
  finish : ∀ {body finalizer : Code Flow} {skipped : Nat} {point : Point},
    Moves kept skipped body point → (∀ after, Moves kept skipped finalizer after) →
      Moves kept skipped (meaning.finish body finalizer) point

/-- Whether all that a statement declares is in scopes of its own. -/
def opensScope : Statement → Bool
  | .block _ | .synchronized _ _ | .whileLoop _ _ | .doWhile _ _ | .forLoop _ _ _ _ | .forEach _ _ _
  | .switch _ _ | .tryCatch _ _ _ => true
  | .labeled _ body => opensScope body
  | .expression _ | .declare _ | .ifElse _ _ _ | .returns _ | .returnsDefault | .throws _ | .breaks _
  | .continues _ | .localType _ | .empty | .verbatim _ => false

/-- How many of the scopes around a statement it may declare names in. -/
def reach (s : Statement) : Nat := if opensScope s then 0 else 1

theorem reach_le (s : Statement) : reach s ≤ 1 := by
  unfold reach
  split <;> decide

theorem reach_labeled (label : String) (body : Statement) : reach (.labeled label body) = reach body := rfl

section

variable {kept : World → World → Prop} [Tolerant kept] {point : Point}

theorem keeps_nonNull {world : World} (value : Value) : Keeps kept (nonNull value) world := by
  unfold nonNull
  split
  · exact keeps_raiseBare ..
  · exact .pure _

theorem Meaning.framed_ofPerformer {perform : Performer} (answers : perform.Keeps kept) :
    (Meaning.ofPerformer perform).Framed kept where
  eval e skipped point := moves_eval answers skipped point e
  call _ _ _ _ _ := .lift (keeps_dispatch answers ..)
  finish first finishes := first.ensuring finishes

instance : Tolerant fun _ _ => True where
  refl _ := trivial
  trans _ _ := trivial
  grown _ _ _ := trivial
  stored _ _ _ := trivial
  printed _ _ := trivial
  assigned _ _ _ _ := trivial
  entered _ _ _ _ := trivial

/-- Whatever requests do to the world, running code follows its frame. -/
theorem Meaning.Framed.anyWorld (perform : Performer) : (Meaning.ofPerformer perform).Framed fun _ _ => True :=
  Meaning.framed_ofPerformer fun _ _ _ => trivial

section

variable {meaning : Meaning} (framed : meaning.Framed kept)

include framed

theorem Meaning.Framed.labeledCase {skipped : Nat} (selector : Value) (place : Nat) (cases : List SwitchCase) :
    Moves kept skipped (labeledCase? meaning selector place cases) point := by
  induction cases generalizing place point with
  | nil => exact .pure _
  | cons group rest inductionHypothesis =>
    simp only [labeledCase?]
    split
    · exact inductionHypothesis _
    · next label _ =>
      have matched (point : Point) : Moves kept skipped (matchesLabel meaning selector label) point := by
        refine (Moves.lift keeps_heap).bind fun heap after => ?_
        split
        · exact .pure _
        · exact (framed.eval _ _ after).bind fun _ _ => .pure _
      refine (matched point).bind fun found after => ?_
      split
      · exact .pure _
      · exact inductionHypothesis _

theorem Meaning.Framed.firstCase {skipped : Nat} (selector : Value) (cases : List SwitchCase) :
    Moves kept skipped (firstCase? meaning selector cases) point :=
  (framed.labeledCase selector 0 cases).bind fun _ _ => .pure _

theorem Meaning.Framed.declareLocal (decl : LocalVariable) :
    Moves kept 1 (declareLocal meaning decl) point := by
  unfold Interpreter.declareLocal
  split
  · exact ((framed.eval _ _ point).map _).bind fun _ _ => .declare ..
  · exact (Moves.pure _).bind fun _ _ => .declare ..

theorem Meaning.Framed.iterate (fuel : Nat) (item : LocalVariable) (iterable : Expression)
    {pass : Code (Option Flow)} (passes : ∀ point, Moves kept 1 pass point) :
    Moves kept 1 (iterate meaning fuel item iterable pass) point := by
  have passesWith (value : Value) (point : Point) :
      Moves kept 1 (do modifyFrame (.declare item.name (coerce item.type value)); pass) point :=
    (Moves.declare ..).bind fun _ after => passes after
  refine (framed.eval iterable 1 point).bind fun source after => ?_
  refine (Moves.lift (keeps_nonNull source)).bind fun source after => ?_
  refine (Moves.lift keeps_heap).bind fun heap after => ?_
  dsimp only
  split
  · exact .repeatEach passesWith _
  · refine (framed.call source _ _ 1 after).bind fun iterator after => ?_
    refine .repeatWhile (fun point => (framed.call ..).truth) (fun point => ?_) fuel
    exact (framed.call ..).bind fun value after => passesWith value after

end

section

variable {meaning : Meaning}

mutual

/-- A statement leaves the scopes around it as they were, but for the names that it declares in the innermost
one. -/
theorem exec_moves (framed : meaning.Framed kept) (fuel : Nat) (label : Option String) (point : Point) :
    (s : Statement) → Moves kept (reach s) (exec meaning fuel label s) point
  | .block body => (execAll_moves framed fuel point.push body).inScope
  | .expression e => (framed.eval e _ point).discard.bind fun _ _ => .pure _
  | .declare decl => (framed.declareLocal decl).bind fun _ _ => .pure _
  | .ifElse condition whenTrue none => by
    refine (framed.eval condition _ point).truth.bind fun holds after => ?_
    split
    · exact (exec_moves framed fuel none after whenTrue).mono (reach_le whenTrue)
    · exact .pure _
  | .ifElse condition whenTrue (some whenFalse) => by
    refine (framed.eval condition _ point).truth.bind fun holds after => ?_
    split
    · exact (exec_moves framed fuel none after whenTrue).mono (reach_le whenTrue)
    · exact (exec_moves framed fuel none after whenFalse).mono (reach_le whenFalse)
  | .whileLoop condition body => by
    refine (Moves.repeatWhile (fun point => (framed.eval condition 1 point).truth) (fun point => ?_) fuel).inScope
    exact ((exec_moves framed fuel none point body).mono (reach_le body)).map _
  | .doWhile body condition => by
    have pass (point : Point) : Moves kept 1 (exec meaning fuel none body) point :=
      (exec_moves framed fuel none point body).mono (reach_le body)
    refine ((pass point.push).bind fun flow after => ?_).inScope
    split
    · exact .pure _
    · exact .repeatWhile (fun point => (framed.eval condition 1 point).truth) (fun point => (pass point).map _) fuel
  | .forLoop start condition update body => by
    refine ((execStart_moves framed fuel point.push start).bind fun _ after => ?_).inScope
    refine .repeatWhile (fun point => ?_) (fun point => ?_) fuel
    · split
      · exact (framed.eval _ 1 point).truth
      · exact .pure _
    · refine ((exec_moves framed fuel none point body).mono (reach_le body)).bind fun flow after => ?_
      split
      · exact .pure _
      · exact (Moves.forM fun e _ point => (framed.eval e 1 point).discard).bind fun _ _ => .pure _
  | .forEach item iterable body => by
    refine (framed.iterate fuel item iterable fun point => ?_).inScope
    exact ((exec_moves framed fuel none point body).mono (reach_le body)).map _
  | .switch selector cases => by
    refine (framed.eval selector _ point).bind fun value after => ?_
    refine (Moves.lift (keeps_nonNull value)).bind fun value after => ?_
    refine (framed.firstCase value cases).bind fun first after => ?_
    split
    · exact (execCases_moves framed fuel after.push _ cases).inScope
    · exact .pure _
  | .tryCatch body catches none =>
    (execAll_moves framed fuel point.push body).inScope.guarded fun thrown after =>
      execCatches_moves framed fuel thrown after catches
  | .tryCatch body catches (some finalizer) => by
    refine framed.finish ?_ fun after => (execAll_moves framed fuel after.push finalizer).inScope
    exact (execAll_moves framed fuel point.push body).inScope.guarded fun thrown after =>
      execCatches_moves framed fuel thrown after catches
  | .synchronized lock body => by
    refine (framed.eval lock _ point).bind fun value after => ?_
    refine (Moves.lift (keeps_nonNull value)).discard.bind fun _ after => ?_
    exact (execAll_moves framed fuel after.push body).inScope
  | .returns none => .pure _
  | .returns (some value) => (framed.eval value _ point).map _
  | .returnsDefault => Moves.readFrame.bind fun _ _ => .pure _
  | .throws value => by
    refine (framed.eval value _ point).bind fun value after => ?_
    exact (Moves.lift (keeps_nonNull value)).bind fun _ _ => .throw _
  | .breaks target => .pure _
  | .continues target => .pure _
  | .labeled label body => by
    rw [reach_labeled]
    exact (exec_moves framed fuel (some label) point body).map _
  | .localType decl => by
    refine Moves.bind ?_ fun _ _ => .pure _
    exact (moves_enterClass decl none).bind fun _ _ => .declareType ..
  | .empty => .pure _
  | .verbatim text => .lift (keeps_unsupported _)

theorem execAll_moves (framed : meaning.Framed kept) (fuel : Nat) (point : Point) :
    (body : List Statement) → Moves kept 1 (execAll meaning fuel body) point
  | [] => .pure _
  | s :: rest => by
    refine ((exec_moves framed fuel none point s).mono (reach_le s)).bind fun flow after => ?_
    split
    · exact execAll_moves framed fuel after rest
    · exact .pure _

theorem execStart_moves (framed : meaning.Framed kept) (fuel : Nat) (point : Point) :
    (start : List Statement) → Moves kept 1 (execStart meaning fuel start) point
  | [] => .pure _
  | s :: rest => by
    refine ((exec_moves framed fuel none point s).mono (reach_le s)).discard.bind fun _ after => ?_
    exact execStart_moves framed fuel after rest

theorem execCases_moves (framed : meaning.Framed kept) (fuel : Nat) (point : Point) (first : Nat) :
    (cases : List SwitchCase) → Moves kept 1 (execCases meaning fuel first cases) point
  | [] => by cases first <;> exact .pure _
  | ⟨_, body⟩ :: rest => by
    cases first with
    | succ first => exact execCases_moves framed fuel point first rest
    | zero =>
      refine (execAll_moves framed fuel point body).bind fun flow after => ?_
      split
      · exact execCases_moves framed fuel after 0 rest
      · exact .pure _
      · exact .pure _

theorem execCatches_moves (framed : meaning.Framed kept) (fuel : Nat) (thrown : Value) (point : Point) :
    (catches : List CatchClause) → Moves kept 0 (execCatches meaning fuel thrown catches) point
  | [] => .throw _
  | ⟨parameter, body⟩ :: rest => by
    refine Moves.readWorld.bind fun world after => ?_
    split
    · exact ((Moves.declare ..).bind fun _ after => execAll_moves framed fuel after body).inScope
    · exact execCatches_moves framed fuel thrown after rest

end

end

/-! What answers requests runs bodies in frames of their own. -/

omit [Tolerant kept] in
/-- A body leaves nothing behind but what it does to the world. -/
theorem keeps_within {frame : Frame} {body : Code α} {world : World}
    (moves : Moves kept 1 body (frame, world)) : Keeps kept (Code.within frame body) world := moves.world

theorem keeps_returned (flow : Flow) {world : World} : Keeps kept (returned flow) world := by
  unfold returned
  split
  · exact .pure _
  · exact .pure _
  · exact keeps_fail _
  · exact keeps_fail _

theorem moves_bindParameters (parameters : List Parameter) (arguments : List Value) :
    Moves kept 1 (bindParameters parameters arguments) point := .forM fun _ _ _ => .declare ..

section

variable {perform : Performer} (answers : perform.Keeps kept)

include answers

theorem moves_runAll (fuel : Nat) (body : List Statement) : Moves kept 1 (runAll perform fuel body) point :=
  execAll_moves (Meaning.framed_ofPerformer answers) fuel point body

theorem moves_evalFields (fields : List Field) {assign : String → Value → Run Unit}
    (assigns : ∀ name value world, Keeps kept (assign name value) world) :
    Moves kept 1 (evalFields perform fields assign) point := by
  refine .forM fun field _ point => ?_
  split
  · exact (moves_eval answers 1 point _).bind fun value after => .lift (assigns ..)
  · exact .pure _

theorem moves_runInitializers (fuel : Nat) (initializers : List Initializer) :
    Moves kept 1 (runInitializers perform fuel initializers) point :=
  .forM fun _ _ _ => (moves_runAll answers fuel _).discard

theorem keeps_initFields (fuel : Nat) (id : ClassId) (decl : TypeDecl) (self : Address) {world : World} :
    Keeps kept (initFields perform fuel id decl self) world := by
  refine keeps_within ?_
  refine (moves_evalFields answers _ fun _ _ _ => keeps_setField ..).bind fun _ after => ?_
  exact moves_runInitializers answers fuel _

theorem keeps_runSuper (superclass : Option ClassRef) (self : Address) (arguments : List Value) {world : World} :
    Keeps kept (runSuper perform superclass self arguments) world := by
  unfold runSuper
  split
  · exact answers (.runConstructor ..) trivial world
  · split
    · exact (keeps_throwableState answers ..).bind fun _ _ _ => keeps_modifyInstance self _ fun _ => ⟨rfl, rfl⟩
    · exact .pure _
  · exact .pure _

theorem moves_beginConstructor (fuel : Nat) (id : ClassId) (info : ClassInfo) (self : Address)
    (body : List Statement) : Moves kept 1 (beginConstructor perform fuel id info self body) point := by
  unfold beginConstructor
  split
  · refine (moves_evalAll answers 1 point _).bind fun values after => ?_
    exact (Moves.lift (answers (.runConstructor ..) trivial _)).bind fun _ _ => .pure _
  · refine (moves_evalAll answers 1 point _).bind fun values after => ?_
    refine (Moves.lift (keeps_runSuper answers ..)).bind fun _ after => ?_
    exact (Moves.lift (keeps_initFields answers ..)).bind fun _ _ => .pure _
  · refine (Moves.lift (keeps_runSuper answers ..)).bind fun _ after => ?_
    exact (Moves.lift (keeps_initFields answers ..)).bind fun _ _ => .pure _

theorem keeps_runConstructor (fuel : Nat) (id : ClassId) (self : Address) (arguments : List Value) {world : World} :
    Keeps kept (runConstructor perform fuel id self arguments) world := by
  refine (keeps_classInfo id).bind fun info after _ => ?_
  split
  · refine keeps_within ((moves_bindParameters ..).bind fun _ after => ?_)
    refine (moves_beginConstructor answers ..).bind fun body after => ?_
    exact (moves_runAll answers fuel body).bind fun flow after => (Moves.lift (keeps_returned flow)).discard
  · split
    · exact (keeps_runSuper answers ..).bind fun _ after _ => keeps_initFields answers ..
    · exact keeps_fail _

theorem keeps_runMethod (fuel : Nat) (owner : ClassId) (method : Method) (self : Option Address)
    (arguments : List Value) {world : World} :
    Keeps kept (runMethod perform fuel owner method self arguments) world := by
  refine keeps_within ((moves_bindParameters ..).bind fun _ after => ?_)
  refine (moves_runAll answers fuel _).bind fun flow after => ?_
  exact (Moves.lift (keeps_returned flow)).bind fun _ _ => .pure _

/-- A call is over when its method ends, however that is. -/
theorem keeps_invoke (counts : ∀ before after : World, kept (before.atDepth (before.depth + 1)) after →
      kept before (after.atDepth (after.depth - 1)))
    (fuel : Nat) (owner : ClassId) (method : Method) (self : Option Address) (arguments : List Value) {world : World} :
    Keeps kept (invoke perform fuel owner method self arguments) world := by
  have called (world : World) : Keeps kept (counted (runMethod perform fuel owner method self arguments)) world :=
    counts world _ (keeps_runMethod answers ..)
  unfold invoke
  extract_lets call check
  have checked (value : PUnit) (world : World) : Keeps kept (check value) world := by
    refine keeps_get.bind fun _ after _ => ?_
    split
    · exact (keeps_raiseBare _).bind fun _ after _ => called after
    · exact called after
  split
  · exact (answers (.prepare owner) trivial world).bind fun value after _ => checked value after
  · exact checked () world

end

end

-- However a statement ends, every scope that it opened is left and every call that it made is over.

/-- As many methods are being run after as before. -/
def SameDepth (before after : World) : Prop := after.depth = before.depth

instance : Tolerant SameDepth where
  refl _ := rfl
  trans first second := second.trans first
  grown _ _ _ := rfl
  stored _ _ _ := rfl
  printed _ _ := rfl
  assigned _ _ _ _ := rfl
  entered _ _ _ _ := rfl

section

variable {perform : Performer} (answers : ∀ request world, Keeps SameDepth (perform request) world)

include answers

theorem balanced_makeConstants (id : ClassId) (constants : List EnumConstant) (point : Point) :
    Moves SameDepth 1 (makeConstants perform id constants) point := by
  refine .forM fun constant _ point => ?_
  refine (moves_evalAll (fun request _ => answers request) 1 point _).bind fun values after => ?_
  exact (Moves.lift (answers ..)).bind fun value after => .lift rfl

theorem balanced_prepare (fuel : Nat) (id : ClassId) (world : World) :
    Keeps SameDepth (prepare perform fuel id) world := by
  have ordinary : perform.Keeps SameDepth := fun request _ => answers request
  unfold prepare
  refine (keeps_classInfo id).bind fun info after _ => ?_
  split
  · exact .pure _
  · extract_lets fields finish
    have finished (value : PUnit) (world : World) : Keeps SameDepth (finish value) world := by
      refine (Keeps.forM fun field _ => keeps_setStatic ..).bind fun _ after _ => ?_
      have body : Moves SameDepth 1 (do
          makeConstants perform id info.decl.constants
          evalFields perform fields (setStatic id)
          runInitializers perform fuel (info.decl.initializers.filter (·.isStatic))) ({ type := id }, after) :=
        (balanced_makeConstants answers ..).bind fun _ after =>
          (moves_evalFields ordinary _ fun _ _ _ => keeps_setStatic ..).bind fun _ after =>
            moves_runInitializers ordinary ..
      exact (keeps_within body).bind fun _ _ _ => rfl
    refine Keeps.bind rfl fun _ after _ => ?_
    split
    · exact (answers ..).bind fun value after _ => finished value after
    · exact finished () after

theorem balanced_construct (id : ClassId) (arguments : List Value) (creation : Creation) (world : World) :
    Keeps SameDepth (construct perform id arguments creation) world := by
  unfold construct
  refine (keeps_classInfo id).bind fun info after _ => ?_
  extract_lets make
  have made (value : PUnit) (world : World) : Keeps SameDepth (make value) world := by
    refine (answers (.prepare id) world).bind fun _ after _ => keeps_classes.bind fun _ after _ => ?_
    refine Keeps.bind rfl fun address after _ => ?_
    exact (answers (.runConstructor id address arguments) after).bind fun _ _ _ => .pure _
  split
  · exact (keeps_fail _).bind fun value after _ => made value after
  · exact made () after

theorem balanced_answer (fuel : Nat) (request : Request) (world : World) :
    Keeps SameDepth (answer perform fuel request) world := by
  cases request with
  | invoke owner method self arguments =>
    refine keeps_invoke (fun request _ => answers request) (fun before after inside => ?_) ..
    have deeper : after.depth = before.depth + 1 := inside
    simp [SameDepth, deeper]
  | construct id arguments creation => exact balanced_construct answers ..
  | runConstructor id self arguments => exact keeps_runConstructor (fun request _ => answers request) ..
  | prepare id => exact balanced_prepare answers ..
  | text value => exact keeps_textOf (fun request _ => answers request) value

end

theorem balanced_performer (fuel : Nat) (request : Request) (world : World) :
    Keeps SameDepth (performer fuel request) world := by
  induction fuel generalizing request world with
  | zero => exact .throw _
  | succ fuel inductionHypothesis => exact balanced_answer inductionHypothesis fuel request world

/-- However a statement ends, its frame has as many scopes after it as before, and as many methods are being run.
A block, a synchronized block, a loop, a switch or a try statement leaves no name behind in any of these scopes. -/
theorem exec_balanced (patience fuel : Nat) (label : Option String) (s : Statement) (frame : Frame)
    (world : World) :
    let after := (outcome (exec (.ofPerformer (performer patience)) fuel label s) (frame, world)).2
    after.1.scopes.length = frame.scopes.length ∧ after.2.depth = world.depth ∧
      (opensScope s = true → after.1.names = frame.names) := by
  have answers : (performer patience).Keeps SameDepth := fun request _ => balanced_performer patience request
  have moves : Moves SameDepth (reach s) (exec (.ofPerformer (performer patience)) fuel label s) (frame, world) :=
    exec_moves (Meaning.framed_ofPerformer answers) fuel label (frame, world) s
  refine ⟨moves.frame.scopes, moves.world, fun opens => ?_⟩
  have names := moves.frame.names
  simpa [reach, opens] using names

/-- A try statement whose body and finalizer both declare variables and end by throwing. -/
theorem exec_balanced_try :
    let failing : Statement := .tryCatch
      [.declare { type := .named "int", name := "x", initial := some (.literal (.int 1)) },
        .throws (.literal .null)] []
      (some [.declare { type := .named "int", name := "y" }, .throws (.literal .null)])
    let after := (outcome (exec (.ofPerformer (performer 1)) 1 none failing) ({ type := ⟨0⟩ }, {})).2
    opensScope failing = true ∧ after.1.names = [([], [])] :=
  ⟨rfl, (exec_balanced 1 1 none _ _ _).2.2 rfl⟩

end JavaWeave.Interpreter
