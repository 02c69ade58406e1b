import JavaWeave.Handler.Builder.Steps
import JavaWeave.Handler.DoPrivileged
import JavaWeave.Proofs.Generator.Completion
import JavaWeave.Proofs.Interpreter.Answering
import JavaWeave.Proofs.Interpreter.Tie
import JavaWeave.Proofs.Syntax.Straight

/-! A body that returns nothing, made to give back a value. The runs of the two bodies are tied to each other: they
go through the same points, and where the first ends with a plain return the second returns the value. What is
appended behind the last statement takes the runs that come to its end. -/

namespace JavaWeave.Weave.Returning

open Syntax Generator Reviser
open Interpreter hiding Nesting

/-- Where the jumps of a statement may lead: the statements around it that a plain `break` or `continue` leaves or
goes on with, and the labels around it, of which those right before a loop take a `continue`. -/
structure Targets where
  breakable : Bool := false
  loop : Bool := false
  labels : List String := []
  loopLabels : List String := []

namespace Targets

def inLoop (targets : Targets) (label : Option String) : Targets :=
  { targets with breakable := true, loop := true, loopLabels := label.toList ++ targets.loopLabels }

def inSwitch (targets : Targets) : Targets := { targets with breakable := true }

def inLabel (targets : Targets) (label : String) : Targets := { targets with labels := label :: targets.labels }

/-- Whether a statement among the targets may end so: no other jump leaves it, and nothing that a return gives. -/
def Allows (targets : Targets) : Flow → Prop
  | .normal => True
  | .returns value => value = .null
  | .breaks none => targets.breakable = true
  | .breaks (some label) => label ∈ targets.labels
  | .continues none => targets.loop = true
  | .continues (some label) => label ∈ targets.loopLabels

end Targets

mutual

/-- Whether a statement, which may stand behind a label, is left by plain returns only and by jumps to the targets.
Types that are declared inside have their own. -/
def contained (targets : Targets) (label : Option String) : Statement → Bool
  | .block body | .synchronized _ body => containedAll targets body
  | .ifElse _ whenTrue whenFalse =>
    contained targets none whenTrue && (match whenFalse with | some s => contained targets none s | none => true)
  | .whileLoop _ body | .doWhile body _ | .forEach _ _ body => contained (targets.inLoop label) none body
  | .forLoop start _ _ body =>
    containedAll (targets.inLoop label) start && contained (targets.inLoop label) none body
  | .switch _ cases => containedCases targets.inSwitch cases
  | .tryCatch body catches finalizer =>
    containedAll targets body && containedCatches targets catches
      && (match finalizer with | some ss => containedAll targets ss | none => true)
  | .labeled own body => contained (targets.inLabel own) (some own) body
  | .returns value => value.isNone
  | .returnsDefault => false
  | .breaks none => targets.breakable
  | .breaks (some label) => targets.labels.contains label
  | .continues none => targets.loop
  | .continues (some label) => targets.loopLabels.contains label
  | .expression _ | .declare _ | .throws _ | .localType _ | .empty | .verbatim _ => true

def containedAll (targets : Targets) : List Statement → Bool
  | [] => true
  | s :: rest => contained targets none s && containedAll targets rest

def containedCases (targets : Targets) : List SwitchCase → Bool
  | [] => true
  | ⟨_, body⟩ :: rest => containedAll targets body && containedCases targets rest

def containedCatches (targets : Targets) : List CatchClause → Bool
  | [] => true
  | ⟨_, body⟩ :: rest => containedAll targets body && containedCatches targets rest

end

/-- The end that takes the place of another when returns give back a value. -/
def giving (given : Value) : Flow → Flow
  | .returns _ => .returns given
  | flow => flow

/-- One point, in code that runs on an object or on none. -/
def At (self : Option Address) (a b : Point) : Prop := a = b ∧ a.1.self = self

/-- The ends of the two runs: at one point, and the second gives back the value where the first returns. -/
abbrev Gives (self : Option Address) (given : Value) (targets : Targets) : Flow → Flow → Point → Point → Prop :=
  Paired (At self) fun f g => targets.Allows f ∧ g = giving given f

/-- Steps that start at one point and end at one point, with results that correspond. -/
abbrev Together {α β : Type} (self : Option Address) (ended : α → β → Point → Point → Prop) (first : Code α)
    (second : Code β) : Prop :=
  Tied (At self) (Paired (At self) Eq) ended first second

/-- The second steps do what the first do, and give back the value. -/
def Follow (self : Option Address) (given : Value) (targets : Targets) (first second : Code Flow) : Prop :=
  Together self (Gives self given targets) first second

section Rules

variable {self : Option Address} {given : Value} {targets : Targets}

/-- Steps that leave the current object are tied to themselves. -/
theorem tied_self {α : Type} {code : Code α} (moves : ∀ point, Moves (fun _ _ => True) 1 code point) :
    Together self (Paired (At self) Eq) code code := by
  rintro point _ ⟨rfl, here⟩
  have stays : (outcome code point).2.1.self = self := (moves point).frame.self.trans here
  rcases ended : outcome code point with ⟨unwind | value, after⟩
  · exact ⟨⟨rfl, by rw [← stays, ended]⟩, rfl⟩
  · exact ⟨⟨rfl, by rw [← stays, ended]⟩, rfl⟩

theorem Follow.flow {flow flow' : Flow} (allowed : targets.Allows flow) (same : flow' = giving given flow) :
    Follow self given targets (pure flow) (pure flow') :=
  tied_pure fun _ _ here => ⟨here, allowed, same⟩

theorem Follow.normal : Follow self given targets (pure .normal) (pure .normal) := .flow trivial rfl

theorem Follow.after {α : Type} {code : Code α} {next next' : α → Code Flow}
    (moves : ∀ point, Moves (fun _ _ => True) 1 code point)
    (onward : ∀ value, Follow self given targets (next value) (next' value)) :
    Follow self given targets (code >>= next) (code >>= next') := by
  refine tied_bind (tied_self moves) fun x y => ?_
  rintro a b ⟨here, rfl⟩
  exact onward x a b here

theorem Follow.inScope {first second : Code Flow} (follow : Follow self given targets first second) :
    Follow self given targets (inScope first) (inScope second) := by
  refine tied_inScope follow ?_ ?_ ?_
  · rintro a _ ⟨rfl, here⟩
    exact ⟨rfl, here⟩
  · rintro u v a _ ⟨⟨rfl, here⟩, same⟩
    exact ⟨⟨rfl, here⟩, same⟩
  · rintro f g a _ ⟨⟨rfl, here⟩, ended⟩
    exact ⟨⟨rfl, here⟩, ended⟩

/-- What a loop makes of the end of its body is no jump to the loop. -/
theorem afterPass_allows {label : Option String} {flow ended : Flow} (allowed : (targets.inLoop label).Allows flow)
    (after : afterPass label flow = some ended) : targets.Allows ended := by
  match flow with
  | .normal => cases after
  | .returns value =>
    cases after
    exact allowed
  | .breaks none =>
    cases after
    trivial
  | .breaks (some target) =>
    simp only [afterPass] at after
    split at after <;> cases after
    · trivial
    · exact allowed
  | .continues none => cases after
  | .continues (some target) =>
    simp only [afterPass] at after
    split at after <;> cases after
    next other =>
      refine (List.mem_append.mp allowed).resolve_left fun own => other ?_
      rw [Option.mem_toList.mp own, BEq.rfl]

theorem afterPass_giving (label : Option String) (flow : Flow) :
    afterPass label (giving given flow) = (afterPass label flow).map (giving given) := by
  match flow with
  | .normal | .returns _ | .breaks none | .continues none => rfl
  | .breaks (some target) | .continues (some target) =>
    simp only [giving, afterPass]
    split <;> rfl

theorem passing_afterPass {label : Option String} {f g : Flow} {a b : Point}
    (ended : Gives self given (targets.inLoop label) f g a b) :
    Passing (At self) (Gives self given targets) (afterPass label f) (afterPass label g) a b := by
  obtain ⟨here, allowed, rfl⟩ := ended
  rw [afterPass_giving]
  cases after : afterPass label f with
  | none => exact here
  | some flow => exact ⟨here, afterPass_allows allowed after, rfl⟩

theorem Follow.passes {label : Option String} {first second : Code Flow}
    (follow : Follow self given (targets.inLoop label) first second) :
    Together self (Passing (At self) (Gives self given targets)) (afterPass label <$> first)
      (afterPass label <$> second) :=
  tied_map follow fun _ _ _ _ => passing_afterPass

theorem Follow.repeatWhile {condition : Code Bool} {pass pass' : Code (Option Flow)}
    (moves : ∀ point, Moves (fun _ _ => True) 1 condition point)
    (passes : Together self (Passing (At self) (Gives self given targets)) pass pass') (fuel : Nat) :
    Follow self given targets (repeatWhile condition pass fuel) (repeatWhile condition pass' fuel) :=
  tied_repeatWhile (tied_self moves) passes (fun _ _ here => ⟨here, rfl⟩) (fun _ _ here => ⟨here, trivial, rfl⟩) fuel

/-- What comes behind the body of a loop: it is left, or goes on. -/
theorem Follow.thenPass {α : Type} {ended : α → α → Point → Point → Prop} {label : Option String}
    {first second : Code Flow} {leave : Flow → Code α} {next next' : Code α}
    (follow : Follow self given (targets.inLoop label) first second)
    (leaves : ∀ f g, Tied (Gives self given targets f g) (Paired (At self) Eq) ended (leave f) (leave g))
    (onward : Together self ended next next') :
    Together self ended (first >>= fun flow => match afterPass label flow with | some flow => leave flow | none => next)
      (second >>= fun flow => match afterPass label flow with | some flow => leave flow | none => next') := by
  refine tied_bind follow fun f g a b both => ?_
  have passing := passing_afterPass both
  generalize afterPass label f = x at passing ⊢
  generalize afterPass label g = y at passing ⊢
  match x, y, passing with
  | none, none, here => exact onward a b here
  | some _, some _, both => exact leaves _ _ a b both

/-- A labeled statement takes the jumps to its label. -/
theorem Follow.label {own : String} {first second : Code Flow}
    (follow : Follow self given (targets.inLabel own) first second) :
    Follow self given targets (afterLabel own <$> first) (afterLabel own <$> second) := by
  refine tied_map follow ?_
  rintro f _ a b ⟨here, allowed, rfl⟩
  refine ⟨here, ?_⟩
  match f with
  | .normal | .returns _ | .breaks none | .continues none | .continues (some _) => exact ⟨allowed, rfl⟩
  | .breaks (some target) =>
    simp only [giving, afterLabel]
    split
    · exact ⟨trivial, rfl⟩
    · next other =>
      refine ⟨(List.mem_cons.mp allowed).resolve_left fun same => other ?_, rfl⟩
      rw [same, BEq.rfl]

theorem Follow.guarded {body body' : Code Flow} {handler handler' : Value → Code Flow}
    (begins : Follow self given targets body body')
    (handles : ∀ thrown, Follow self given targets (handler thrown) (handler' thrown)) :
    Follow self given targets (Interpreter.guarded body handler) (Interpreter.guarded body' handler') :=
  tied_guarded begins (fun thrown _ a b ⟨here, same⟩ => Unwind.thrown.inj same ▸ handles thrown a b here)
    (fun _ _ _ _ ⟨_, same⟩ => same ▸ .rfl) fun _ _ _ _ both _ => both

/-- No return becomes a normal end, and none comes from one. -/
theorem giving_normal (flow : Flow) : flow = .normal ↔ giving given flow = .normal := by cases flow <;> simp [giving]

theorem Follow.ensuring {body body' finalizer finalizer' : Code Flow} (begins : Follow self given targets body body')
    (finishes : Follow self given targets finalizer finalizer') :
    Follow self given targets (Interpreter.ensuring body finalizer) (Interpreter.ensuring body' finalizer') :=
  tied_ensuring begins (fun _ : Unit => finishes.mono (fun _ _ here => here) (fun _ _ _ _ both => both)
      fun _ _ _ _ both => ⟨both, fun _ => both.1⟩)
    (fun _ _ _ _ both => ⟨(), both.1, fun _ _ here => ⟨here, both.2⟩⟩)
    (fun _ _ _ _ both => ⟨(), both.1, fun _ _ here => ⟨here, both.2⟩⟩)
    (fun f _ _ _ ⟨_, _, same⟩ => same ▸ giving_normal f) fun _ _ _ _ ⟨_, same⟩ => same ▸ .rfl

end Rules

/-- A leaf with a value in place of none, if it is a return. -/
def giveBack (value : Expression) (leaf : Leaf) : Statement :=
  match leaf with
  | .returns none => .returns (some value)
  | leaf => leaf.statement

section Giver

variable (value : Expression)

/-- The reviser that makes plain returns give back a value. -/
def giver : Reviser Unit Id where
  expression _ e := e
  statement _ s := match s with
    | .returns none => .returns (some value)
    | s => s
  entersTypes := false

private theorem giver_leaves : (giver value).LeavesExpressions := ⟨fun _ _ => rfl, rfl⟩

private theorem giver_onExpression (e : Expression) : (giver value).onExpression () e = pure e :=
  onExpression_left (giver_leaves value) () e

private theorem giver_onExpressions (es : List Expression) : (giver value).onExpressions () es = pure es :=
  onExpressions_left (giver_leaves value) () es

private theorem giver_onLocal (decl : LocalVariable) : (giver value).onLocal () decl = pure decl :=
  onLocal_left (giver_leaves value) () decl

mutual

/-- Only leaves are replaced. -/
theorem giver_onStatement (nesting : Nesting) : (s : Statement) →
    (giver value).onStatement () s = pure (revise (fun _ => giveBack value) nesting s)
  | .block body => pure_then (giver_onStatements nesting body) rfl
  | .expression e => pure_then (giver_onExpression value e) rfl
  | .declare decl => pure_then (giver_onLocal value decl) rfl
  | .ifElse condition whenTrue none =>
    pure_then (giver_onExpression value condition) (pure_then (giver_onStatement nesting whenTrue) rfl)
  | .ifElse condition whenTrue (some whenFalse) =>
    pure_then (giver_onExpression value condition)
      (pure_then (giver_onStatement nesting whenTrue)
        (pure_then (pure_given (giver_onStatement nesting whenFalse)) rfl))
  | .whileLoop condition body =>
    pure_then (giver_onExpression value condition) (pure_then (giver_onStatement nesting.inLoop body) rfl)
  | .doWhile body condition =>
    pure_then (giver_onStatement nesting.inLoop body) (pure_then (giver_onExpression value condition) rfl)
  | .forLoop start none update body =>
    pure_then (giver_onStatements nesting.inLoop start)
      (pure_then rfl
        (pure_then (giver_onExpressions value update) (pure_then (giver_onStatement nesting.inLoop body) rfl)))
  | .forLoop start (some condition) update body =>
    pure_then (giver_onStatements nesting.inLoop start)
      (pure_then (pure_given (giver_onExpression value condition))
        (pure_then (giver_onExpressions value update) (pure_then (giver_onStatement nesting.inLoop body) rfl)))
  | .forEach item iterable body =>
    pure_then (giver_onLocal value item)
      (pure_then (giver_onExpression value iterable) (pure_then (giver_onStatement nesting.inLoop body) rfl))
  | .switch selector cases =>
    pure_then (giver_onExpression value selector) (pure_then (giver_onCases nesting.inSwitch cases) rfl)
  | .tryCatch body catches none =>
    pure_then (giver_onStatements nesting body) (pure_then (giver_onCatches nesting catches) rfl)
  | .tryCatch body catches (some finalizer) =>
    pure_then (giver_onStatements nesting body)
      (pure_then (giver_onCatches nesting catches)
        (pure_then (pure_given (giver_onStatements nesting finalizer)) rfl))
  | .synchronized lock body =>
    pure_then (giver_onExpression value lock) (pure_then (giver_onStatements nesting body) rfl)
  | .labeled label body => pure_then (giver_onStatement (nesting.inLabel label) body) rfl
  | .returns none => rfl
  | .returns (some given) => pure_then (pure_given (giver_onExpression value given)) rfl
  | .throws thrown => pure_then (giver_onExpression value thrown) rfl
  | .returnsDefault | .breaks _ | .continues _ | .localType _ | .empty | .verbatim _ => rfl

theorem giver_onStatements (nesting : Nesting) : (body : List Statement) →
    (giver value).onStatements () body = pure (reviseAll (fun _ => giveBack value) nesting body)
  | [] => rfl
  | s :: rest => pure_then (giver_onStatement nesting s) (pure_then (giver_onStatements nesting rest) rfl)

private theorem giver_onCases (nesting : Nesting) : (cases : List SwitchCase) →
    (giver value).onCases () cases = pure (reviseCases (fun _ => giveBack value) nesting cases)
  | [] => rfl
  | ⟨none, body⟩ :: rest =>
    pure_then rfl (pure_then (giver_onStatements nesting body) (pure_then (giver_onCases nesting rest) rfl))
  | ⟨some label, body⟩ :: rest =>
    pure_then (pure_given (giver_onExpression value label))
      (pure_then (giver_onStatements nesting body) (pure_then (giver_onCases nesting rest) rfl))

private theorem giver_onCatches (nesting : Nesting) : (catches : List CatchClause) →
    (giver value).onCatches () catches = pure (reviseCatches (fun _ => giveBack value) nesting catches)
  | [] => rfl
  | ⟨_, body⟩ :: rest =>
    pure_then (giver_onStatements nesting body) (pure_then (giver_onCatches nesting rest) rfl)

end

theorem returnValue_eq (body : List Statement) :
    returnValue value body = reviseAll (fun _ => giveBack value) {} body :=
  giver_onStatements value {} body

end Giver

section Bodies

variable {self : Option Address} {value : Expression} {given : Value} {meaning : Meaning} {targets : Targets}
  {fuel : Nat}

/-- What the runs take for granted: wherever code of the object runs, the value is there. -/
structure Supplies (meaning : Meaning) (object : Option Address) (value : Expression) (given : Value) : Prop where
  framed : meaning.Framed fun _ _ => True
  finish : meaning.finish = ensuring
  eval : ∀ point : Point, point.1.self = object → outcome (meaning.eval value) point = (.ok given, point)

/-- A statement that is left as it is follows itself, if it ends in no return. -/
theorem Follow.same {s : Statement} {label : Option String} (framed : meaning.Framed fun _ _ => True)
    (promises : Promises (fun flow => targets.Allows flow ∧ flow = giving given flow) (exec meaning fuel label s)) :
    Follow self given targets (exec meaning fuel label s) (exec meaning fuel label s) := by
  have moves (point : Point) : Moves (fun _ _ => True) 1 (exec meaning fuel label s) point :=
    (exec_moves framed fuel label point s).mono (reach_le s)
  rintro point _ ⟨rfl, here⟩
  have itself : Together self (Paired (At self) Eq) (exec meaning fuel label s) (exec meaning fuel label s) :=
    tied_self moves
  have tied := itself point point ⟨rfl, here⟩
  rcases ended : outcome (exec meaning fuel label s) point with ⟨unwind | flow, after⟩ <;> rw [ended] at tied
  · exact tied
  · exact ⟨tied.1, promises point flow after ended⟩

/-- The labels of a switch without their statements. -/
def labelsOnly (cases : List SwitchCase) : List SwitchCase := cases.map fun group => ⟨group.label, []⟩

theorem labeledCase?_labelsOnly (meaning : Meaning) (selector : Value) (place : Nat) (cases : List SwitchCase) :
    labeledCase? meaning selector place cases = labeledCase? meaning selector place (labelsOnly cases) := by
  induction cases generalizing place with
  | nil => rfl
  | cons group rest ih =>
    obtain ⟨_ | label, body⟩ := group
    · simpa [labelsOnly, labeledCase?] using ih (place + 1)
    · simp only [labelsOnly, List.map_cons, labeledCase?]
      rw [ih (place + 1)]
      rfl

/-- Which group of a switch is run first depends on its labels only. -/
theorem firstCase?_labelsOnly (meaning : Meaning) (selector : Value) (cases : List SwitchCase) :
    firstCase? meaning selector cases = firstCase? meaning selector (labelsOnly cases) := by
  simp only [firstCase?]
  rw [labeledCase?_labelsOnly]
  simp [labelsOnly, List.findIdx?_map, Function.comp_def]

/-- Which group is run first does not depend on what the groups do. -/
theorem firstCase_revise (selector : Value) (nesting : Nesting) (cases : List SwitchCase) :
    firstCase? meaning selector (reviseCases (fun _ => giveBack value) nesting cases) =
      firstCase? meaning selector cases := by
  have labels (cases : List SwitchCase) :
      labelsOnly (reviseCases (fun _ => giveBack value) nesting cases) = labelsOnly cases := by
    induction cases with
    | nil => rfl
    | cons group rest inductionHypothesis =>
      obtain ⟨label, body⟩ := group
      exact congrArg (⟨label, []⟩ :: ·) inductionHypothesis
  rw [firstCase?_labelsOnly, labels, ← firstCase?_labelsOnly]

theorem Follow.iterate (framed : meaning.Framed fun _ _ => True) (item : LocalVariable) (iterable : Expression)
    {pass pass' : Code (Option Flow)}
    (passes : Together self (Passing (At self) (Gives self given targets)) pass pass') :
    Follow self given targets (iterate meaning fuel item iterable pass) (iterate meaning fuel item iterable pass') := by
  have passesWith (value : Value) :
      Together self (Passing (At self) (Gives self given targets))
        (do modifyFrame (.declare item.name (coerce item.type value)); pass)
        (do modifyFrame (.declare item.name (coerce item.type value)); pass') := by
    refine tied_bind (tied_self fun _ => .declare ..) fun _ _ => ?_
    rintro a b ⟨here, _⟩
    exact passes a b here
  refine .after (framed.eval iterable 1) fun source => ?_
  refine .after (fun _ => .lift (keeps_nonNull source)) fun source => ?_
  refine .after (fun _ => .lift keeps_heap) fun heap => ?_
  dsimp only
  split
  · exact tied_repeatEach _ passesWith fun _ _ here => ⟨here, trivial, rfl⟩
  · refine .after (framed.call source _ _ 1) fun iterator => ?_
    refine .repeatWhile (fun point => (framed.call ..).truth) ?_ fuel
    refine tied_bind (tied_self (framed.call iterator _ _ 1)) fun value value' => ?_
    rintro a b ⟨here, rfl⟩
    exact passesWith value a b here

mutual

/-- A statement whose plain returns give back a value follows the statement without. -/
theorem exec_follow (supplies : Supplies meaning self value given) (nesting : Nesting) (targets : Targets)
    (label : Option String) : (s : Statement) → contained targets label s = true →
    Follow self given targets (exec meaning fuel label s)
      (exec meaning fuel label (revise (fun _ => giveBack value) nesting s))
  | .block body, inside => (execAll_follow supplies nesting targets body inside).inScope
  | .expression e, _ => .after (fun point => (supplies.framed.eval e 1 point).discard) fun _ => .normal
  | .declare decl, _ => .after (fun _ => supplies.framed.declareLocal decl) fun _ => .normal
  | .ifElse condition whenTrue none, inside => by
    have inside := Bool.and_eq_true_iff.mp inside
    refine .after (fun point => (supplies.framed.eval condition 1 point).truth) fun holds => ?_
    split
    · exact exec_follow supplies nesting targets none whenTrue inside.1
    · exact .normal
  | .ifElse condition whenTrue (some whenFalse), inside => by
    have inside := Bool.and_eq_true_iff.mp inside
    refine .after (fun point => (supplies.framed.eval condition 1 point).truth) fun holds => ?_
    split
    · exact exec_follow supplies nesting targets none whenTrue inside.1
    · exact exec_follow supplies nesting targets none whenFalse inside.2
  | .whileLoop condition body, inside => by
    have pass := exec_follow supplies nesting.inLoop (targets.inLoop label) none body inside
    exact (Follow.repeatWhile (fun point => (supplies.framed.eval condition 1 point).truth) pass.passes fuel).inScope
  | .doWhile body condition, inside => by
    have pass := exec_follow supplies nesting.inLoop (targets.inLoop label) none body inside
    refine Follow.inScope (pass.thenPass (fun _ _ _ _ => id) ?_)
    exact Follow.repeatWhile (fun point => (supplies.framed.eval condition 1 point).truth) pass.passes fuel
  | .forLoop start condition update body, inside => by
    have inside := Bool.and_eq_true_iff.mp inside
    have pass := exec_follow supplies nesting.inLoop (targets.inLoop label) none body inside.2
    have updates (point : Point) :
        Moves (fun _ _ => True) 1 (update.forM fun e => discard (meaning.eval e)) point :=
      .forM fun e _ point => (supplies.framed.eval e 1 point).discard
    refine Follow.inScope (tied_bind (execStart_follow supplies nesting.inLoop _ start inside.1) fun _ _ => ?_)
    refine Follow.repeatWhile (fun point => ?_) (pass.thenPass (fun _ _ _ _ => id) ?_) fuel
    · cases condition with
      | some condition => exact (supplies.framed.eval condition 1 point).truth
      | none => exact .pure _
    · refine tied_bind (tied_self updates) fun _ _ => ?_
      rintro a b ⟨here, _⟩
      exact here
  | .forEach item iterable body, inside => by
    have pass := exec_follow supplies nesting.inLoop (targets.inLoop label) none body inside
    exact (Follow.iterate supplies.framed item iterable pass.passes).inScope
  | .switch selector cases, inside => by
    refine .after (supplies.framed.eval selector 1) fun selector => ?_
    refine .after (fun _ => .lift (keeps_nonNull selector)) fun selector => ?_
    rw [firstCase_revise]
    refine .after (fun _ => supplies.framed.firstCase selector cases) fun first => ?_
    split
    · exact (execCases_follow supplies nesting.inSwitch targets _ cases inside).inScope
    · exact .normal
  | .tryCatch body catches none, inside => by
    obtain ⟨parts, _⟩ := Bool.and_eq_true_iff.mp inside
    have parts := Bool.and_eq_true_iff.mp parts
    exact (execAll_follow supplies nesting targets body parts.1).inScope.guarded fun thrown =>
      execCatches_follow supplies nesting targets thrown catches parts.2
  | .tryCatch body catches (some finalizer), inside => by
    obtain ⟨parts, last⟩ := Bool.and_eq_true_iff.mp inside
    have parts := Bool.and_eq_true_iff.mp parts
    change Follow _ _ _ (meaning.finish _ _) (meaning.finish _ _)
    rw [supplies.finish]
    refine .ensuring ?_ (execAll_follow supplies nesting targets finalizer last).inScope
    exact (execAll_follow supplies nesting targets body parts.1).inScope.guarded fun thrown =>
      execCatches_follow supplies nesting targets thrown catches parts.2
  | .synchronized lock body, inside => by
    refine .after (supplies.framed.eval lock 1) fun lock => ?_
    refine .after (fun _ => (Moves.lift (keeps_nonNull lock)).discard) fun _ => ?_
    exact (execAll_follow supplies nesting targets body inside).inScope
  | .labeled own body, inside =>
    (exec_follow supplies (nesting.inLabel own) (targets.inLabel own) (some own) body inside).label
  | .returns none, _ => by
    rintro point _ ⟨rfl, here⟩
    change Matched _ _ _ (outcome (Flow.returns <$> meaning.eval value) point)
    rw [outcome_map, supplies.eval point here, proceed_ok]
    exact ⟨⟨rfl, here⟩, rfl, rfl⟩
  | .returns (some _), inside | .returnsDefault, inside => by cases inside
  | .throws thrown, _ => by
    refine .same supplies.framed ?_
    exact .bind .any fun _ _ => .bind .any fun _ _ => .throw
  | .breaks none, inside | .continues none, inside => .flow inside rfl
  | .breaks (some label), inside | .continues (some label), inside => .flow (List.contains_iff_mem.mp inside) rfl
  | .localType decl, _ => by
    refine .same supplies.framed ?_
    exact .bind .any fun _ _ => .pure ⟨trivial, rfl⟩
  | .empty, _ => .normal
  | .verbatim text, _ => .same supplies.framed fun _ _ _ ends => by cases ends

theorem execAll_follow (supplies : Supplies meaning self value given) (nesting : Nesting) (targets : Targets) :
    (body : List Statement) → containedAll targets body = true →
    Follow self given targets (execAll meaning fuel body)
      (execAll meaning fuel (reviseAll (fun _ => giveBack value) nesting body))
  | [], _ => .normal
  | s :: rest, inside => by
    have inside := Bool.and_eq_true_iff.mp inside
    refine tied_bind (exec_follow supplies nesting targets none s inside.1) fun f g => ?_
    rintro a b ⟨here, allowed, rfl⟩
    cases f with
    | normal => exact execAll_follow supplies nesting targets rest inside.2 a b here
    | _ => exact ⟨here, allowed, rfl⟩

theorem execStart_follow (supplies : Supplies meaning self value given) (nesting : Nesting) (targets : Targets) :
    (start : List Statement) → containedAll targets start = true →
    Together self (fun _ _ => At self) (execStart meaning fuel start)
      (execStart meaning fuel (reviseAll (fun _ => giveBack value) nesting start))
  | [], _ => tied_pure fun _ _ => id
  | s :: rest, inside => by
    have inside := Bool.and_eq_true_iff.mp inside
    have first := tied_discard (exec_follow supplies nesting targets none s inside.1) fun _ _ _ _ ended => ended.1
    exact tied_bind first fun _ _ => execStart_follow supplies nesting targets rest inside.2

theorem execCases_follow (supplies : Supplies meaning self value given) (nesting : Nesting) (targets : Targets)
    (first : Nat) : (cases : List SwitchCase) → containedCases targets.inSwitch cases = true →
    Follow self given targets (execCases meaning fuel first cases)
      (execCases meaning fuel first (reviseCases (fun _ => giveBack value) nesting cases))
  | [], _ => by cases first <;> exact .normal
  | ⟨_, body⟩ :: rest, inside => by
    have inside := Bool.and_eq_true_iff.mp inside
    cases first with
    | succ first => exact execCases_follow supplies nesting targets first rest inside.2
    | zero =>
      refine tied_bind (execAll_follow supplies nesting targets.inSwitch body inside.1) fun f g => ?_
      rintro a b ⟨here, allowed, rfl⟩
      match f with
      | .normal => exact execCases_follow supplies nesting targets 0 rest inside.2 a b here
      | .breaks none => exact ⟨here, trivial, rfl⟩
      | .breaks (some _) | .continues none | .continues (some _) | .returns _ => exact ⟨here, allowed, rfl⟩

theorem execCatches_follow (supplies : Supplies meaning self value given) (nesting : Nesting) (targets : Targets)
    (thrown : Value) : (catches : List CatchClause) → containedCatches targets catches = true →
    Follow self given targets (execCatches meaning fuel thrown catches)
      (execCatches meaning fuel thrown (reviseCatches (fun _ => giveBack value) nesting catches))
  | [], _ => tied_throw fun _ _ here => ⟨here, rfl⟩
  | ⟨parameter, body⟩ :: rest, inside => by
    have inside := Bool.and_eq_true_iff.mp inside
    refine .after (fun _ => .readWorld) fun world => ?_
    split
    · exact (Follow.after (fun _ => .declare ..) fun _ => execAll_follow supplies nesting targets body inside.1).inScope
    · exact execCatches_follow supplies nesting targets thrown rest inside.2

end

theorem completesNormally_eq (body : List Statement) : completesNormally body = !(Statement.block body).isTerminal := by
  induction body with
  | nil => rfl
  | cons s rest inductionHypothesis =>
    cases rest with
    | nil => rfl
    | cons next rest => exact inductionHypothesis

mutual

/-- Control never continues behind a terminal statement. -/
theorem exec_terminal (meaning : Meaning) (fuel : Nat) (label : Option String) : (s : Statement) →
    s.isTerminal = true → Promises (· ≠ .normal) (exec meaning fuel label s)
  | .block body, terminal => (execAll_terminal meaning fuel body terminal).inScope
  | .returns none, _ => .pure (by simp)
  | .returns (some value), _ => Promises.any.map fun _ _ => by simp
  | .returnsDefault, _ => .bind .any fun _ _ => .pure (by simp)
  | .throws _, _ => .bind .any fun _ _ => .bind .any fun _ _ => .throw
  | .breaks _, _ | .continues _, _ => .pure (by simp)

theorem execAll_terminal (meaning : Meaning) (fuel : Nat) : (body : List Statement) →
    (Statement.block body).isTerminal = true → Promises (· ≠ .normal) (execAll meaning fuel body)
  | [s], terminal => by
    rw [execAll_single]
    exact exec_terminal meaning fuel none s terminal
  | s :: next :: rest, terminal => by
    refine Promises.bind .any fun flow _ => ?_
    split
    · exact execAll_terminal meaning fuel (next :: rest) terminal
    · exact .pure ‹_›

end

/-- A body made to return a value. -/
def returning (value : Expression) (body : List Statement) : List Statement :=
  let given := returnValue value body
  if completesNormally given then given ++ [.returns (some value)] else given

theorem extensionStep_body (plan : BuilderPlan) (extension : Extension) :
    (plan.extensionStep extension).body = returning .self extension.method.body := rfl

theorem actionBody_void {owner : String} {method : Method} (void : method.returnType.isVoid = true) :
    actionBody owner method =
      returning .null (if method.isStatic then method.body else qualifySelf owner method.body) := if_pos void

/-- What `null` and `this` stand for in code that runs on an object or on none. -/
inductive Stands : Option Address → Expression → Value → Prop
  | null {object : Option Address} : Stands object .null .null
  | self {address : Address} : Stands (some address) .self (.ref address)

theorem Stands.supplies {object : Option Address} (perform : Performer) (stands : Stands object value given) :
    Supplies (.ofPerformer perform) object value given where
  framed := .anyWorld perform
  finish := rfl
  eval point here := by
    obtain ⟨⟨type, object, returnType, scopes⟩, world⟩ := point
    cases here
    cases stands <;> rfl

/-- The appended return takes the runs that come to the end of the body. -/
theorem outcome_execAll_returning (supplies : Supplies meaning self value given) {point : Point}
    (here : point.1.self = self) (body : List Statement) :
    outcome (execAll meaning fuel (returning value body)) point =
      andThen (outcome (execAll meaning fuel (returnValue value body)) point) fun after =>
        (.ok (.returns given), after) := by
  have stays := (execAll_moves supplies.framed fuel point (returnValue value body)).frame.self.trans here
  rw [returning]
  split
  · rw [outcome_execAll_append]
    rcases ended : outcome (execAll meaning fuel (returnValue value body)) point with ⟨unwind | flow, after⟩
    · rfl
    · rw [ended] at stays
      cases flow with
      | normal =>
        rw [andThen_normal, andThen_normal, outcome_execAll_single]
        simp only [exec_returns, outcome_map, supplies.eval after stays, proceed_ok]
      | _ => rfl
  · next closed =>
    rw [completesNormally_eq, Bool.not_eq_true', Bool.not_eq_false] at closed
    rcases ended : outcome (execAll meaning fuel (returnValue value body)) point with ⟨unwind | flow, after⟩
    · rfl
    · exact (andThen_abrupt (execAll_terminal meaning fuel _ closed point flow after ended) after _).symm

/-- A body that is made to return a value gives it back wherever it came to its end or returned before, at the same
point. What it threw, what failed and what took too long stay. -/
theorem outcome_returning {perform : Performer} {body : List Statement} {point : Point}
    (inside : containedAll {} body = true) (stands : Stands point.1.self value given) :
    outcome (runAll perform fuel (returning value body)) point =
        ((outcome (runAll perform fuel body) point).1.map fun _ => .returns given,
          (outcome (runAll perform fuel body) point).2) ∧
      ∀ flow, (outcome (runAll perform fuel body) point).1 = .ok flow → flow = .normal ∨ flow = .returns .null := by
  have supplies := stands.supplies perform
  have follows : Follow point.1.self given {} (execAll (.ofPerformer perform) fuel body) _ :=
    execAll_follow supplies {} {} body inside
  have follow := follows point point ⟨rfl, rfl⟩
  rw [← returnValue_eq] at follow
  rw [runAll, runAll, outcome_execAll_returning supplies rfl]
  rcases ended : outcome (execAll (.ofPerformer perform) fuel body) point with ⟨unwind | flow, after⟩ <;>
    rw [ended] at follow
  · obtain ⟨_, _, ended', ⟨rfl, _⟩, rfl⟩ := follow.of_error
    rw [ended']
    exact ⟨rfl, fun _ impossible => by cases impossible⟩
  · obtain ⟨_, _, ended', ⟨rfl, _⟩, allowed, rfl⟩ := follow.of_ok
    rw [ended']
    rcases flow with _ | (_ | _) | (_ | _) | _
    · exact ⟨rfl, fun _ same => .inl (Except.ok.inj same).symm⟩
    · cases allowed
    · cases allowed
    · cases allowed
    · cases allowed
    · cases allowed
      exact ⟨rfl, fun _ same => .inr (Except.ok.inj same).symm⟩

/-- A loop around a return that a finalizer overrides, and a block that is left by its label or returns. -/
def overridden : List Statement :=
  [.whileLoop (.bool true) (.tryCatch [.returns none] [] (some [.breaks none])),
    .labeled "out" (.block [.whenever (.bool false) (.breaks (some "out")), .returns none])]

theorem outcome_returning_overridden :
    let perform : Performer := fun _ => throw .outOfFuel
    let point : Point := ({ type := ⟨0⟩, self := some ⟨0⟩ }, {})
    containedAll {} overridden = true ∧ Stands point.1.self .self (.ref ⟨0⟩) ∧
      outcome (runAll perform 2 overridden) point = (.ok (.returns .null), point) ∧
        outcome (runAll perform 2 (returning .self overridden)) point = (.ok (.returns (.ref ⟨0⟩)), point) := by
  intro perform point
  have inside : containedAll {} overridden = true := rfl
  have stands : Stands point.1.self .self (.ref ⟨0⟩) := .self
  have ran : outcome (runAll perform 2 overridden) point = (.ok (.returns .null), point) := rfl
  refine ⟨inside, stands, ran, ?_⟩
  rw [(outcome_returning inside stands).1, ran]
  rfl

end Bodies

end JavaWeave.Weave.Returning
