import JavaWeave.Proofs.Generator.Parts
import JavaWeave.Proofs.Syntax.Straight

/-! What is written for a machine: the jumps that leave a carried statement, in which its leaves are replaced and
nothing else, and the statements of operations and states, apart from the question whether the label of the loop is
needed. -/

namespace JavaWeave.Generator

open Syntax Reviser

/-- The transfer in place of a jump. -/
def transfer (numbering : Numbering) (nesting : Nesting) (route : Route) : Statement :=
  .block (followRoute numbering route ++ [.continues (if nesting.loops then some loopLabel else none)])

/-- What is written for a leaf of a carried statement. -/
def leaveFrom (numbering : Numbering) (exits : Exits) (nesting : Nesting) (leaf : Leaf) : Statement :=
  match exitRoute? exits nesting leaf.statement with
  | some route => transfer numbering nesting route
  | none => leaf.statement

/-- Whether a leaf is a jump that needs the label of the loop over states. -/
def namesLoop (exits : Exits) (leaf : Nesting × Leaf) : Bool :=
  leaf.1.loops && (exitRoute? exits leaf.1 leaf.2.statement).isSome

section

variable {α β : Type}

/-- Steps of writing that give a result and may find that the label of the loop is needed. -/
def noting (result : α) (needed : Bool) : Lowering α := fun labeled => (result, labeled || needed)

theorem noting_then {x : α} {y : β} {needed : Bool} {next : α → Lowering β} (onward : next x = pure y) :
    noting x needed >>= next = noting y needed := by
  funext labeled
  change next x (labeled || needed) = _
  rw [onward]
  rfl

theorem noting_bind {x : α} {y : β} {needed needed' : Bool} {next : α → Lowering β}
    (onward : next x = noting y needed') : noting x needed >>= next = noting y (needed || needed') := by
  funext labeled
  change next x (labeled || needed) = _
  simp [onward, noting, Bool.or_assoc]

theorem pure_eq_noting (x : α) : (pure x : Lowering α) = noting x false := by
  funext labeled
  exact congrArg (Prod.mk x) (Bool.or_false labeled).symm

private theorem noted_then {steps : Lowering α} {x : α} {y : β} {needed : Bool} {next : α → Lowering β}
    (first : steps = noting x needed) (onward : next x = pure y) : steps >>= next = noting y needed := by
  rw [first, noting_then onward]

private theorem noted_bind {steps : Lowering α} {x : α} {y : β} {needed needed' all : Bool} {next : α → Lowering β}
    (first : steps = noting x needed) (onward : next x = noting y needed') (together : (needed || needed') = all) :
    steps >>= next = noting y all := by
  rw [first, noting_bind onward, together]

private theorem noted_given {steps : Lowering α} {x : α} {needed : Bool} (first : steps = noting x needed) :
    some <$> steps = noting (some x) needed := by
  rw [first]
  rfl

end

section

variable (numbering : Numbering) (exits : Exits)

private theorem exitReviser_leaves : (exitReviser numbering exits).LeavesExpressions := ⟨fun _ _ => rfl, rfl⟩

private theorem exitReviser_onExpression (nesting : Nesting) (e : Expression) :
    (exitReviser numbering exits).onExpression nesting e = pure e :=
  onExpression_left (exitReviser_leaves numbering exits) nesting e

private theorem exitReviser_onExpressions (nesting : Nesting) (es : List Expression) :
    (exitReviser numbering exits).onExpressions nesting es = pure es :=
  onExpressions_left (exitReviser_leaves numbering exits) nesting es

private theorem exitReviser_onLocal (nesting : Nesting) (decl : LocalVariable) :
    (exitReviser numbering exits).onLocal nesting decl = pure decl :=
  onLocal_left (exitReviser_leaves numbering exits) nesting decl

private theorem leaveBy_eq (nesting : Nesting) (route : Route) :
    leaveBy numbering route nesting.loops = noting (transfer numbering nesting route) nesting.loops := by
  unfold transfer
  cases nesting.loops with
  | false => exact pure_eq_noting _
  | true =>
    funext labeled
    exact congrArg (Prod.mk _) (Bool.or_true labeled).symm

private theorem exitReviser_leaf (nesting : Nesting) (leaf : Leaf) :
    (exitReviser numbering exits).statement nesting leaf.statement =
      noting (leaveFrom numbering exits nesting leaf) (namesLoop exits (nesting, leaf)) := by
  simp only [exitReviser, leaveFrom, namesLoop]
  cases exitRoute? exits nesting leaf.statement with
  | none =>
    rw [Option.isSome_none, Bool.and_false]
    exact pure_eq_noting _
  | some route =>
    rw [Option.isSome_some, Bool.and_true]
    exact leaveBy_eq numbering nesting route

private theorem any_append_append {α : Type} (xs ys zs : List α) (p : α → Bool) :
    (xs.any p || (ys.any p || zs.any p)) = (xs ++ ys ++ zs).any p := by
  rw [List.any_append, List.any_append, Bool.or_assoc]

/-- A leaf is the only leaf in itself. -/
private theorem noting_leaf {nesting : Nesting} (leaf : Leaf) :
    noting (leaveFrom numbering exits nesting leaf) (namesLoop exits (nesting, leaf)) =
      noting (leaveFrom numbering exits nesting leaf) ([(nesting, leaf)].any (namesLoop exits)) :=
  congrArg (noting _) (Bool.or_false _).symm

mutual

/-- A carried statement as it is written: each leaf is replaced, and the label of the loop over states is needed
where a leaf inside a loop leaves the statement. -/
theorem exitReviser_onStatement (nesting : Nesting) : (s : Statement) →
    (exitReviser numbering exits).onStatement nesting s =
      noting (revise (leaveFrom numbering exits) nesting s) ((leavesIn nesting s).any (namesLoop exits))
  | .block body => noted_then (exitReviser_onStatements nesting body) rfl
  | .expression e => pure_then (exitReviser_onExpression numbering exits nesting e) (pure_eq_noting _)
  | .declare decl => pure_then (exitReviser_onLocal numbering exits nesting decl) (pure_eq_noting _)
  | .ifElse condition whenTrue none =>
    pure_then (exitReviser_onExpression numbering exits nesting condition)
      (noted_bind (exitReviser_onStatement nesting whenTrue) (pure_eq_noting _)
        ((Bool.or_false _).trans (congrArg (List.any · _) (List.append_nil _).symm)))
  | .ifElse condition whenTrue (some whenFalse) =>
    pure_then (exitReviser_onExpression numbering exits nesting condition)
      (noted_bind (exitReviser_onStatement nesting whenTrue)
        (noted_then (noted_given (exitReviser_onStatement nesting whenFalse)) rfl) List.any_append.symm)
  | .whileLoop condition body =>
    pure_then (exitReviser_onExpression numbering exits nesting.inLoop condition)
      (noted_then (exitReviser_onStatement nesting.inLoop body) rfl)
  | .doWhile body condition =>
    noted_then (exitReviser_onStatement nesting.inLoop body)
      (pure_then (exitReviser_onExpression numbering exits nesting.inLoop condition) rfl)
  | .forLoop start none update body =>
    noted_bind (exitReviser_onStatements nesting.inLoop start)
      (pure_then rfl (pure_then (exitReviser_onExpressions numbering exits nesting.inLoop update)
        (noted_then (exitReviser_onStatement nesting.inLoop body) rfl))) List.any_append.symm
  | .forLoop start (some condition) update body =>
    noted_bind (exitReviser_onStatements nesting.inLoop start)
      (pure_then (pure_given (exitReviser_onExpression numbering exits nesting.inLoop condition))
        (pure_then (exitReviser_onExpressions numbering exits nesting.inLoop update)
          (noted_then (exitReviser_onStatement nesting.inLoop body) rfl))) List.any_append.symm
  | .forEach item iterable body =>
    pure_then (exitReviser_onLocal numbering exits nesting.inLoop item)
      (pure_then (exitReviser_onExpression numbering exits nesting.inLoop iterable)
        (noted_then (exitReviser_onStatement nesting.inLoop body) rfl))
  | .switch selector cases =>
    pure_then (exitReviser_onExpression numbering exits nesting.inSwitch selector)
      (noted_then (exitReviser_onCases nesting.inSwitch cases) rfl)
  | .tryCatch body catches none =>
    noted_bind (exitReviser_onStatements nesting body)
      (noted_bind (exitReviser_onCatches nesting catches) (pure_eq_noting _) rfl) (any_append_append _ _ [] _)
  | .tryCatch body catches (some finalizer) =>
    noted_bind (exitReviser_onStatements nesting body)
      (noted_bind (exitReviser_onCatches nesting catches)
        (noted_then (noted_given (exitReviser_onStatements nesting finalizer)) rfl) rfl)
      (any_append_append _ _ _ _)
  | .synchronized lock body =>
    pure_then (exitReviser_onExpression numbering exits nesting lock)
      (noted_then (exitReviser_onStatements nesting body) rfl)
  | .labeled label body => noted_then (exitReviser_onStatement (nesting.inLabel label) body) rfl
  | .returns none => (exitReviser_leaf numbering exits nesting (.returns none)).trans (noting_leaf numbering exits _)
  | .returns (some value) =>
    pure_then (pure_given (exitReviser_onExpression numbering exits nesting value))
      ((exitReviser_leaf numbering exits nesting (.returns (some value))).trans (noting_leaf numbering exits _))
  | .throws value =>
    pure_then (exitReviser_onExpression numbering exits nesting value)
      ((exitReviser_leaf numbering exits nesting (.throws value)).trans (noting_leaf numbering exits _))
  | .localType type =>
    (exitReviser_leaf numbering exits nesting (.localType type)).trans (noting_leaf numbering exits _)
  | .returnsDefault =>
    (exitReviser_leaf numbering exits nesting .returnsDefault).trans (noting_leaf numbering exits _)
  | .breaks label =>
    (exitReviser_leaf numbering exits nesting (.breaks label)).trans (noting_leaf numbering exits _)
  | .continues label =>
    (exitReviser_leaf numbering exits nesting (.continues label)).trans (noting_leaf numbering exits _)
  | .empty => pure_eq_noting _
  | .verbatim text =>
    (exitReviser_leaf numbering exits nesting (.verbatim text)).trans (noting_leaf numbering exits _)

private theorem exitReviser_onStatements (nesting : Nesting) : (body : List Statement) →
    (exitReviser numbering exits).onStatements nesting body =
      noting (reviseAll (leaveFrom numbering exits) nesting body)
        ((leavesInAll nesting body).any (namesLoop exits))
  | [] => pure_eq_noting _
  | s :: rest =>
    noted_bind (exitReviser_onStatement nesting s) (noted_then (exitReviser_onStatements nesting rest) rfl)
      List.any_append.symm

private theorem exitReviser_onCases (nesting : Nesting) : (cases : List SwitchCase) →
    (exitReviser numbering exits).onCases nesting cases =
      noting (reviseCases (leaveFrom numbering exits) nesting cases)
        ((leavesInCases nesting cases).any (namesLoop exits))
  | [] => pure_eq_noting _
  | ⟨none, body⟩ :: rest =>
    pure_then rfl (noted_bind (exitReviser_onStatements nesting body)
      (noted_then (exitReviser_onCases nesting rest) rfl) List.any_append.symm)
  | ⟨some label, body⟩ :: rest =>
    pure_then (pure_given (exitReviser_onExpression numbering exits nesting label))
      (noted_bind (exitReviser_onStatements nesting body) (noted_then (exitReviser_onCases nesting rest) rfl)
        List.any_append.symm)

private theorem exitReviser_onCatches (nesting : Nesting) : (catches : List CatchClause) →
    (exitReviser numbering exits).onCatches nesting catches =
      noting (reviseCatches (leaveFrom numbering exits) nesting catches)
        ((leavesInCatches nesting catches).any (namesLoop exits))
  | [] => pure_eq_noting _
  | ⟨_, body⟩ :: rest =>
    noted_bind (exitReviser_onStatements nesting body) (noted_then (exitReviser_onCatches nesting rest) rfl)
      List.any_append.symm

end

end

mutual

/-- The statements of an operation. -/
def writeOp (numbering : Numbering) (next : Option Nat) : Op → List Statement
  | .code statement => [statement]
  | .leaving statement exits => [revise (leaveFrom numbering exits) {} statement]
  | .branch condition ops => [.whenever condition (.block (writeOps numbering none ops))]
  | .jump route =>
    followRoute numbering route
      ++ if next.map Target.state == some route.target then [] else [.continues none]
  | .yield value resume =>
    [assignName elementName value, setState numbering resume, .returns (some (.bool true))]
  | .dispatch selector arms =>
    [.switch selector (arms.map fun (label, target) =>
      ⟨label, [setState numbering target, .continues none]⟩)]
  | .endFinalizer region => lowerEndFinalizer region

def writeOps (numbering : Numbering) (next : Option Nat) : List Op → List Statement
  | [] => []
  | op :: rest => writeOp numbering (if rest.isEmpty then next else none) op ++ writeOps numbering next rest

end

mutual

/-- Whether an operation is written with the label of the loop over states. -/
def namesLoopIn : Op → Bool
  | .leaving statement exits => (leavesIn {} statement).any (namesLoop exits)
  | .branch _ ops => anyNamesLoop ops
  | .code _ | .jump _ | .yield .. | .dispatch .. | .endFinalizer _ => false

def anyNamesLoop : List Op → Bool
  | [] => false
  | op :: rest => namesLoopIn op || anyNamesLoop rest

end

mutual

private theorem lowerOp_eq (numbering : Numbering) (next : Option Nat) : (op : Op) →
    lowerOp numbering next op = noting (writeOp numbering next op) (namesLoopIn op)
  | .code _ => pure_eq_noting _
  | .leaving statement exits => by
    rw [lowerOp, exitReviser_onStatement]
    exact noting_then rfl
  | .branch condition ops => by
    rw [lowerOp, lowerOps_eq numbering none ops]
    exact noting_then rfl
  | .jump _ => pure_eq_noting _
  | .yield .. => pure_eq_noting _
  | .dispatch .. => pure_eq_noting _
  | .endFinalizer _ => pure_eq_noting _

private theorem lowerOps_eq (numbering : Numbering) (next : Option Nat) : (ops : List Op) →
    lowerOps numbering next ops = noting (writeOps numbering next ops) (anyNamesLoop ops)
  | [] => pure_eq_noting _
  | op :: rest => by
    rw [lowerOps, lowerOp_eq numbering _ op, lowerOps_eq numbering next rest]
    exact noting_bind (noting_then rfl)

end

variable (machine : Machine) (numbering : Numbering)

/-- The state that control may run on into from the first of the given ones. -/
def Machine.following (rest : List Nat) : Option Nat := if machine.fallsThrough then rest.head? else none

/-- The statements of the first of the given states. -/
def stateBody (id : Nat) (rest : List Nat) : List Statement :=
  writeOps numbering (machine.following rest) (machine.state id).ops

/-- The groups of the switch over states. -/
def stateGroups : List Nat → List SwitchCase
  | [] => []
  | id :: rest => ⟨some (numbering.literal (.state id)), stateBody machine numbering id rest⟩ :: stateGroups rest

private theorem lowerStates_eq (ids : List Nat) :
    lowerStates machine numbering ids =
      noting (stateGroups machine numbering ids) (ids.any fun id => anyNamesLoop (machine.state id).ops) := by
  induction ids with
  | nil => exact pure_eq_noting _
  | cons id rest ih =>
    rw [lowerStates, lowerOps_eq, ih]
    exact noting_bind (noting_then rfl)

/-- Whether the loop over states has a label. -/
def Machine.isLabeled : Bool := machine.layout.any fun id => anyNamesLoop (machine.state id).ops

/-- The switch over states. -/
def stateSwitch : Statement :=
  .switch (.name stateName)
    (stateGroups machine numbering machine.layout ++ [⟨none, [.returns (some (.bool false))]⟩])

/-- The assignment that asks where an exception is handled. -/
def handlerUpdate : Expression := .set (.name stateName) (.callOwn "getErrorHandler" [.name caughtName])

/-- One round of the loop over states. -/
def stateRound : Statement :=
  .block [.tryCatch [stateSwitch machine numbering]
    [⟨.final (.named "java.lang.Throwable") caughtName, [.expression handlerUpdate]⟩] none]

theorem advanceMethod_body :
    (advanceMethod machine numbering).body =
      [if machine.isLabeled then
          .labeled loopLabel (.whileLoop (.bool true) (stateRound machine numbering))
        else .whileLoop (.bool true) (stateRound machine numbering)] := by
  simp only [advanceMethod, lowerStates_eq, StateT.run, noting, Bool.false_or]
  rfl

end JavaWeave.Generator
