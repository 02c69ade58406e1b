import JavaWeave.Interpreter.Expression

namespace JavaWeave.Interpreter

open Syntax

/-- Runs a body and then a finalizer, however the body ends. A finalizer that does not end normally decides
how both end. -/
def ensuring (body finalizer : Code Flow) : Code Flow := do
  match ← attempt body with
  | .error .outOfFuel => throw .outOfFuel
  | result =>
    match ← finalizer with
    | .normal => conclude result
    | abrupt => return abrupt

/-- What running statements takes for granted. -/
structure Meaning where
  eval : Expression → Code Value
  call : Value → String → List Value → Code Value
  /-- How a finalizer follows what it stands behind. -/
  finish : Code Flow → Code Flow → Code Flow := ensuring

/-- The loop that makes passes while a condition holds, unless a pass ends it; at most as many as there is
fuel. -/
def repeatWhile (condition : Code Bool) (pass : Code (Option Flow)) : Nat → Code Flow
  | 0 => throw .outOfFuel
  | fuel + 1 => do
    if ← condition then
      match ← pass with
      | some flow => return flow
      | none => repeatWhile condition pass fuel
    else return .normal

/-- The loop that makes a pass for each item, unless a pass ends it. -/
def repeatEach (pass : Value → Code (Option Flow)) : List Value → Code Flow
  | [] => return .normal
  | item :: rest => do
    match ← pass item with
    | some flow => return flow
    | none => repeatEach pass rest

/-- What the end of a loop's body means for the loop: it goes on, or it ends in the given way. -/
def afterPass (label : Option String) : Flow → Option Flow
  | .normal | .continues none => none
  | .breaks none => some .normal
  | .continues (some target) => if label == some target then none else some (.continues (some target))
  | .breaks (some target) => if label == some target then some .normal else some (.breaks (some target))
  | .returns value => some (.returns value)

/-- A labeled statement ends normally when a jump leaves it by its label. -/
def afterLabel (label : String) : Flow → Flow
  | .breaks (some target) => if target == label then .normal else .breaks (some target)
  | flow => flow

/-- Runs a body; a thrown value goes to the handler. -/
def guarded (body : Code Flow) (handler : Value → Code Flow) : Code Flow :=
  tryCatch body fun
    | .thrown value => handler value
    | unwind => throw unwind

/-- Whether a catch clause for a type, or for alternatives, catches a value. -/
def World.catches (world : World) (type : JavaType) (thrown : Value) : Bool :=
  (Text.split '|' type.name).any fun alternative => world.isNamed thrown (Text.strip alternative)

/-- A value that must not be null. -/
def nonNull (value : Value) : Run Value :=
  if value.isNull then raiseBare "NullPointerException" else pure value

section

variable (meaning : Meaning)

/-- Whether a label of a switch is that of a value. A constant of an enum is known by its name. -/
def matchesLabel (selector : Value) (label : Expression) : Code Bool := do
  match (← heap).constant? selector, label with
  | some (constant, _), .name name => return Names.simple name == constant
  | _, label => return selector.same (← meaning.eval label)

/-- Which group of a switch has the label of a value. -/
def labeledCase? (selector : Value) : Nat → List SwitchCase → Code (Option Nat)
  | _, [] => return none
  | index, group :: rest => do
    match group.label with
    | none => labeledCase? selector (index + 1) rest
    | some label =>
      if ← matchesLabel meaning selector label then return some index
      else labeledCase? selector (index + 1) rest

/-- Which group of a switch is run first. -/
def firstCase? (selector : Value) (cases : List SwitchCase) : Code (Option Nat) := do
  return (← labeledCase? meaning selector 0 cases).or (cases.findIdx? fun group => group.label.isNone)

/-- Declares a variable with the value of its initializer. -/
def declareLocal (decl : LocalVariable) : Code Unit := do
  let value ← match decl.initial with
    | some initial => coerce decl.type <$> meaning.eval initial
    | none => pure (.zero decl.type)
  modifyFrame (.declare decl.name value)

/-- Walks through the items of an array or list, or of what an iterator hands out. -/
def iterate (fuel : Nat) (item : LocalVariable) (iterable : Expression) (pass : Code (Option Flow)) :
    Code Flow := do
  let source ← nonNull (← meaning.eval iterable)
  let passWith (value : Value) : Code (Option Flow) := do
    modifyFrame (.declare item.name (coerce item.type value))
    pass
  match (← heap).items? source with
  | some items => repeatEach passWith items
  | none =>
    let iterator ← meaning.call source "iterator" []
    repeatWhile (truth (meaning.call iterator "hasNext" []))
      (do passWith (← meaning.call iterator "next" [])) fuel

/-- Declares a class. -/
def declareType (decl : TypeDecl) : Code Unit := do
  let id ← enterClass decl none
  modifyFrame (.declareType decl.name id)

mutual

/-- Runs a statement that stands behind a label, if there is one. -/
def exec (fuel : Nat) (label : Option String) : Statement → Code Flow
  | .block body => inScope (execAll fuel body)
  | .expression expression => do
    discard (meaning.eval expression)
    return .normal
  | .declare decl => do
    declareLocal meaning decl
    return .normal
  | .ifElse condition whenTrue whenFalse => do
    if ← truth (meaning.eval condition) then exec fuel none whenTrue
    else match whenFalse with
      | some whenFalse => exec fuel none whenFalse
      | none => return .normal
  | .whileLoop condition body =>
    inScope (repeatWhile (truth (meaning.eval condition)) (afterPass label <$> exec fuel none body) fuel)
  | .doWhile body condition =>
    inScope do
      match afterPass label (← exec fuel none body) with
      | some flow => return flow
      | none =>
        repeatWhile (truth (meaning.eval condition)) (afterPass label <$> exec fuel none body) fuel
  | .forLoop start condition update body =>
    inScope do
      execStart fuel start
      let holds := match condition with
        | some condition => truth (meaning.eval condition)
        | none => pure true
      let pass := do
        match afterPass label (← exec fuel none body) with
        | some flow => return some flow
        | none =>
          update.forM fun expression => discard (meaning.eval expression)
          return none
      repeatWhile holds pass fuel
  | .forEach item iterable body =>
    inScope (iterate meaning fuel item iterable (afterPass label <$> exec fuel none body))
  | .switch selector cases => do
    let selector ← nonNull (← meaning.eval selector)
    match ← firstCase? meaning selector cases with
    | some first => inScope (execCases fuel first cases)
    | none => return .normal
  | .tryCatch body catches finalizer =>
    let handled := guarded (inScope (execAll fuel body)) fun thrown => execCatches fuel thrown catches
    match finalizer with
    | some finalizer => meaning.finish handled (inScope (execAll fuel finalizer))
    | none => handled
  | .synchronized lock body => do
    discard (nonNull (← meaning.eval lock))
    inScope (execAll fuel body)
  | .returns (some value) => .returns <$> meaning.eval value
  | .returns none => return .returns .null
  | .returnsDefault => return .returns (.zero (← frame).returnType)
  | .throws value => do throw (.thrown (← nonNull (← meaning.eval value)))
  | .breaks target => return .breaks target
  | .continues target => return .continues target
  | .labeled label body => afterLabel label <$> exec fuel (some label) body
  | .localType decl => do
    declareType decl
    return .normal
  | .empty => return .normal
  | .verbatim text => unsupported (.verbatimStatement text)

/-- Runs statements until one does not end normally. -/
def execAll (fuel : Nat) : List Statement → Code Flow
  | [] => return .normal
  | statement :: rest => do
    match ← exec fuel none statement with
    | .normal => execAll fuel rest
    | abrupt => return abrupt

/-- Runs the statements in the head of a loop; how they end does not matter. -/
def execStart (fuel : Nat) : List Statement → Code Unit
  | [] => return
  | statement :: rest => do
    discard (exec fuel none statement)
    execStart fuel rest

/-- Runs the groups of a switch from one on. -/
def execCases (fuel : Nat) : Nat → List SwitchCase → Code Flow
  | _, [] => return .normal
  | skipped + 1, _ :: rest => execCases fuel skipped rest
  | 0, ⟨_, body⟩ :: rest => do
    match ← execAll fuel body with
    | .normal => execCases fuel 0 rest
    | .breaks none => return .normal
    | abrupt => return abrupt

/-- Runs the first catch clause for a thrown value; without one it stays thrown. -/
def execCatches (fuel : Nat) (thrown : Value) : List CatchClause → Code Flow
  | [] => throw (.thrown thrown)
  | ⟨parameter, body⟩ :: rest => do
    if (← getThe World).catches parameter.type thrown then
      inScope do
        modifyFrame (.declare parameter.name thrown)
        execAll fuel body
    else execCatches fuel thrown rest

end

end

end JavaWeave.Interpreter
