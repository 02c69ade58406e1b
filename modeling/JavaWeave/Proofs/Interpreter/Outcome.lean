import JavaWeave.Interpreter.Statement
import JavaWeave.Proofs.Text.Pieces

namespace JavaWeave.Interpreter

open Syntax

/-- Where a run stands: the variables of the running body, and the rest of the program. -/
abbrev Point := Frame × World

/-- How steps end, and where, when they start at a point. -/
def outcome (code : Code α) (point : Point) : Except Unwind α × Point :=
  let ((result, frame), world) := code point.1 point.2
  (result, (frame, world))

/-- Goes on with a result, or stays with what ended the steps abruptly. -/
def proceed (ending : Except Unwind α × Point) (next : α → Point → Except Unwind β × Point) :
    Except Unwind β × Point :=
  match ending with
  | (.ok value, point) => next value point
  | (.error unwind, point) => (.error unwind, point)

@[simp] theorem proceed_ok (value : α) (point : Point) (next : α → Point → Except Unwind β × Point) :
    proceed (.ok value, point) next = next value point := rfl

@[simp] theorem proceed_error (unwind : Unwind) (point : Point)
    (next : α → Point → Except Unwind β × Point) :
    proceed (.error unwind, point) next = (.error unwind, point) := rfl

theorem outcome_ext {first second : Code α} (same : ∀ point, outcome first point = outcome second point) :
    first = second := by
  funext frame world
  have equal := same (frame, world)
  have results := congrArg Prod.fst equal
  have frames := congrArg (·.2.1) equal
  have worlds := congrArg (·.2.2) equal
  exact Prod.ext (Prod.ext results frames) worlds

@[simp] theorem outcome_pure (value : α) (point : Point) :
    outcome (pure value : Code α) point = (.ok value, point) := rfl

@[simp] theorem outcome_throw (unwind : Unwind) (point : Point) :
    outcome (throw unwind : Code α) point = (.error unwind, point) := rfl

@[simp] theorem outcome_bind (first : Code α) (next : α → Code β) (point : Point) :
    outcome (first >>= next) point = proceed (outcome first point) fun value => outcome (next value) := by
  have unfolded : (first >>= next) point.1 point.2 =
      match first point.1 point.2 with
      | ((.ok value, frame), world) => next value frame world
      | ((.error unwind, frame), world) => ((.error unwind, frame), world) := by
    change (ExceptT.bind first next) point.1 point.2 = _
    simp only [ExceptT.bind, ExceptT.mk, bind, StateT.bind, ExceptT.bindCont]
    rcases first point.1 point.2 with ⟨⟨result, frame⟩, world⟩
    cases result <;> rfl
  simp only [outcome, unfolded]
  rcases first point.1 point.2 with ⟨⟨result, frame⟩, world⟩
  cases result <;> rfl

@[simp] theorem outcome_map (f : α → β) (code : Code α) (point : Point) :
    outcome (f <$> code) point = proceed (outcome code point) fun value point => (.ok (f value), point) := by
  rw [map_eq_pure_bind, outcome_bind]
  rfl

@[simp] theorem outcome_discard (code : Code α) (point : Point) :
    outcome (discard code) point = proceed (outcome code point) fun _ point => (.ok ⟨⟩, point) := by
  change outcome (Function.const α PUnit.unit <$> code) point = _
  rw [outcome_map]

@[simp] theorem outcome_attempt (code : Code α) (point : Point) :
    outcome (attempt code) point = (.ok (outcome code point).1, (outcome code point).2) := rfl

@[simp] theorem outcome_conclude (result : Except Unwind α) (point : Point) :
    outcome (conclude result) point = (result, point) := rfl

@[simp] theorem outcome_frame (point : Point) : outcome frame point = (.ok point.1, point) := rfl

@[simp] theorem outcome_modifyFrame (change : Frame → Frame) (point : Point) :
    outcome (modifyFrame change) point = (.ok (), (change point.1, point.2)) := rfl

@[simp] theorem outcome_world (point : Point) :
    outcome (getThe World : Code World) point = (.ok point.2, point) := rfl

/-- The result of steps of the whole program, which leave the frame alone. -/
@[simp] theorem outcome_lift (action : Run α) (point : Point) :
    outcome (monadLift action : Code α) point = ((action point.2).1, (point.1, (action point.2).2)) := rfl

@[simp] theorem outcome_liftM (action : Run α) (point : Point) :
    outcome (liftM action : Code α) point = ((action point.2).1, (point.1, (action point.2).2)) := rfl

/-- Where a run stands in one more scope. -/
def Point.push (point : Point) : Point := (point.1.push, point.2)

/-- Where a run stands when the innermost scope is left. -/
def Point.pop (point : Point) : Point := (point.1.pop, point.2)

@[simp] theorem Point.pop_push (point : Point) : point.push.pop = point := rfl

@[simp] theorem outcome_inScope (code : Code α) (point : Point) :
    outcome (inScope code) point = ((outcome code point.push).1, (outcome code point.push).2.pop) := by
  simp only [inScope, outcome_bind, outcome_modifyFrame, outcome_attempt, proceed_ok, outcome_conclude]
  rfl

/-- What becomes of a thrown value. -/
def rescue (ending : Except Unwind α × Point) (handler : Value → Point → Except Unwind α × Point) :
    Except Unwind α × Point :=
  match ending with
  | (.error (.thrown value), point) => handler value point
  | other => other

@[simp] theorem rescue_ok (value : α) (point : Point) (handler : Value → Point → Except Unwind α × Point) :
    rescue (.ok value, point) handler = (.ok value, point) := rfl

@[simp] theorem rescue_thrown (value : Value) (point : Point)
    (handler : Value → Point → Except Unwind α × Point) :
    rescue (.error (.thrown value), point) handler = handler value point := rfl

@[simp] theorem rescue_failed (fault : Fault) (point : Point)
    (handler : Value → Point → Except Unwind α × Point) :
    rescue (.error (.failed fault), point) handler = (.error (.failed fault), point) := rfl

@[simp] theorem rescue_outOfFuel (point : Point) (handler : Value → Point → Except Unwind α × Point) :
    rescue (.error .outOfFuel, point) handler = (.error .outOfFuel, point) := rfl

/-- How a result follows a finalizer that came to its end in the given way. -/
def concluding (result : Except Unwind Flow) : Flow → Code Flow
  | .normal => conclude result
  | abrupt => return abrupt

@[simp] theorem outcome_guarded (body : Code Flow) (handler : Value → Code Flow) (point : Point) :
    outcome (guarded body handler) point =
      rescue (outcome body point) fun value => outcome (handler value) := by
  simp only [outcome, guarded, tryCatch, tryCatchThe, MonadExceptOf.tryCatch, ExceptT.tryCatch, ExceptT.mk, bind,
    StateT.bind]
  rcases body point.1 point.2 with ⟨⟨result, frame⟩, world⟩
  rcases result with (value | fault | _) | flow <;> rfl

theorem outcome_truth {condition : Code Value} {holds : Bool} {point after : Point}
    (gives : outcome condition point = (.ok (.bool holds), after)) :
    outcome (truth condition) point = (.ok holds, after) := by
  simp only [truth, outcome_bind, gives, proceed_ok]
  rfl

theorem outcome_nonNull {value : Value} (given : value.isNull = false) (point : Point) :
    outcome (liftM (nonNull value) : Code Value) point = (.ok value, point) := by
  have stays : nonNull value = pure value := by simp [nonNull, given]
  rw [stays]
  rfl

/-- Goes on after steps that end normally; any other end stays. -/
def andThen (ending : Except Unwind Flow × Point) (next : Point → Except Unwind Flow × Point) :
    Except Unwind Flow × Point :=
  match ending with
  | (.ok .normal, point) => next point
  | other => other

@[simp] theorem andThen_normal (point : Point) (next : Point → Except Unwind Flow × Point) :
    andThen (.ok .normal, point) next = next point := rfl

@[simp] theorem andThen_error (unwind : Unwind) (point : Point)
    (next : Point → Except Unwind Flow × Point) :
    andThen (.error unwind, point) next = (.error unwind, point) := rfl

@[simp] theorem andThen_breaks (label : Option String) (point : Point)
    (next : Point → Except Unwind Flow × Point) :
    andThen (.ok (.breaks label), point) next = (.ok (.breaks label), point) := rfl

@[simp] theorem andThen_continues (label : Option String) (point : Point)
    (next : Point → Except Unwind Flow × Point) :
    andThen (.ok (.continues label), point) next = (.ok (.continues label), point) := rfl

@[simp] theorem andThen_returns (value : Value) (point : Point)
    (next : Point → Except Unwind Flow × Point) :
    andThen (.ok (.returns value), point) next = (.ok (.returns value), point) := rfl

theorem andThen_abrupt {flow : Flow} (abrupt : flow ≠ .normal) (point : Point)
    (next : Point → Except Unwind Flow × Point) : andThen (.ok flow, point) next = (.ok flow, point) := by
  cases flow <;> first | exact absurd rfl abrupt | rfl

@[simp] theorem andThen_pure (ending : Except Unwind Flow × Point) :
    andThen ending (fun point => (.ok .normal, point)) = ending := by
  rcases ending with ⟨_ | _ | _ | _ | _, _⟩ <;> rfl

theorem andThen_assoc (ending : Except Unwind Flow × Point)
    (next last : Point → Except Unwind Flow × Point) :
    andThen (andThen ending next) last = andThen ending fun point => andThen (next point) last := by
  rcases ending with ⟨_ | _ | _ | _ | _, _⟩ <;> rfl

-- The steps of each kind of expression as one equation, which holds by computation.

section

variable (perform : Performer)

theorem eval_name (name : String) : eval perform (.name name) = evalName perform name := rfl

theorem eval_this (qualifier : Option String) :
    eval perform (.this qualifier) = currentObject qualifier := rfl

theorem eval_field (receiver : Expression) (name : String) :
    eval perform (.field receiver name) = (do
      fieldOn perform (← asReceiver perform receiver (eval perform receiver)) name) := rfl

theorem eval_callOwn (name : String) (types : List JavaType) (arguments : List Expression) :
    eval perform (.call none name types arguments) = (do
      callUnqualified perform name (← evalAll perform arguments)) := rfl

theorem eval_callOn (receiver : Expression) (name : String) (types : List JavaType)
    (arguments : List Expression) :
    eval perform (.call (some receiver) name types arguments) = (do
      if receiver.asName? == some "super" then callSuper perform name (← evalAll perform arguments)
      else
        let receiver ← asReceiver perform receiver (eval perform receiver)
        callOn perform receiver name (← evalAll perform arguments)) := rfl

theorem eval_create (type : JavaType) (arguments : List Expression) (body : Option TypeDecl) :
    eval perform (.create type arguments body) = (do
      create perform type body (← evalAll perform arguments)) := rfl

theorem eval_equals (left right : Expression) :
    eval perform (.binary .eq left right) = (do
      let left ← eval perform left
      operate perform .eq left (← eval perform right)) := rfl

theorem eval_unary (op : UnaryOp) (operand : Expression) :
    eval perform (.unary op operand) = (do
      if op.steps then stepPlace op (← evalPlace perform operand)
      else operateOne op (← eval perform operand)) := rfl

theorem eval_assign (op : Option BinaryOp) (target value : Expression) :
    eval perform (.assign op target value) = (do
      assignPlace perform op (← evalPlace perform target) (eval perform value)) := rfl

theorem eval_instanceOf (operand : Expression) (type : JavaType) :
    eval perform (.instanceOf operand type) = (do
      let value ← eval perform operand
      return .bool ((← getThe World).isInstance value type)) := rfl

theorem eval_cast (type : JavaType) (operand : Expression) :
    eval perform (.cast type operand) = (do castTo type (← eval perform operand)) := rfl

theorem evalAll_nil : evalAll perform [] = pure [] := rfl

theorem evalAll_cons (e : Expression) (rest : List Expression) :
    evalAll perform (e :: rest) = (do
      let value ← eval perform e
      return value :: (← evalAll perform rest)) := rfl

theorem evalPlace_name (name : String) :
    evalPlace perform (.name name) = (do
      match (Text.split '.' name).reverse with
      | member :: first :: rest =>
        let receiver ← receiverNamed perform (".".intercalate (first :: rest).reverse)
        memberPlace perform receiver member
      | _ => placeNamed perform name) := rfl

theorem evalPlace_field (receiver : Expression) (name : String) :
    evalPlace perform (.field receiver name) = (do
      memberPlace perform (← asReceiver perform receiver (eval perform receiver)) name) := rfl

end

-- The steps of each kind of statement as one equation, which holds by computation.

section

variable (meaning : Meaning) (fuel : Nat) (label : Option String)

theorem exec_block (body : List Statement) :
    exec meaning fuel label (.block body) = inScope (execAll meaning fuel body) := rfl

theorem exec_expression (e : Expression) :
    exec meaning fuel label (.expression e) = (do discard (meaning.eval e); return .normal) := rfl

theorem exec_declare (decl : LocalVariable) :
    exec meaning fuel label (.declare decl) = (do declareLocal meaning decl; return .normal) := rfl

/-- A condition without an else branch. -/
theorem exec_ifElse_none (condition : Expression) (body : Statement) :
    exec meaning fuel label (.ifElse condition body none) = (do
      if ← truth (meaning.eval condition) then exec meaning fuel none body else return .normal) := rfl

theorem exec_whileLoop (condition : Expression) (body : Statement) :
    exec meaning fuel label (.whileLoop condition body) =
      inScope (repeatWhile (truth (meaning.eval condition)) (afterPass label <$> exec meaning fuel none body)
        fuel) := rfl

theorem exec_forEach (item : LocalVariable) (iterable : Expression) (body : Statement) :
    exec meaning fuel label (.forEach item iterable body) =
      inScope (iterate meaning fuel item iterable (afterPass label <$> exec meaning fuel none body)) := rfl

theorem exec_switch (selector : Expression) (cases : List SwitchCase) :
    exec meaning fuel label (.switch selector cases) = (do
      let selector ← nonNull (← meaning.eval selector)
      match ← firstCase? meaning selector cases with
      | some first => inScope (execCases meaning fuel first cases)
      | none => return .normal) := rfl

/-- A try statement without a finalizer. -/
theorem exec_tryCatch_none (body : List Statement) (clauses : List CatchClause) :
    exec meaning fuel label (.tryCatch body clauses none) =
      guarded (inScope (execAll meaning fuel body)) fun thrown => execCatches meaning fuel thrown clauses := rfl

theorem exec_tryCatch_some (body : List Statement) (clauses : List CatchClause) (finalizer : List Statement) :
    exec meaning fuel label (.tryCatch body clauses (some finalizer)) =
      meaning.finish (guarded (inScope (execAll meaning fuel body)) fun thrown =>
        execCatches meaning fuel thrown clauses) (inScope (execAll meaning fuel finalizer)) := rfl

theorem exec_returns (e : Expression) :
    exec meaning fuel label (.returns (some e)) = Flow.returns <$> meaning.eval e := rfl

theorem exec_returnsDefault :
    exec meaning fuel label .returnsDefault = (do return .returns (.zero (← frame).returnType)) := rfl

theorem exec_throws (e : Expression) :
    exec meaning fuel label (.throws e) =
      (do throw (Unwind.thrown (← liftM (nonNull (← meaning.eval e))))) := rfl

theorem exec_breaks (target : Option String) :
    exec meaning fuel label (.breaks target) = pure (.breaks target) := rfl

theorem exec_continues (target : Option String) :
    exec meaning fuel label (.continues target) = pure (.continues target) := rfl

theorem exec_labeled (name : String) (body : Statement) :
    exec meaning fuel label (.labeled name body) = afterLabel name <$> exec meaning fuel (some name) body := rfl

theorem execCatches_nil (thrown : Value) :
    execCatches meaning fuel thrown [] = throw (.thrown thrown) := rfl

theorem execCatches_cons (thrown : Value) (parameter : Parameter) (body : List Statement)
    (rest : List CatchClause) :
    execCatches meaning fuel thrown (⟨parameter, body⟩ :: rest) = (do
      if (← getThe World).catches parameter.type thrown then
        inScope do
          modifyFrame (·.declare parameter.name thrown)
          execAll meaning fuel body
      else execCatches meaning fuel thrown rest) := rfl

@[simp] theorem outcome_execAll_nil (point : Point) :
    outcome (execAll meaning fuel []) point = (.ok .normal, point) := rfl

theorem outcome_execAll_cons (statement : Statement) (rest : List Statement) (point : Point) :
    outcome (execAll meaning fuel (statement :: rest)) point =
      andThen (outcome (exec meaning fuel none statement) point) (outcome (execAll meaning fuel rest)) := by
  refine (outcome_bind _ _ point).trans ?_
  rcases outcome (exec meaning fuel none statement) point with ⟨_ | _ | _ | _ | _, _⟩ <;> rfl

theorem outcome_execAll_append (first second : List Statement) (point : Point) :
    outcome (execAll meaning fuel (first ++ second)) point =
      andThen (outcome (execAll meaning fuel first) point) (outcome (execAll meaning fuel second)) := by
  induction first generalizing point with
  | nil => simp
  | cons statement rest ih =>
    simp only [List.cons_append, outcome_execAll_cons, andThen_assoc]
    congr 1
    funext point
    exact ih point

@[simp] theorem outcome_execAll_single (statement : Statement) (point : Point) :
    outcome (execAll meaning fuel [statement]) point = outcome (exec meaning fuel none statement) point := by
  rw [outcome_execAll_cons]
  have ends : outcome (execAll meaning fuel []) = fun point => (.ok .normal, point) := by
    funext point
    simp
  rw [ends, andThen_pure]

theorem execAll_single (statement : Statement) :
    execAll meaning fuel [statement] = exec meaning fuel none statement :=
  outcome_ext fun point => outcome_execAll_single meaning fuel statement point

/-- What a switch makes of the end of a group: it goes on with the next group, or is left. -/
def afterGroup (ending : Except Unwind Flow × Point) (next : Point → Except Unwind Flow × Point) :
    Except Unwind Flow × Point :=
  match ending with
  | (.ok .normal, point) => next point
  | (.ok (.breaks none), point) => (.ok .normal, point)
  | other => other

theorem outcome_execCases_cons (label : Option Expression) (body : List Statement) (rest : List SwitchCase)
    (point : Point) :
    outcome (execCases meaning fuel 0 (⟨label, body⟩ :: rest)) point =
      afterGroup (outcome (execAll meaning fuel body) point) (outcome (execCases meaning fuel 0 rest)) := by
  refine (outcome_bind _ _ point).trans ?_
  rcases outcome (execAll meaning fuel body) point with ⟨_ | _ | (_ | _) | _ | _, _⟩ <;> rfl

@[simp] theorem outcome_execCases_nil (first : Nat) (point : Point) :
    outcome (execCases meaning fuel first []) point = (.ok .normal, point) := by
  cases first <;> rfl

theorem execCases_drop (first : Nat) (cases : List SwitchCase) :
    execCases meaning fuel first cases = execCases meaning fuel 0 (cases.drop first) := by
  induction first generalizing cases with
  | zero => rfl
  | succ first ih =>
    cases cases with
    | nil => rfl
    | cons group rest => exact ih rest

end

/-- A type that is one class, without alternatives. -/
structure Single (type : JavaType) : Prop where
  flat : type.dimensions = 0
  undivided : '|' ∉ type.name.toList
  stripped : Text.strip type.name = type.name

/-- A clause for one class catches what is of the class. -/
theorem catches_eq_isInstance {type : JavaType} (single : Single type) (world : World) (thrown : Value) :
    world.catches type thrown = world.isInstance thrown type := by
  simp [World.catches, World.isInstance, Text.split_of_not_mem single.undivided, single.stripped, single.flat]

/-- The clauses of a try statement: the first one that catches the exception runs with it. -/
theorem outcome_execCatches (meaning : Meaning) (fuel : Nat) (thrown : Value) (clauses : List CatchClause)
    (point : Point) :
    outcome (execCatches meaning fuel thrown clauses) point =
      match clauses.find? fun clause => point.2.catches clause.parameter.type thrown with
      | some clause => outcome (inScope do
          modifyFrame (·.declare clause.parameter.name thrown)
          execAll meaning fuel clause.body) point
      | none => (.error (.thrown thrown), point) := by
  induction clauses with
  | nil => simp [execCatches_nil]
  | cons clause rest ih =>
    obtain ⟨parameter, body⟩ := clause
    rw [execCatches_cons, outcome_bind, outcome_world, proceed_ok, List.find?_cons]
    cases catches : point.2.catches parameter.type thrown with
    | true => simp
    | false => simpa [catches] using ih

end JavaWeave.Interpreter
