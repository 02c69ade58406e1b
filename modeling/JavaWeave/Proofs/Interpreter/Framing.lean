import JavaWeave.Proofs.Interpreter.Keeping

namespace JavaWeave.Interpreter

open Syntax

namespace Frame

/-- The names of the variables and types that each scope declares, from the innermost scope on. -/
def names (frame : Frame) : List (List String × List String) :=
  frame.scopes.map fun scope => (scope.locals.map (·.1), scope.types.map (·.1))

/-- A later frame of the same body has as many scopes, and they declare the same names but for some innermost
ones. -/
structure Follows (skipped : Nat) (before after : Frame) : Prop where
  type : after.type = before.type
  self : after.self = before.self
  returnType : after.returnType = before.returnType
  scopes : after.scopes.length = before.scopes.length
  names : after.names.drop skipped = before.names.drop skipped

namespace Follows

theorem refl (skipped : Nat) (frame : Frame) : frame.Follows skipped frame := ⟨rfl, rfl, rfl, rfl, rfl⟩

theorem trans {skipped : Nat} {before middle after : Frame} (first : before.Follows skipped middle)
    (second : middle.Follows skipped after) : before.Follows skipped after :=
  ⟨second.type.trans first.type, second.self.trans first.self, second.returnType.trans first.returnType,
    second.scopes.trans first.scopes, second.names.trans first.names⟩

/-- Where fewer scopes are left out, more is said. -/
theorem mono {fewer more : Nat} (enough : fewer ≤ more) {before after : Frame}
    (follows : before.Follows fewer after) : before.Follows more after where
  type := follows.type
  self := follows.self
  returnType := follows.returnType
  scopes := follows.scopes
  names := by
    obtain ⟨rest, rfl⟩ := Nat.exists_eq_add_of_le enough
    rw [← List.drop_drop, ← List.drop_drop, follows.names]

/-- What happens in a scope of its own is forgotten when the scope is left. -/
theorem pop {skipped : Nat} {before after : Frame} (follows : before.push.Follows (skipped + 1) after) :
    before.Follows skipped after.pop where
  type := follows.type
  self := follows.self
  returnType := follows.returnType
  scopes := by
    have inner := follows.scopes
    simp only [Frame.push, List.length_cons] at inner
    simp [Frame.pop, inner]
  names := by
    have outer := follows.names
    simp only [Frame.names, Frame.push, Frame.pop, List.map_cons, List.drop_succ_cons] at outer ⊢
    rw [List.map_drop, List.drop_drop, Nat.add_comm, outer]

end Follows

section

variable (name : String)

/-- Assigning declares nothing. -/
theorem names_put {α : Type} {bindings : Bindings α} (declared : bindings.has name = true) (value : α) :
    (bindings.put name value).map (·.1) = bindings.map (·.1) := by
  induction bindings with
  | nil => simp [Bindings.has] at declared
  | cons entry rest inductionHypothesis =>
    obtain ⟨other, old⟩ := entry
    by_cases here : other = name
    · simp [Bindings.put, here]
    · have later : Bindings.has rest name = true := by
        simpa [Bindings.has, Bindings.lookup_entry, Ne.symm here] using declared
      simp [Bindings.put, here, inductionHypothesis later]

theorem follows_assign (frame : Frame) (value : Value) : frame.Follows 0 (frame.assign name value) := by
  have alike (scopes : List Scope) :
      (assignIn name value scopes).map (fun scope => (scope.locals.map (·.1), scope.types.map (·.1))) =
        scopes.map fun scope => (scope.locals.map (·.1), scope.types.map (·.1)) := by
    induction scopes with
    | nil => rfl
    | cons scope rest inductionHypothesis =>
      unfold assignIn
      split
      · next declared => simp [names_put name declared]
      · simp [inductionHypothesis]
  refine ⟨rfl, rfl, rfl, ?_, alike frame.scopes⟩
  have lengths := congrArg List.length (alike frame.scopes)
  simp only [List.length_map] at lengths
  exact lengths

theorem follows_inInnermost (change : Scope → Scope) (frame : Frame) :
    frame.Follows 1 (frame.inInnermost change) := by
  unfold inInnermost
  cases shape : frame.scopes with
  | nil => exact .refl 1 frame
  | cons scope rest => exact ⟨rfl, rfl, rfl, by simp [shape], by simp [names, shape]⟩

end

end Frame

/-- Steps of a body that start at a point follow its frame, but for some innermost scopes, and keep a relation
to its world. -/
structure Moves (kept : World → World → Prop) (skipped : Nat) (code : Code α) (point : Point) : Prop where
  frame : point.1.Follows skipped (outcome code point).2.1
  world : kept point.2 (outcome code point).2.2

section

variable {kept : World → World → Prop} [Tolerant kept] {skipped : Nat} {point : Point}

namespace Moves

theorem pure (value : α) : Moves kept skipped (pure value : Code α) point :=
  ⟨.refl skipped point.1, Tolerant.refl point.2⟩

theorem throw (unwind : Unwind) : Moves kept skipped (throw unwind : Code α) point :=
  ⟨.refl skipped point.1, Tolerant.refl point.2⟩

omit [Tolerant kept] in
theorem reached {code : Code α} {after : Point} {result : Except Unwind α} (moves : Moves kept skipped code point)
    (ended : outcome code point = (result, after)) : kept point.2 after.2 := by
  have world := moves.world
  rwa [ended] at world

omit [Tolerant kept] in
theorem mono {fewer more : Nat} (enough : fewer ≤ more) {code : Code α} (moves : Moves kept fewer code point) :
    Moves kept more code point := ⟨moves.frame.mono enough, moves.world⟩

/-- The steps that follow are those from where the first ended. -/
theorem bindAfter {code : Code α} {rest : α → Code β} (first : Moves kept skipped code point)
    (next : ∀ value after, outcome code point = (.ok value, after) → Moves kept skipped (rest value) after) :
    Moves kept skipped (code >>= rest) point := by
  obtain ⟨framed, related⟩ := first
  constructor
  all_goals
    rw [outcome_bind]
    generalize outcome code point = ending at framed related next
    obtain ⟨unwind | value, after⟩ := ending
  · exact framed
  · exact framed.trans (next value after rfl).frame
  · exact related
  · exact Tolerant.trans related (next value after rfl).world

theorem bind {code : Code α} {rest : α → Code β} (first : Moves kept skipped code point)
    (next : ∀ value after, Moves kept skipped (rest value) after) :
    Moves kept skipped (code >>= rest) point := first.bindAfter fun value after _ => next value after

theorem map {code : Code α} (f : α → β) (first : Moves kept skipped code point) :
    Moves kept skipped (f <$> code) point := by
  rw [map_eq_pure_bind]
  exact first.bind fun value _ => pure (f value)

theorem discard {code : Code α} (first : Moves kept skipped code point) :
    Moves kept skipped (discard code) point := first.map _

omit [Tolerant kept] in
/-- Steps of the whole program leave the frame alone. -/
theorem lift {action : Run α} (keeps : Keeps kept action point.2) : Moves kept skipped (liftM action) point :=
  ⟨.refl skipped point.1, keeps⟩

omit [Tolerant kept] in
/-- Reading the heap leaves everything as it is, so the rest starts at the same point. -/
theorem heapBind {rest : Heap → Code β} (next : Moves kept skipped (rest point.2.heap) point) :
    Moves kept skipped (liftM heap >>= rest) point := ⟨next.frame, next.world⟩

theorem readFrame : Moves kept skipped Interpreter.frame point := ⟨.refl skipped point.1, Tolerant.refl point.2⟩

theorem readWorld : Moves kept skipped (getThe World : Code World) point :=
  ⟨.refl skipped point.1, Tolerant.refl point.2⟩

theorem assign (name : String) (value : Value) : Moves kept skipped (modifyFrame (.assign name value)) point :=
  ⟨(point.1.follows_assign name value).mono (Nat.zero_le skipped), Tolerant.refl point.2⟩

theorem declare (name : String) (value : Value) : Moves kept 1 (modifyFrame (.declare name value)) point :=
  ⟨Frame.follows_inInnermost _ point.1, Tolerant.refl point.2⟩

theorem declareType (name : String) (id : ClassId) : Moves kept 1 (modifyFrame (.declareType name id)) point :=
  ⟨Frame.follows_inInnermost _ point.1, Tolerant.refl point.2⟩

omit [Tolerant kept] in
/-- Code in a scope of its own declares nothing in those around it. -/
theorem inScope {code : Code α} (inside : Moves kept (skipped + 1) code point.push) :
    Moves kept skipped (inScope code) point := by
  constructor
  · rw [outcome_inScope]
    exact inside.frame.pop
  · rw [outcome_inScope]
    exact inside.world

theorem guarded {body : Code Flow} {handler : Value → Code Flow} (first : Moves kept skipped body point)
    (handles : ∀ thrown after, Moves kept skipped (handler thrown) after) :
    Moves kept skipped (guarded body handler) point := by
  obtain ⟨framed, related⟩ := first
  constructor
  all_goals
    rw [outcome_guarded]
    generalize outcome body point = ending at framed related
    obtain ⟨(thrown | fault | _) | flow, after⟩ := ending
  · exact framed.trans (handles thrown after).frame
  · exact framed
  · exact framed
  · exact framed
  · exact Tolerant.trans related (handles thrown after).world
  · exact related
  · exact related
  · exact related

theorem ensuring {body finalizer : Code Flow} (first : Moves kept skipped body point)
    (finishes : ∀ after, Moves kept skipped finalizer after) :
    Moves kept skipped (ensuring body finalizer) point := by
  have attempted : Moves kept skipped (attempt body) point := ⟨first.frame, first.world⟩
  refine attempted.bind fun result after => ?_
  split
  · exact .throw _
  · refine (finishes after).bind fun flow after => ?_
    split
    · exact ⟨.refl skipped after.1, Tolerant.refl after.2⟩
    · exact .pure _

theorem truth {condition : Code Value} (first : Moves kept skipped condition point) :
    Moves kept skipped (truth condition) point :=
  first.bind fun _ _ => .lift (keeps_needed ..)

theorem forM {action : α → Code Unit} {items : List α}
    (each : ∀ item ∈ items, ∀ point, Moves kept skipped (action item) point) :
    Moves kept skipped (items.forM action) point := by
  induction items generalizing point with
  | nil => exact pure ()
  | cons item rest inductionHypothesis =>
    refine (each item List.mem_cons_self point).bind fun _ after => ?_
    exact inductionHypothesis fun other member => each other (List.mem_cons_of_mem item member)

theorem repeatWhile {condition : Code Bool} {pass : Code (Option Flow)}
    (holds : ∀ point, Moves kept skipped condition point) (passes : ∀ point, Moves kept skipped pass point)
    (fuel : Nat) : Moves kept skipped (repeatWhile condition pass fuel) point := by
  induction fuel generalizing point with
  | zero => exact .throw _
  | succ fuel inductionHypothesis =>
    refine (holds point).bind fun value after => ?_
    split
    · refine (passes after).bind fun more after => ?_
      split
      · exact .pure _
      · exact inductionHypothesis
    · exact .pure _

theorem repeatEach {pass : Value → Code (Option Flow)}
    (passes : ∀ item point, Moves kept skipped (pass item) point) (items : List Value) :
    Moves kept skipped (repeatEach pass items) point := by
  induction items generalizing point with
  | nil => exact .pure _
  | cons item rest inductionHypothesis =>
    refine (passes item point).bind fun more after => ?_
    split
    · exact .pure _
    · exact inductionHypothesis

end Moves

/-! Names, places and expressions. -/

theorem moves_readPlace (place : Place) : Moves kept skipped (readPlace place) point := by
  cases place with
  | slot name => exact Moves.readFrame.bind fun _ _ => .pure _
  | field object name => exact (Moves.lift keeps_heap).bind fun _ _ => .pure _
  | static owner name => exact (Moves.lift (keeps_classInfo owner)).bind fun _ _ => .pure _
  | element array index => exact (Moves.lift keeps_heap).bind fun _ _ => .pure _

theorem moves_writePlace (place : Place) (value : Value) : Moves kept skipped (writePlace place value) point := by
  cases place with
  | slot name => exact .assign name value
  | field object name => exact .lift (keeps_setField ..)
  | static owner name => exact .lift (keeps_setStatic ..)
  | element array index =>
    refine .heapBind ?_
    split
    · next items there => exact .lift (keeps_store there (.array (items.set index value)) rfl)
    · exact .pure _

theorem moves_stepPlace (op : UnaryOp) (place : Place) : Moves kept skipped (stepPlace op place) point := by
  refine (moves_readPlace place).bind fun current after => ?_
  refine (Moves.lift (keeps_needed ..)).bind fun updated after => ?_
  exact (moves_writePlace place updated).bind fun _ _ => .pure _

theorem moves_enterClass (decl : TypeDecl) (base : Option JavaType) :
    Moves kept skipped (enterClass decl base) point :=
  ⟨.refl skipped point.1, Tolerant.entered point.2 decl point.1.type base⟩

theorem moves_castTo (type : JavaType) (value : Value) : Moves kept skipped (castTo type value) point := by
  unfold castTo
  split
  · exact .lift (keeps_needed ..)
  · split
    · exact .pure _
    · refine Moves.readWorld.bind fun world after => Moves.readFrame.bind fun frame after => ?_
      dsimp only
      split
      · exact .lift (keeps_raiseWith ..)
      · exact .pure _

theorem moves_currentObject (qualifier : Option String) : Moves kept skipped (currentObject qualifier) point := by
  refine Moves.readFrame.bind fun frame after => ?_
  split
  · exact .lift (keeps_unsupported _)
  · exact .pure _
  · refine Moves.readWorld.bind fun world after => ?_
    split
    · split
      · exact .pure _
      · exact .lift (keeps_fail _)
    · exact .lift (keeps_fail _)

section

variable {perform : Performer} (answers : perform.Keeps kept)

include answers

theorem moves_lookup (name : String) : Moves kept skipped (lookup perform name) point := by
  refine Moves.readFrame.bind fun frame after => ?_
  split
  · exact .pure _
  · refine (Moves.lift keeps_heap).bind fun heap after => ?_
    dsimp only
    split
    · exact .pure _
    · refine (Moves.lift keeps_classes).bind fun classes after => ?_
      split
      · refine (Moves.lift (answers (.prepare _) trivial after.2)).bind fun _ after => ?_
        exact (Moves.lift (keeps_classInfo _)).bind fun _ _ => .pure _
      · exact .pure _

theorem moves_evalName (name : String) : Moves kept skipped (evalName perform name) point := by
  refine (moves_lookup answers name).bind fun found after => ?_
  split
  · exact .pure _
  · split
    · refine (moves_lookup answers _).bind fun found after => ?_
      split
      · exact .lift (keeps_readFields answers ..)
      · refine (Moves.lift keeps_classes).bind fun classes after => Moves.readFrame.bind fun frame after => ?_
        split
        · refine (Moves.lift (keeps_staticMember answers ..)).bind fun value after => ?_
          exact .lift (keeps_readFields answers ..)
        · exact .lift (keeps_fail _)
    · exact .lift (keeps_fail _)

theorem moves_receiverNamed (name : String) : Moves kept skipped (receiverNamed perform name) point := by
  have asValue (point : Point) :
      Moves kept skipped (do return Receiver.value (← evalName perform name)) point :=
    (moves_evalName answers name).bind fun _ _ => .pure _
  refine (moves_lookup answers _).bind fun found after => ?_
  split
  · refine (Moves.lift keeps_classes).bind fun classes after => Moves.readFrame.bind fun frame after => ?_
    split
    · exact .pure _
    · exact asValue after
  · exact asValue after

theorem moves_asReceiver (expression : Expression) {evaluated : Code Value}
    (moves : Moves kept skipped evaluated point) :
    Moves kept skipped (asReceiver perform expression evaluated) point := by
  unfold asReceiver
  split
  · exact moves_receiverNamed answers _
  · exact moves.map _

theorem keeps_callInClass {name : String} {arguments : List Value} {world : World} {frame : Frame} {id : ClassId}
    {answer : Run Value} (known : callInClass? perform name arguments world frame id = some answer)
    (start : World) : Keeps kept answer start := by
  unfold callInClass? at known
  cases special : enumMethod? perform (world.classes.get id) id name arguments with
  | some call =>
    rw [special, Option.some_or] at known
    cases known
    exact keeps_enumMethod answers special
  | none =>
    rw [special, Option.none_or] at known
    cases found : world.classes.method? id name arguments.length with
    | none => simp [found] at known
    | some target =>
      simp only [found, Option.bind_eq_bind, Option.bind_some] at known
      split at known
      · cases known
        exact answers (.invoke _ _ _ _) trivial start
      · split at known
        · cases known
          exact keeps_dispatch answers ..
        · cases known
          exact keeps_unsupported _

theorem moves_callUnqualified (name : String) (arguments : List Value) :
    Moves kept skipped (callUnqualified perform name arguments) point := by
  unfold callUnqualified
  extract_lets rest
  have continues (value : PUnit) (point : Point) : Moves kept skipped (rest value) point := by
    refine Moves.readWorld.bind fun world after => Moves.readFrame.bind fun frame after => ?_
    split
    · next answer found =>
      obtain ⟨id, _, known⟩ := List.exists_of_findSome?_eq_some found
      exact .lift (keeps_callInClass answers known _)
    · split
      · exact .lift (keeps_dispatch answers ..)
      · exact .lift (keeps_unknownMethod ..)
  split
  · exact (Moves.lift (keeps_unsupported _)).bind continues
  · exact continues () point

theorem moves_callSuper (name : String) (arguments : List Value) :
    Moves kept skipped (callSuper perform name arguments) point := by
  refine Moves.readFrame.bind fun frame after => Moves.readWorld.bind fun world after => ?_
  split
  · exact .lift (keeps_unsupported _)
  · dsimp only
    split
    · exact .lift (answers (.invoke _ _ _ _) trivial _)
    · exact .lift (keeps_callInherited answers ..)
    · exact .lift (keeps_unsupported _)

theorem moves_placeNamed (name : String) : Moves kept skipped (placeNamed perform name) point := by
  refine Moves.readFrame.bind fun frame after => ?_
  split
  · exact .pure _
  · refine (Moves.lift keeps_heap).bind fun heap after => ?_
    split
    · exact .pure _
    · refine (Moves.lift keeps_classes).bind fun classes after => ?_
      split
      · exact (Moves.lift (answers (.prepare _) trivial after.2)).bind fun _ _ => .pure _
      · exact .lift (keeps_fail _)

theorem moves_assignPlace (op : Option BinaryOp) (place : Place) {right : Code Value}
    (moves : ∀ point, Moves kept skipped right point) :
    Moves kept skipped (assignPlace perform op place right) point := by
  refine (moves_readPlace place).bind fun current after => (moves after).bind fun value after => ?_
  split
  · exact (Moves.pure _).bind fun value after => (moves_writePlace place _).bind fun _ _ => .pure _
  · refine (Moves.lift (keeps_operate answers ..)).bind fun value after => ?_
    exact (moves_writePlace place _).bind fun _ _ => .pure _

omit [Tolerant kept] answers in
/-- An object that ordinary code makes is no constant. -/
theorem creationFor_constant (world : World) (frame : Frame) (id : ClassId) :
    (creationFor world frame id).constant = none := by
  unfold creationFor
  dsimp only
  split
  · rfl
  · split
    · split <;> rfl
    · rfl
  all_goals
    split
    · rfl
    · split <;> rfl

theorem moves_create (type : JavaType) (body : Option TypeDecl) (arguments : List Value) :
    Moves kept skipped (create perform type body arguments) point := by
  cases body with
  | some body =>
    refine (moves_enterClass body (some type)).bind fun id after => Moves.readFrame.bind fun frame after => ?_
    refine (Moves.lift keeps_heap).bind fun heap after => ?_
    exact .lift (answers (.construct id arguments ⟨_, _, none⟩) rfl after.2)
  | none =>
    refine Moves.readFrame.bind fun frame after => Moves.readWorld.bind fun world after => ?_
    split
    · exact .lift (answers (.construct _ arguments _) (creationFor_constant ..) after.2)
    · split
      · refine (Moves.lift (keeps_throwableState answers ..)).bind fun state after => ?_
        exact .lift (keeps_allocate rfl)
      · exact .lift (.getD (fun _ known => keeps_libraryConstruct known) (keeps_fail _))
    · exact .lift (keeps_fail _)

end

section

variable {perform : Performer}

mutual

/-- Evaluating an expression declares nothing. -/
theorem moves_eval (answers : perform.Keeps kept) (skipped : Nat) (point : Point) :
    (e : Expression) → Moves kept skipped (eval perform e) point
  | .name name => moves_evalName answers name
  | .this qualifier => moves_currentObject qualifier
  | .field receiver name => by
    refine (moves_asReceiver answers receiver (moves_eval answers skipped point receiver)).bind fun value after => ?_
    exact .lift (keeps_fieldOn answers ..)
  | .element array index => by
    refine (moves_eval answers skipped point array).bind fun array after => ?_
    refine (moves_eval answers skipped after index).bind fun index after => ?_
    exact (Moves.lift (keeps_elementPlace ..)).bind fun _ _ => moves_readPlace _
  | .call none name _ arguments =>
    (moves_evalAll answers skipped point arguments).bind fun _ _ => moves_callUnqualified answers ..
  | .call (some receiver) name _ arguments => by
    change Moves kept skipped (if receiver.asName? == some "super" then _ else _) point
    split
    · exact (moves_evalAll answers skipped point arguments).bind fun _ _ => moves_callSuper answers ..
    · refine (moves_asReceiver answers receiver (moves_eval answers skipped point receiver)).bind fun value after => ?_
      exact (moves_evalAll answers skipped after arguments).bind fun _ _ => .lift (keeps_callOn answers ..)
  | .create type arguments body =>
    (moves_evalAll answers skipped point arguments).bind fun _ _ => moves_create answers ..
  | .createArray _ _ _ (some elements) =>
    (moves_evalAll answers skipped point elements).bind fun _ _ => .lift (keeps_allocate rfl)
  | .createArray element sizes unsized none =>
    (moves_evalSizes answers skipped point sizes).bind fun _ _ => .lift (keeps_makeArray ..)
  | .arrayElements elements =>
    (moves_evalAll answers skipped point elements).bind fun _ _ => .lift (keeps_allocate rfl)
  | .binary op left right => by
    cases op
    case and =>
      refine (moves_eval answers skipped point left).truth.bind fun holds after => ?_
      split
      · exact (moves_eval answers skipped after right).truth.bind fun _ _ => .pure _
      · exact .pure _
    case or =>
      refine (moves_eval answers skipped point left).truth.bind fun holds after => ?_
      split
      · exact .pure _
      · exact (moves_eval answers skipped after right).truth.bind fun _ _ => .pure _
    all_goals
      refine (moves_eval answers skipped point left).bind fun left after => ?_
      exact (moves_eval answers skipped after right).bind fun _ _ => .lift (keeps_operate answers ..)
  | .unary op operand => by
    change Moves kept skipped (if op.steps then _ else _) point
    split
    · exact (moves_evalPlace answers skipped point operand).bind fun _ _ => moves_stepPlace ..
    · exact (moves_eval answers skipped point operand).bind fun _ _ => .lift (keeps_operateOne ..)
  | .assign op target value => by
    refine (moves_evalPlace answers skipped point target).bind fun place after => ?_
    exact moves_assignPlace answers op place fun point => moves_eval answers skipped point value
  | .instanceOf operand type =>
    (moves_eval answers skipped point operand).bind fun _ _ => Moves.readWorld.bind fun _ _ => .pure _
  | .cast type operand => (moves_eval answers skipped point operand).bind fun _ _ => moves_castTo ..
  | .conditional condition whenTrue whenFalse => by
    refine (moves_eval answers skipped point condition).truth.bind fun holds after => ?_
    split
    · exact moves_eval answers skipped after whenTrue
    · exact moves_eval answers skipped after whenFalse
  | .literal value => .pure _
  | .classLiteral type => .pure _
  | .note note => .lift (keeps_unsupported _)
  | .verbatim text => .lift (keeps_unsupported _)

theorem moves_evalAll (answers : perform.Keeps kept) (skipped : Nat) (point : Point) :
    (es : List Expression) → Moves kept skipped (evalAll perform es) point
  | [] => .pure _
  | e :: rest => by
    refine (moves_eval answers skipped point e).bind fun value after => ?_
    exact (moves_evalAll answers skipped after rest).bind fun _ _ => .pure _

theorem moves_evalSizes (answers : perform.Keeps kept) (skipped : Nat) (point : Point) :
    (es : List Expression) → Moves kept skipped (evalSizes perform es) point
  | [] => .pure _
  | e :: rest => by
    refine (moves_eval answers skipped point e).bind fun value after => ?_
    refine (Moves.lift (keeps_arraySize value)).bind fun size after => ?_
    exact (moves_evalSizes answers skipped after rest).bind fun _ _ => .pure _

theorem moves_evalPlace (answers : perform.Keeps kept) (skipped : Nat) (point : Point) :
    (e : Expression) → Moves kept skipped (evalPlace perform e) point
  | .name name => by
    rw [evalPlace_name]
    split
    · exact (moves_receiverNamed answers _).bind fun _ _ => .lift (keeps_memberPlace answers ..)
    · exact moves_placeNamed answers name
  | .field receiver name => by
    refine (moves_asReceiver answers receiver (moves_eval answers skipped point receiver)).bind fun value after => ?_
    exact .lift (keeps_memberPlace answers ..)
  | .element array index => by
    refine (moves_eval answers skipped point array).bind fun array after => ?_
    refine (moves_eval answers skipped after index).bind fun index after => ?_
    exact (Moves.lift (keeps_elementPlace ..)).bind fun _ _ => .pure _
  | .this _ | .call .. | .create .. | .createArray .. | .arrayElements _ | .binary .. | .unary .. | .assign ..
  | .instanceOf .. | .cast .. | .conditional .. | .literal _ | .classLiteral _ | .note _ | .verbatim _ =>
    .lift (keeps_unsupported _)

end

end

end

end JavaWeave.Interpreter
