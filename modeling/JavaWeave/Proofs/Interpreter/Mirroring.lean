import JavaWeave.Proofs.Interpreter.Members

/-! Code that keeps to its realm does the same on an object and on its copy. -/

namespace JavaWeave.Interpreter.Mirror

open Syntax

section Expressions

variable {mirror : Mirror} {count : Nat} {sight : Sight} {fuel : Nat} {name : String} {loose : Bool} {value : Value}

variable (lawful : mirror.Lawful)

include lawful

theorem mirrored_stepPlace {place place' : Place} (op : UnaryOp) (located : mirror.Locates name count place place') :
    mirror.Mirrored count sight sight (mirror.Pictures false) (stepPlace op place) (stepPlace op place') := by
  unfold stepPlace
  refine .andThen (mirrored_readPlace located) ?_
  rintro more current _ later ⟨rfl, held⟩
  refine .andThen (mirrored_needed lawful "number" held (stepped_image _)) ?_
  rintro more' updated _ later' ⟨rfl, steps⟩
  obtain ⟨plain, plain'⟩ := plain_of_stepped steps
  have written : mirror.Mirrored more' sight sight (fun _ _ _ => True) (writePlace place updated)
      (writePlace place' (updated.image mirror.place)) := mirrored_writePlace lawful located (held_of_plain plain')
  rw [Value.image_of_plain plain'] at written
  refine .andThen written ?_
  rintro more'' _ _ _ -
  rw [Value.image_of_plain plain]
  refine mirrored_pure fun _ _ => pictures_of_plain ?_
  split <;> assumption

theorem mirrored_assignPlace {place place' : Place} {right right' : Code Value}
    (located : mirror.Locates name count place place')
    (steps : ∀ more, mirror.Mirrored more sight sight (mirror.Pictures (loose && mirror.realm.loose name)) right
      right') :
    mirror.Mirrored count sight sight (mirror.Pictures loose) (assignPlace (performer fuel) none place right)
      (assignPlace (performer fuel) none place' right') := by
  unfold assignPlace
  refine .andThen (mirrored_readPlace located) ?_
  rintro more current _ later ⟨rfl, held⟩
  refine .andThen (steps more) ?_
  rintro more' value _ later' ⟨rfl, held'⟩
  simp only [pure_bind, Option.isSome_none, conform_image]
  have kept := held'.conform false current
  refine .andThen (mirrored_writePlace lawful located (kept.imp fun both => (Bool.and_eq_true_iff.mp both).2)) ?_
  rintro more'' _ _ later'' -
  exact mirrored_pure fun _ last => ⟨rfl, (kept.imp fun both => (Bool.and_eq_true_iff.mp both).1).mono
    (Nat.le_trans later'' last)⟩

theorem mirrored_assignPlace_some {place place' : Place} {right right' : Code Value} {op : BinaryOp}
    (located : mirror.Locates name count place place')
    (tight : mirror.realm.loose name = true → (op != .add) = true)
    (steps : ∀ more, mirror.Mirrored more sight sight (mirror.Pictures (op != .add)) right right') :
    mirror.Mirrored count sight sight (mirror.Pictures loose) (assignPlace (performer fuel) (some op) place right)
      (assignPlace (performer fuel) (some op) place' right') := by
  unfold assignPlace
  refine .andThen (mirrored_readPlace located) ?_
  rintro more current _ later ⟨rfl, held⟩
  refine .andThen (steps more) ?_
  rintro more' value _ later' ⟨rfl, held'⟩
  refine .andThen (mirrored_operate lawful fuel ((held.imp tight).mono later') held') ?_
  rintro last result _ later'' ⟨rfl, held''⟩
  simp only [conform_image]
  have kept := held''.conform true current
  refine .andThen (mirrored_writePlace lawful located kept.loosen) ?_
  rintro _ _ _ later''' -
  exact mirrored_pure fun _ last => ⟨rfl, kept.loosen.mono (Nat.le_trans later''' last)⟩

theorem mirrored_castTo (type : JavaType) (held : mirror.Held count (loose || type.isPrimitive) value) :
    mirror.Mirrored count sight sight (mirror.Pictures loose) (castTo type value)
      (castTo type (value.image mirror.place)) := by
  unfold castTo
  cases primitive : type.isPrimitive with
  | true =>
    refine (mirrored_needed lawful "primitive" held (convert_image type.name)).mono sight.within_refl ?_
    rintro _ x _ ⟨rfl, converts⟩
    exact pictures_of_plain (plain_of_convert converts)
  | false =>
    rw [primitive, Bool.or_false] at held
    simp only [Bool.false_eq_true, if_false, Value.isNull_image]
    split
    · exact mirrored_pure fun _ later => ⟨rfl, held.mono later⟩
    intro a b aligned
    have instanceOf := aligned.world.isInstance lawful held aligned.later type
    have named := aligned.world.typeName lawful held aligned.later
    obtain ⟨resolves, resolves'⟩ := aligned.resolveType type.name
    simp only [outcome_bind, outcome_world, outcome_frame, proceed_ok, resolves, resolves', instanceOf, named]
    split
    · exact mirrored_raiseWith _ _ a b aligned
    · exact ⟨aligned, rfl, held.mono aligned.later⟩

omit lawful in
theorem mirrored_throwableState (type : String) {values values' : List Value}
    (pictures : mirror.PicturesAll count values values') :
    mirror.Mirrored count sight sight
      (fun count state state' => state' = { state with cause := state.cause.image mirror.place } ∧
        mirror.Held count false state.cause)
      (liftM (throwableState (performer fuel) type values)) (liftM (throwableState (performer fuel) type values')) := by
  obtain ⟨rfl, held⟩ := pictures
  have bare (message : Option String) :
      mirror.Mirrored count sight sight
        (fun count state state' => state' = { state with cause := state.cause.image mirror.place } ∧
          mirror.Held count false state.cause)
        (liftM (pure { type, message } : Run Throwable)) (liftM (pure { type, message } : Run Throwable)) :=
    fun _ _ aligned => ⟨aligned, rfl, held_of_plain rfl⟩
  have caused {value : Value} (held : mirror.Held count false value) :
      mirror.Mirrored count sight sight
        (fun count state state' => state' = { state with cause := state.cause.image mirror.place } ∧
          mirror.Held count false state.cause)
        (liftM (do return { type, message := some (← performer fuel (.text value)), cause := value } : Run Throwable))
        (liftM (do
          return { type, message := some (← performer fuel (.text (value.image mirror.place))),
                   cause := value.image mirror.place } : Run Throwable)) := by
    rw [liftM_bind, liftM_bind]
    refine .andThen (mirrored_text fuel held) ?_
    rintro more text _ later rfl
    exact fun _ _ aligned => ⟨aligned, rfl, held.mono (Nat.le_trans later aligned.later)⟩
  match values with
  | [] => exact bare none
  | [value] =>
    have here := held value List.mem_cons_self
    cases value with
    | null => exact bare none
    | str message => exact bare (some message)
    | _ => exact caused here
  | [message, cause] =>
    have here := held cause (List.mem_cons_of_mem _ List.mem_cons_self)
    intro a b aligned
    cases message <;> exact ⟨aligned, rfl, here.mono aligned.later⟩
  | first :: second :: third :: rest =>
    have refused (values : List Value) (many : values.length = rest.length + 3) (point : Point) :
        outcome (liftM (throwableState (performer fuel) type values) : Code Throwable) point =
          (.error (.failed (.unknownConstructor type (rest.length + 3))), point) := by
      match values, many with
      | first :: second :: third :: others, many =>
        rw [← many]
        cases first <;> rfl
    intro a b aligned
    rw [refused _ rfl, refused _ (by simp)]
    exact .failed _ aligned

theorem mirrored_create {type : JavaType} {values values' : List Value}
    (allowed : type.name ∈ mirror.realm.exceptions) (pictures : mirror.PicturesAll count values values') :
    mirror.Mirrored count sight sight (mirror.Pictures false) (create (performer fuel) type none values)
      (create (performer fuel) type none values') := by
  intro a b aligned
  obtain ⟨library, found, throwable⟩ := lawful.exceptions type.name allowed
  obtain ⟨resolves, resolves'⟩ := aligned.resolveType type.name
  have made : mirror.Mirrored count sight sight (mirror.Pictures false)
      (do
        let state ← throwableState (performer fuel) library values
        allocate (.throwable state) : Code Value)
      (do
        let state ← throwableState (performer fuel) library values'
        allocate (.throwable state) : Code Value) := by
    refine .andThen (mirrored_throwableState library pictures) ?_
    rintro more state _ later ⟨rfl, held⟩
    exact mirrored_allocate (.exception state held)
  have matched := made a b aligned
  simp only [outcome_bind] at matched
  simpa only [create, outcome_bind, outcome_frame, outcome_world, proceed_ok, resolves, resolves', found, throwable,
    if_true] using matched

/-- What stands in front of a dot is a value. -/
theorem mirrored_asReceiver {receiver : Expression} (front : isFront receiver = true)
    (inside : mirror.realm.evaluates sight false receiver = true) {evaluated evaluated' : Code Value}
    (steps : mirror.Mirrored count sight sight (mirror.Pictures false) evaluated evaluated') :
    mirror.Mirrored count sight sight
      (fun count one other => ∃ value, one = .value value ∧ other = .value (value.image mirror.place) ∧
        mirror.Held count false value)
      (asReceiver (performer fuel) receiver evaluated) (asReceiver (performer fuel) receiver evaluated') := by
  have plain : mirror.Mirrored count sight sight
      (fun count one other => ∃ value, one = .value value ∧ other = .value (value.image mirror.place) ∧
        mirror.Held count false value)
      (Receiver.value <$> evaluated) (Receiver.value <$> evaluated') :=
    .map steps fun _ _ _ _ ⟨same, held⟩ => ⟨_, rfl, congrArg Receiver.value same, held⟩
  cases receiver with
  | name name =>
    obtain ⟨known, tight⟩ := Bool.and_eq_true_iff.mp inside
    obtain ⟨undotted, _⟩ := Bool.and_eq_true_iff.mp front
    have first : (Text.split '.' name).headD name = name := by rw [eq_of_beq undotted]; rfl
    change mirror.Mirrored _ _ _ _ (receiverNamed (performer fuel) name) (receiverNamed (performer fuel) name)
    unfold receiverNamed
    rw [first]
    refine .andThen (mirrored_lookup lawful known) ?_
    rintro more _ (_ | value') _ ⟨value, rfl, _, there⟩
    · cases there
    refine .map (mirrored_evalName lawful known) fun more' value _ _ pictures => ?_
    exact ⟨value, rfl, congrArg Receiver.value pictures.1, pictures.2.imp fun open_ => by simp [open_] at tight⟩
  | _ => exact plain

omit lawful

mutual

/-- An expression that keeps to the realm has the same value on both sides. -/
theorem mirrored_eval (lawful : mirror.Lawful) {count : Nat} {loose : Bool} : (e : Expression) →
    mirror.realm.evaluates sight loose e = true →
    mirror.Mirrored count sight sight (mirror.Pictures loose) (eval (performer fuel) e) (eval (performer fuel) e)
  | .name name, inside => by
    obtain ⟨known, held⟩ := Bool.and_eq_true_iff.mp inside
    refine (mirrored_evalName lawful known).imp fun open_ => ?_
    simpa [open_] using held
  | .literal value, _ => by
    have plain : (Value.ofLiteral value).ref? = none := by cases value <;> rfl
    exact mirrored_pure fun _ _ => pictures_of_plain plain
  | .classLiteral type, _ => mirrored_pure fun _ _ => pictures_of_plain rfl
  | .binary op left right, inside => by
    obtain ⟨front, back⟩ := Bool.and_eq_true_iff.mp inside
    cases op with
    | and =>
      refine .andThen (.truth lawful (mirrored_eval lawful left front)) ?_
      rintro more holds _ _ rfl
      cases holds with
      | true =>
        refine .andThen (.truth lawful (mirrored_eval lawful right back)) ?_
        rintro more' holds _ _ rfl
        exact mirrored_bool holds
      | false => exact mirrored_bool false
    | or =>
      refine .andThen (.truth lawful (mirrored_eval lawful left front)) ?_
      rintro more holds _ _ rfl
      cases holds with
      | true => exact mirrored_bool true
      | false =>
        refine .andThen (.truth lawful (mirrored_eval lawful right back)) ?_
        rintro more' holds _ _ rfl
        exact mirrored_bool holds
    | _ =>
      refine .andThen (mirrored_eval lawful left front) ?_
      rintro more value _ later ⟨rfl, held⟩
      refine .andThen (mirrored_eval lawful right back) ?_
      rintro more' value' _ later' ⟨rfl, held'⟩
      exact (mirrored_operate lawful fuel (held.mono later') held').loosen
  | .unary op operand, inside => by
    rw [eval_unary]
    change (if op.steps then _ else _) = true at inside
    split
    · next steps =>
      rw [if_pos steps] at inside
      obtain ⟨name, found⟩ := Option.isSome_iff_exists.mp inside
      refine .andThen (mirrored_evalPlace found) ?_
      rintro more place place' _ located
      exact (mirrored_stepPlace lawful op located).loosen
    · next stays =>
      rw [if_neg stays] at inside
      refine .andThen (mirrored_eval lawful operand inside) ?_
      rintro more value _ _ ⟨rfl, held⟩
      exact (mirrored_operateOne lawful op held).loosen
  | .assign none target value, inside => by
    obtain ⟨name, found, inside⟩ := target_of_assigned inside
    refine .andThen (mirrored_evalPlace found) ?_
    rintro more place place' _ located
    exact mirrored_assignPlace lawful located fun _ => mirrored_eval lawful value inside
  | .assign (some op) target value, inside => by
    obtain ⟨name, found, inside⟩ := target_of_assigned inside
    obtain ⟨tight, inside⟩ := Bool.and_eq_true_iff.mp inside
    refine .andThen (mirrored_evalPlace found) ?_
    rintro more place place' _ located
    refine mirrored_assignPlace_some lawful located (fun open_ => ?_) fun _ => mirrored_eval lawful value inside
    simpa [open_] using tight
  | .instanceOf operand type, inside => by
    refine .andThen (mirrored_eval lawful operand inside) ?_
    rintro more value _ later ⟨rfl, held⟩ a b aligned
    refine ⟨aligned, ?_⟩
    rw [aligned.world.isInstance lawful held aligned.later]
    exact pictures_of_plain rfl
  | .cast type operand, inside => by
    refine .andThen (mirrored_eval lawful operand inside) ?_
    rintro more value _ later ⟨rfl, held⟩
    exact mirrored_castTo lawful type held
  | .conditional condition whenTrue whenFalse, inside => by
    obtain ⟨front, back⟩ := Bool.and_eq_true_iff.mp inside
    obtain ⟨test, front⟩ := Bool.and_eq_true_iff.mp front
    refine .andThen (.truth lawful (mirrored_eval lawful condition test)) ?_
    rintro more holds _ later rfl
    cases holds with
    | true => exact mirrored_eval lawful whenTrue front
    | false => exact mirrored_eval lawful whenFalse back
  | .create type arguments none, inside => by
    obtain ⟨allowed, inside⟩ := Bool.and_eq_true_iff.mp inside
    refine .andThen (mirrored_evalAll lawful arguments inside) ?_
    rintro more values _ later pictures
    exact (mirrored_create lawful (List.contains_iff_mem.mp allowed) pictures).loosen
  | .createArray element sizes unsized none, inside => by
    refine .andThen (mirrored_evalSizes lawful sizes inside) ?_
    rintro more sizes _ _ rfl
    refine (mirrored_makeArray ?_ sizes).loosen
    split
    · rfl
    · exact plain_zero element
  | .createArray _ _ _ (some elements), inside => by
    refine .andThen (mirrored_evalAll lawful elements (Bool.and_eq_true_iff.mp inside).2) ?_
    rintro more items _ _ ⟨rfl, held⟩
    exact (mirrored_allocate (.array items held)).loosen
  | .arrayElements elements, inside => by
    refine .andThen (mirrored_evalAll lawful elements inside) ?_
    rintro more items _ _ ⟨rfl, held⟩
    exact (mirrored_allocate (.array items held)).loosen
  | .element array index, inside => by
    obtain ⟨front, back⟩ := Bool.and_eq_true_iff.mp inside
    refine .andThen (mirrored_eval lawful array front) ?_
    rintro more array _ _ ⟨rfl, held⟩
    refine .andThen (mirrored_eval lawful index back) ?_
    rintro more' index _ later ⟨rfl, held'⟩
    refine .andThen (mirrored_elementPlace lawful (held.mono later) held') ?_
    rintro last ⟨address, place⟩ _ _ ⟨rfl, here⟩
    exact (mirrored_readElement here place).loosen
  | .field receiver name, inside => by
    obtain ⟨front, kept⟩ := Bool.and_eq_true_iff.mp inside
    refine .andThen (mirrored_asReceiver lawful front kept (mirrored_eval lawful receiver kept)) ?_
    rintro more _ _ _ ⟨value, rfl, rfl, held⟩
    exact (mirrored_fieldOf held).loosen
  | .call (some receiver) name _ arguments, inside => by
    obtain ⟨inside, given⟩ := Bool.and_eq_true_iff.mp inside
    obtain ⟨inside, kept⟩ := Bool.and_eq_true_iff.mp inside
    obtain ⟨told, front⟩ := Bool.and_eq_true_iff.mp inside
    simp only [eval_callOn, not_super_of_isFront front, Bool.false_eq_true, if_false]
    refine .andThen (mirrored_asReceiver lawful front kept (mirrored_eval lawful receiver kept)) ?_
    rintro more _ _ _ ⟨value, rfl, rfl, held⟩
    refine .andThen (mirrored_evalAll lawful arguments given) ?_
    rintro more' values _ later ⟨rfl, held'⟩
    exact (mirrored_dispatch lawful (held.mono later) (bne_iff_ne.mp told) held').loosen
  | .create _ _ (some _), inside | .call none _ _ _, inside | .this _, inside | .note _, inside
  | .verbatim _, inside => by cases inside

theorem mirrored_evalAll (lawful : mirror.Lawful) {count : Nat} : (es : List Expression) →
    mirror.realm.evaluatesAll sight es = true →
    mirror.Mirrored count sight sight mirror.PicturesAll (evalAll (performer fuel) es) (evalAll (performer fuel) es)
  | [], _ => mirrored_pure fun _ _ => ⟨rfl, List.forall_mem_nil _⟩
  | e :: rest, inside => by
    obtain ⟨front, back⟩ := Bool.and_eq_true_iff.mp inside
    refine .andThen (mirrored_eval lawful e front) ?_
    rintro more value _ later pictures
    refine .andThen (mirrored_evalAll lawful rest back) ?_
    rintro more' values _ later' all
    exact mirrored_pure fun _ last => (pictures.mono later').cons all last

theorem mirrored_evalSizes (lawful : mirror.Lawful) {count : Nat} : (es : List Expression) →
    mirror.realm.evaluatesAll sight es = true →
    mirror.Mirrored count sight sight (fun _ => Eq) (evalSizes (performer fuel) es) (evalSizes (performer fuel) es)
  | [], _ => mirrored_pure fun _ _ => rfl
  | e :: rest, inside => by
    obtain ⟨front, back⟩ := Bool.and_eq_true_iff.mp inside
    refine .andThen (mirrored_eval lawful e front) ?_
    rintro more value _ _ ⟨rfl, held⟩
    refine .andThen (mirrored_arraySize lawful held) ?_
    rintro more' size _ _ rfl
    refine .andThen (mirrored_evalSizes lawful rest back) ?_
    rintro last sizes _ _ rfl
    exact mirrored_pure fun _ _ => rfl

end

end Expressions

section Statements

variable {mirror : Mirror} {count fuel : Nat} {sight : Sight} {value : Value}

/-- Ways in which statements end on both sides. -/
inductive Endings (mirror : Mirror) (count : Nat) : Flow → Flow → Prop
  | normal : Endings mirror count .normal .normal
  | breaks (target : Option String) : Endings mirror count (.breaks target) (.breaks target)
  | continues (target : Option String) : Endings mirror count (.continues target) (.continues target)
  | returns {value value' : Value} (pictures : mirror.Pictures true count value value') :
      Endings mirror count (.returns value) (.returns value')

/-- What the end of a pass means for a loop on both sides. -/
inductive PassEndings (mirror : Mirror) (count : Nat) : Option Flow → Option Flow → Prop
  | again : PassEndings mirror count none none
  | done {flow flow' : Flow} (endings : mirror.Endings count flow flow') :
      PassEndings mirror count (some flow) (some flow')

theorem Endings.mono {more : Nat} {flow flow' : Flow} (endings : mirror.Endings count flow flow')
    (later : count ≤ more) : mirror.Endings more flow flow' := by
  cases endings with
  | normal => exact .normal
  | breaks target => exact .breaks target
  | continues target => exact .continues target
  | returns pictures => exact .returns (pictures.mono later)

theorem Endings.normal_iff {flow flow' : Flow} (endings : mirror.Endings count flow flow') :
    flow = .normal ↔ flow' = .normal := by
  cases endings <;> simp

theorem Endings.afterPass {flow flow' : Flow} (endings : mirror.Endings count flow flow') (label : Option String) :
    mirror.PassEndings count (afterPass label flow) (afterPass label flow') := by
  cases endings with
  | normal => exact .again
  | breaks target =>
    cases target with
    | none => exact .done .normal
    | some target =>
      simp only [Interpreter.afterPass]
      split
      · exact .done .normal
      · exact .done (.breaks _)
  | continues target =>
    cases target with
    | none => exact .again
    | some target =>
      simp only [Interpreter.afterPass]
      split
      · exact .again
      · exact .done (.continues _)
  | returns pictures => exact .done (.returns pictures)

theorem Endings.afterLabel {flow flow' : Flow} (endings : mirror.Endings count flow flow') (label : String) :
    mirror.Endings count (afterLabel label flow) (afterLabel label flow') := by
  cases endings with
  | normal => exact .normal
  | breaks target =>
    cases target with
    | none => exact .breaks none
    | some target =>
      simp only [Interpreter.afterLabel]
      split
      · exact .normal
      · exact .breaks _
  | continues target => exact .continues target
  | returns pictures => exact .returns pictures

/-- Steps whose result does not matter. -/
theorem Mirrored.ignore {α : Type} {before after : Sight} {like : Nat → α → α → Prop} {first second : Code α}
    (steps : mirror.Mirrored count before after like first second) :
    mirror.Mirrored count before after (fun _ _ _ => True) (discard first) (discard second) :=
  .map steps fun _ _ _ _ _ => trivial

theorem mirrored_normal :
    mirror.Mirrored count sight sight mirror.Endings (pure .normal) (pure .normal) :=
  mirrored_pure fun _ _ => .normal

/-- Behind a statement at least as much is declared as before. -/
theorem Mirrored.within {s : Statement} {first second : Code Flow}
    (steps : mirror.Mirrored count sight (sight.after s) mirror.Endings first second) :
    mirror.Mirrored count sight sight mirror.Endings first second := steps.mono (sight.within_after s) fun _ _ _ => id

theorem Aligned.declare {a b : Point} (name : String) (aligned : mirror.Aligned sight count a b)
    (held : mirror.Held a.2.size (mirror.realm.loose name) value) :
    mirror.Aligned (sight.declare name) count (a.1.declare name value, a.2)
      (b.1.declare name (value.image mirror.place), b.2) := by
  have same (frame : Frame) : (frame.declare name value).self = frame.self ∧
      (frame.declare name value).type = frame.type := by
    obtain ⟨type, self, returnType, _ | _⟩ := frame <;> exact ⟨rfl, rfl⟩
  exact { aligned with
    self := (same a.1).1.trans aligned.self
    type := (same a.1).2.trans aligned.type
    sees := sees_declare aligned.sees held
    frame := (congrArg (Frame.declare name (value.image mirror.place)) aligned.frame).trans (Frame.declare_image ..) }

theorem mirrored_declare {name : String} (held : mirror.Held count (mirror.realm.loose name) value) :
    mirror.Mirrored count sight (sight.declare name) (fun _ _ _ => True) (modifyFrame (.declare name value))
      (modifyFrame (.declare name (value.image mirror.place))) :=
  fun _ _ aligned => ⟨aligned.declare name (held.mono aligned.later), trivial⟩

/-- A handler is run with an exception that the code has made. -/
theorem Mirrored.guarded {body body' : Code Flow} {handler handler' : Value → Code Flow}
    (steps : mirror.Mirrored count sight sight mirror.Endings body body')
    (handles : ∀ more thrown, mirror.Held more false thrown →
      mirror.Mirrored more sight sight mirror.Endings (handler thrown) (handler' (thrown.image mirror.place))) :
    mirror.Mirrored count sight sight mirror.Endings (guarded body handler) (guarded body' handler') := by
  refine tied_guarded steps (fun thrown thrown' => ?_) (fun u v a b unwound => ?_) fun _ _ _ _ unwound _ => unwound
  · rintro a b unwound
    cases unwound with
    | thrown aligned held =>
      have here : mirror.Aligned sight a.2.size a b := { aligned with later := Nat.le_refl _ }
      refine (handles _ thrown held a b here).mono
        (fun _ _ _ _ unwound => unwound.mono sight.within_refl aligned.later) fun _ _ _ _ ⟨aligned', endings⟩ => ?_
      exact ⟨aligned'.mono sight.within_refl aligned.later, endings⟩
  · cases unwound <;> simp

theorem Mirrored.ensuring {body body' finalizer finalizer' : Code Flow}
    (steps : mirror.Mirrored count sight sight mirror.Endings body body')
    (finishes : ∀ more, mirror.Mirrored more sight sight mirror.Endings finalizer finalizer') :
    mirror.Mirrored count sight sight mirror.Endings (ensuring body finalizer) (ensuring body' finalizer') := by
  -- The finalizer runs when so many objects have been made that the values of the end of the body are held.
  refine @tied_ensuring _ _ _ { more // count ≤ more } (fun more => mirror.Aligned sight more) _ _ _ _ steps
    (fun more => ?_) (fun f g a b related => ?_) (fun u v a b unwound => ?_)
    (fun _ _ _ _ related => related.2.normal_iff) fun u v _ _ unwound => ?_
  · refine Tied.mono (finishes more) (fun _ _ start => start)
      (fun _ _ _ _ unwound => unwound.mono sight.within_refl more.2) fun _ _ _ _ ⟨aligned, endings⟩ => ?_
    exact ⟨⟨aligned.mono sight.within_refl more.2, endings⟩, fun _ => aligned⟩
  · obtain ⟨aligned, endings⟩ := related
    refine ⟨⟨a.2.size, aligned.later⟩, { aligned with later := Nat.le_refl _ }, fun a' b' aligned' => ?_⟩
    exact ⟨aligned'.mono sight.within_refl aligned.later, endings.mono aligned'.later⟩
  · have aligned := unwound.aligned
    refine ⟨⟨a.2.size, aligned.later⟩, { aligned with later := Nat.le_refl _ }, fun a' b' aligned' => ?_⟩
    exact unwound.map (aligned'.mono sight.within_refl aligned.later) aligned'.later
  · cases unwound <;> simp

theorem Mirrored.passes {body body' : Code Flow} {label : Option String}
    (steps : mirror.Mirrored count sight sight mirror.Endings body body') :
    mirror.Mirrored count sight sight mirror.PassEndings (afterPass label <$> body) (afterPass label <$> body') :=
  .map steps fun _ _ _ _ endings => endings.afterPass label

theorem Mirrored.repeatWhile {condition condition' : Code Bool} {pass pass' : Code (Option Flow)}
    (holds : mirror.Mirrored count sight sight (fun _ => Eq) condition condition')
    (passes : mirror.Mirrored count sight sight mirror.PassEndings pass pass') (fuel : Nat) :
    mirror.Mirrored count sight sight mirror.Endings (repeatWhile condition pass fuel)
      (repeatWhile condition' pass' fuel) := by
  refine tied_repeatWhile holds (Tied.mono passes (fun _ _ start => start) (fun _ _ _ _ unwound => unwound) ?_)
    (fun _ _ aligned => .outOfFuel aligned) (fun _ _ aligned => ⟨aligned, .normal⟩) fuel
  rintro _ _ a b ⟨aligned, endings⟩
  cases endings with
  | again => exact aligned
  | done endings => exact ⟨aligned, endings⟩

/-- A pass that goes on with other steps unless it ends the loop. -/
theorem Mirrored.thenPass {α : Type} {like : Nat → α → α → Prop} {body body' : Code Flow} {label : Option String}
    {ended ended' : Flow → Code α} {next next' : Code α}
    (steps : mirror.Mirrored count sight sight mirror.Endings body body')
    (ends : ∀ more flow flow', count ≤ more → mirror.Endings more flow flow' →
      mirror.Mirrored more sight sight like (ended flow) (ended' flow'))
    (onward : ∀ more, count ≤ more → mirror.Mirrored more sight sight like next next') :
    mirror.Mirrored count sight sight like
      (do match afterPass label (← body) with | some flow => ended flow | none => next)
      (do match afterPass label (← body') with | some flow => ended' flow | none => next') := by
  refine .andThen steps fun more flow flow' later endings => ?_
  have passed := endings.afterPass label
  generalize afterPass label flow = pass, afterPass label flow' = pass' at passed ⊢
  cases passed with
  | again => exact onward more later
  | done endings => exact ends more _ _ later endings

section

variable (lawful : mirror.Lawful)

include lawful

theorem mirrored_matchesLabel {label : Expression} (held : mirror.Held count true value)
    (inside : mirror.realm.evaluates sight true label = true) :
    mirror.Mirrored count sight sight (fun _ => Eq) (matchesLabel (.ofPerformer (performer fuel)) value label)
      (matchesLabel (.ofPerformer (performer fuel)) (value.image mirror.place) label) := by
  have compared : mirror.Mirrored count sight sight (fun _ => Eq)
      (do return value.same (← eval (performer fuel) label))
      (do return (value.image mirror.place).same (← eval (performer fuel) label)) := by
    refine .andThen (mirrored_eval lawful label inside) ?_
    rintro more other _ later ⟨rfl, held'⟩
    exact mirrored_pure fun _ _ => (lawful.same_image (held.mono later) held').symm
  intro a b aligned
  have constant := aligned.world.constant? lawful held aligned.later
  simp only [matchesLabel, outcome_bind, outcome_heap, proceed_ok, constant]
  split
  · exact ⟨aligned, rfl⟩
  · exact compared a b aligned

theorem mirrored_labeledCase (held : mirror.Held count true value) (place : Nat) {cases : List SwitchCase}
    (inside : ∀ group ∈ cases, group.label.all (mirror.realm.evaluates sight true) = true) :
    mirror.Mirrored count sight sight (fun _ => Eq)
      (labeledCase? (.ofPerformer (performer fuel)) value place cases)
      (labeledCase? (.ofPerformer (performer fuel)) (value.image mirror.place) place cases) := by
  induction cases generalizing place count with
  | nil => exact mirrored_pure fun _ _ => rfl
  | cons group rest ih =>
    have later := List.forall_mem_cons.mp inside
    obtain ⟨_ | label, body⟩ := group
    · exact ih held (place + 1) later.2
    · simp only [labeledCase?]
      refine .andThen (mirrored_matchesLabel lawful held later.1) ?_
      rintro more found _ more' rfl
      cases found with
      | true => exact mirrored_pure fun _ _ => rfl
      | false => exact ih (held.mono more') (place + 1) later.2

theorem mirrored_firstCase (held : mirror.Held count true value) {cases : List SwitchCase}
    (inside : ∀ group ∈ cases, group.label.all (mirror.realm.evaluates sight true) = true) :
    mirror.Mirrored count sight sight (fun _ => Eq) (firstCase? (.ofPerformer (performer fuel)) value cases)
      (firstCase? (.ofPerformer (performer fuel)) (value.image mirror.place) cases) := by
  refine .andThen (mirrored_labeledCase lawful held 0 inside) ?_
  rintro more found _ _ rfl
  exact mirrored_pure fun _ _ => rfl

theorem mirrored_declareLocal {type : JavaType} {modifiers : Modifiers} {annotations : List Annotation} {name : String}
    {initial : Option Expression}
    (inside : (match initial with
      | some e => mirror.realm.evaluates sight (mirror.realm.loose name) e
      | none => true) = true) :
    mirror.Mirrored count sight (sight.declare name) (fun _ _ _ => True)
      (declareLocal (.ofPerformer (performer fuel)) ⟨modifiers, annotations, type, name, initial⟩)
      (declareLocal (.ofPerformer (performer fuel)) ⟨modifiers, annotations, type, name, initial⟩) := by
  cases initial with
  | none =>
    have plain := plain_zero type
    have declared : mirror.Mirrored count sight (sight.declare name) (fun _ _ _ => True) _ _ :=
      mirrored_declare (held_of_plain plain)
    rwa [Value.image_of_plain plain] at declared
  | some e =>
    have given : mirror.Mirrored count sight sight (mirror.Pictures (mirror.realm.loose name))
        (coerce type <$> eval (performer fuel) e) (coerce type <$> eval (performer fuel) e) := by
      refine .map (mirrored_eval lawful e inside) ?_
      rintro more value _ _ ⟨rfl, held⟩
      exact ⟨coerce_image type, held.coerce type⟩
    refine .andThen given ?_
    rintro more value _ _ ⟨rfl, held⟩
    exact mirrored_declare held

end

/-- Code that does not yield performs what it evaluates. -/
theorem evaluates_of_performs {realm : Realm} {e : Expression} (quiet : realm.yields = false)
    (inside : realm.performs sight e = true) : realm.evaluates sight true e = true := by
  unfold Realm.performs at inside
  split at inside
  · rw [quiet] at inside
    cases inside
  · exact inside

/-- The expressions behind the passes of a loop. -/
theorem mirrored_updates (lawful : mirror.Lawful) {update : List Expression}
    (inside : ∀ e ∈ update, mirror.realm.evaluates sight true e = true) :
    mirror.Mirrored count sight sight (fun _ _ _ => True)
      (update.forM fun e => discard (eval (performer fuel) e))
      (update.forM fun e => discard (eval (performer fuel) e)) := by
  induction update generalizing count with
  | nil => exact mirrored_pure fun _ _ => trivial
  | cons e rest ih =>
    obtain ⟨front, back⟩ := List.forall_mem_cons.mp inside
    refine .andThen (.ignore (mirrored_eval lawful e front)) ?_
    rintro more _ _ _ -
    exact ih back

/-- An exception is caught on both sides, or it is offered to the clauses behind. -/
theorem mirrored_catch {steps : Nat} {thrown : Value} (parameter : Parameter) {body : List Statement}
    {rest : List CatchClause} (lawful : mirror.Lawful) (held : mirror.Held count false thrown)
    (here : ∀ more, count ≤ more → mirror.Mirrored more ([parameter.name] :: sight) ([parameter.name] :: sight)
      mirror.Endings (execAll (.ofPerformer (performer fuel)) steps body)
      (execAll (.ofPerformer (performer fuel)) steps body))
    (others : mirror.Mirrored count sight sight mirror.Endings
      (execCatches (.ofPerformer (performer fuel)) steps thrown rest)
      (execCatches (.ofPerformer (performer fuel)) steps (thrown.image mirror.place) rest)) :
    mirror.Mirrored count sight sight mirror.Endings
      (execCatches (.ofPerformer (performer fuel)) steps thrown (⟨parameter, body⟩ :: rest))
      (execCatches (.ofPerformer (performer fuel)) steps (thrown.image mirror.place) (⟨parameter, body⟩ :: rest)) := by
  have within : Sight.Within ([] :: sight) ([parameter.name] :: sight) :=
    .cons (List.nil_subset _) sight.within_refl
  have taken : mirror.Mirrored count sight sight mirror.Endings
      (inScope do
        modifyFrame (.declare parameter.name thrown)
        execAll (.ofPerformer (performer fuel)) steps body)
      (inScope do
        modifyFrame (.declare parameter.name (thrown.image mirror.place))
        execAll (.ofPerformer (performer fuel)) steps body) := by
    refine .inScope (.mono (.bind within (mirrored_declare held.loosen) ?_) within fun _ _ _ => id)
    rintro more _ _ later -
    exact here more later
  intro a b aligned
  have same := aligned.world.catches lawful held aligned.later parameter.type
  rw [execCatches_cons, execCatches_cons]
  simp only [outcome_bind, outcome_world, proceed_ok, same]
  split
  · exact taken a b aligned
  · exact others a b aligned

/-- A pass for each item and one for its copy. -/
theorem Mirrored.repeatEach {pass pass' : Value → Code (Option Flow)} {items : List Value}
    (held : ∀ item ∈ items, mirror.Held count false item)
    (passes : ∀ more item, mirror.Held more false item →
      mirror.Mirrored more sight sight mirror.PassEndings (pass item) (pass' (item.image mirror.place))) :
    mirror.Mirrored count sight sight mirror.Endings (repeatEach pass items)
      (repeatEach pass' (items.map (Value.image mirror.place))) := by
  induction items generalizing count with
  | nil => exact mirrored_normal
  | cons item rest ih =>
    obtain ⟨here, others⟩ := List.forall_mem_cons.mp held
    refine .andThen (passes count item here) ?_
    rintro more _ _ later endings
    cases endings with
    | again => exact ih fun other member => (others other member).mono later
    | done endings => exact mirrored_pure fun _ last => endings.mono last

/-- The walk through what a value hands out. -/
theorem mirrored_iterate (lawful : mirror.Lawful) {steps : Nat} {item : LocalVariable} {iterable : Expression}
    {pass : Code (Option Flow)} (inside : mirror.realm.evaluates sight false iterable = true)
    (passes : ∀ more, mirror.Mirrored more (sight.declare item.name) (sight.declare item.name) mirror.PassEndings pass
      pass) :
    mirror.Mirrored count sight sight mirror.Endings (iterate (.ofPerformer (performer fuel)) steps item iterable pass)
      (iterate (.ofPerformer (performer fuel)) steps item iterable pass) := by
  have asked (name : String) (told : name ≠ "hashCode") {more : Nat} {value : Value}
      (held : mirror.Held more false value) :
      mirror.Mirrored more sight sight (mirror.Pictures false) (liftM (dispatch (performer fuel) value name []))
        (liftM (dispatch (performer fuel) (value.image mirror.place) name [])) :=
    mirrored_dispatch lawful held told (List.forall_mem_nil _)
  have passWith (more : Nat) (value : Value) (held : mirror.Held more false value) :
      mirror.Mirrored more sight sight mirror.PassEndings
        (do
          modifyFrame (.declare item.name (coerce item.type value))
          pass)
        (do
          modifyFrame (.declare item.name (coerce item.type (value.image mirror.place)))
          pass) := by
    rw [coerce_image]
    have within := sight.within_declare item.name
    refine .mono (.bind within (mirrored_declare (held.coerce item.type).loosen) ?_) within fun _ _ _ => id
    rintro last _ _ _ -
    exact passes last
  refine .andThen (mirrored_eval lawful iterable inside) ?_
  rintro more value _ _ ⟨rfl, held⟩
  refine .andThen (mirrored_nonNull held) ?_
  rintro more' source _ _ ⟨rfl, held⟩
  refine .looking fun a b aligned later => ?_
  have walked : mirror.Mirrored a.2.size sight sight mirror.Endings
      (do
        let iterator ← liftM (dispatch (performer fuel) source "iterator" [])
        repeatWhile (truth (liftM (dispatch (performer fuel) iterator "hasNext" [])))
          (do
            let value ← liftM (dispatch (performer fuel) iterator "next" [])
            modifyFrame (.declare item.name (coerce item.type value))
            pass) steps)
      (do
        let iterator ← liftM (dispatch (performer fuel) (source.image mirror.place) "iterator" [])
        repeatWhile (truth (liftM (dispatch (performer fuel) iterator "hasNext" [])))
          (do
            let value ← liftM (dispatch (performer fuel) iterator "next" [])
            modifyFrame (.declare item.name (coerce item.type value))
            pass) steps) := by
    refine .andThen (asked "iterator" (by decide) (held.mono later)) ?_
    rintro more iterator _ _ ⟨rfl, held⟩
    refine .repeatWhile (.truth lawful (asked "hasNext" (by decide) held).loosen) ?_ steps
    refine .andThen (asked "next" (by decide) held) ?_
    rintro last value _ _ ⟨rfl, held⟩
    exact passWith last value held
  refine ⟨_, _, outcome_bind_heap _ a, outcome_bind_heap _ b, ?_⟩
  rcases aligned.world.copied? held later with plain | ⟨_, object, object', rfl, there, there', copied⟩
  · have none (heap : Heap) : heap.items? source = none := by rw [Heap.items?, Heap.object?, plain]; rfl
    rw [Value.image_of_plain plain] at walked ⊢
    rw [none, none]
    exact walked
  simp only [Value.image, Heap.items?, Heap.object?, Value.ref?, Option.bind_some, there, there']
  cases copied with
  | exception => exact walked
  | array items inside => exact .repeatEach inside fun more item here => passWith more item here

mutual

/-- A statement that keeps to the realm does the same on both sides. -/
theorem mirrored_exec (lawful : mirror.Lawful) (steps : Nat) {count : Nat} {sight : Sight} (label : Option String) :
    (s : Statement) → mirror.realm.runs sight s = true →
    mirror.Mirrored count sight (sight.after s) mirror.Endings (exec (.ofPerformer (performer fuel)) steps label s)
      (exec (.ofPerformer (performer fuel)) steps label s)
  | .block body, inside => .inScope (mirrored_execAll lawful steps body inside)
  | .expression e, inside => by
    have kept := evaluates_of_performs lawful.quiet inside
    refine .andThen (.ignore (mirrored_eval lawful e kept)) ?_
    rintro more _ _ _ -
    exact mirrored_normal
  | .declare ⟨modifiers, annotations, type, name, initial⟩, inside => by
    refine .bind (sight.within_declare name) (mirrored_declareLocal lawful (Bool.and_eq_true_iff.mp inside).2) ?_
    rintro more _ _ _ -
    exact mirrored_normal
  | .ifElse condition whenTrue none, inside => by
    obtain ⟨both, _⟩ := Bool.and_eq_true_iff.mp inside
    obtain ⟨test, front⟩ := Bool.and_eq_true_iff.mp both
    refine .andThen (.truth lawful (mirrored_eval lawful condition test)) ?_
    rintro more holds _ _ rfl
    cases holds with
    | true => exact (mirrored_exec lawful steps none whenTrue front).within
    | false => exact mirrored_normal
  | .ifElse condition whenTrue (some whenFalse), inside => by
    obtain ⟨both, back⟩ := Bool.and_eq_true_iff.mp inside
    obtain ⟨test, front⟩ := Bool.and_eq_true_iff.mp both
    refine .andThen (.truth lawful (mirrored_eval lawful condition test)) ?_
    rintro more holds _ _ rfl
    cases holds with
    | true => exact (mirrored_exec lawful steps none whenTrue front).within
    | false => exact (mirrored_exec lawful steps none whenFalse back).within
  | .whileLoop condition body, inside => by
    obtain ⟨test, inside⟩ := Bool.and_eq_true_iff.mp inside
    have pass : mirror.Mirrored count _ _ _ _ _ := (mirrored_exec lawful steps none body inside).within
    exact .inScope (.repeatWhile (.truth lawful (mirrored_eval lawful condition test)) pass.passes steps)
  | .doWhile body condition, inside => by
    obtain ⟨test, inside⟩ := Bool.and_eq_true_iff.mp inside
    have pass (count : Nat) : mirror.Mirrored count _ _ _ _ _ := (mirrored_exec lawful steps none body inside).within
    refine .inScope (.thenPass (pass _) (fun _ _ _ _ endings => mirrored_pure fun _ later => endings.mono later) ?_)
    rintro more -
    exact .repeatWhile (.truth lawful (mirrored_eval lawful condition test)) (pass _).passes steps
  | .forLoop start condition update body, inside => by
    obtain ⟨inside, body'⟩ := Bool.and_eq_true_iff.mp inside
    obtain ⟨inside, updates⟩ := Bool.and_eq_true_iff.mp inside
    obtain ⟨begins, test⟩ := Bool.and_eq_true_iff.mp inside
    have within := Sight.within_afterAll ([] :: sight) start
    refine .inScope (.mono (.bind within (mirrored_execStart lawful steps start begins) ?_) within fun _ _ _ => id)
    rintro more _ _ _ -
    refine .repeatWhile ?_ (.thenPass (mirrored_exec lawful steps none body body').within ?_ ?_) steps
    · cases condition with
      | some condition => exact .truth lawful (mirrored_eval lawful condition test)
      | none => exact mirrored_pure fun _ _ => rfl
    · exact fun more flow flow' _ endings => mirrored_pure fun _ later => .done (endings.mono later)
    · rintro more' -
      refine .andThen (mirrored_updates lawful (List.all_eq_true.mp updates)) ?_
      rintro more'' _ _ _ -
      exact mirrored_pure fun _ _ => .again
  | .forEach ⟨_, _, _, name, _⟩ iterable body, inside => by
    obtain ⟨both, within⟩ := Bool.and_eq_true_iff.mp inside
    obtain ⟨_, kept⟩ := Bool.and_eq_true_iff.mp (Bool.and_eq_true_iff.mp both).2
    have pass (count : Nat) : mirror.Mirrored count _ _ _ _ _ := (mirrored_exec lawful steps none body within).within
    exact .inScope (mirrored_iterate lawful kept fun more => (pass more).passes)
  | .localType _, inside | .verbatim _, inside => by cases inside
  | .switch selector cases, inside => by
    obtain ⟨inside, groups⟩ := Bool.and_eq_true_iff.mp inside
    obtain ⟨selects, labels⟩ := Bool.and_eq_true_iff.mp inside
    refine .andThen (mirrored_eval lawful selector selects) ?_
    rintro more value _ _ ⟨rfl, held⟩
    refine .andThen (mirrored_nonNull held) ?_
    rintro more' value _ _ ⟨rfl, held⟩
    refine .andThen (mirrored_firstCase lawful held (List.all_eq_true.mp labels)) ?_
    rintro more'' first _ _ rfl
    cases first with
    | some first => exact .inScope (mirrored_execCases lawful steps first cases groups)
    | none => exact mirrored_normal
  | .tryCatch body catches none, inside => by
    obtain ⟨both, _⟩ := Bool.and_eq_true_iff.mp inside
    obtain ⟨front, back⟩ := Bool.and_eq_true_iff.mp both
    exact .guarded (.inScope (mirrored_execAll lawful steps body front)) fun more thrown held =>
      mirrored_execCatches lawful steps held catches back
  | .tryCatch body catches (some finalizer), inside => by
    obtain ⟨both, last⟩ := Bool.and_eq_true_iff.mp inside
    obtain ⟨front, back⟩ := Bool.and_eq_true_iff.mp both
    refine .ensuring ?_ fun more => .inScope (mirrored_execAll lawful steps finalizer last)
    exact .guarded (.inScope (mirrored_execAll lawful steps body front)) fun more thrown held =>
      mirrored_execCatches lawful steps held catches back
  | .synchronized lock body, inside => by
    obtain ⟨inside, back⟩ := Bool.and_eq_true_iff.mp inside
    obtain ⟨front, _⟩ := Bool.and_eq_true_iff.mp inside
    refine .andThen (mirrored_eval lawful lock front) ?_
    rintro more value _ _ ⟨rfl, held⟩
    refine .andThen (.ignore (mirrored_nonNull held)) ?_
    rintro more' _ _ _ -
    exact .inScope (mirrored_execAll lawful steps body back)
  | .returns none, _ => mirrored_pure fun _ _ => .returns (pictures_of_plain rfl)
  | .returns (some value), inside => .map (mirrored_eval lawful value inside) fun _ _ _ _ pictures => .returns pictures
  | .returnsDefault, _ => by
    intro a b aligned
    have plain := plain_zero a.1.returnType
    have same : b.1.returnType = a.1.returnType := by rw [aligned.frame]; rfl
    refine ⟨aligned, .returns ⟨?_, held_of_plain plain⟩⟩
    rw [Value.image_of_plain plain, same]
  | .throws value, inside => by
    refine .andThen (mirrored_eval lawful value inside) ?_
    rintro more value _ _ ⟨rfl, held⟩
    refine .andThen (mirrored_nonNull held) ?_
    rintro more' value _ _ ⟨rfl, held⟩
    exact mirrored_throw held
  | .breaks target, _ => mirrored_pure fun _ _ => .breaks target
  | .continues target, _ => mirrored_pure fun _ _ => .continues target
  | .labeled name body, inside =>
    .map (mirrored_exec lawful steps (some name) body inside).within fun _ _ _ _ endings => endings.afterLabel name
  | .empty, _ => mirrored_normal

theorem mirrored_execAll (lawful : mirror.Lawful) (steps : Nat) {count : Nat} {sight : Sight} :
    (body : List Statement) → mirror.realm.runsAll sight body = true →
    mirror.Mirrored count sight sight mirror.Endings (execAll (.ofPerformer (performer fuel)) steps body)
      (execAll (.ofPerformer (performer fuel)) steps body)
  | [], _ => mirrored_normal
  | s :: rest, inside => by
    obtain ⟨front, back⟩ := Bool.and_eq_true_iff.mp inside
    have within := sight.within_after s
    refine .bind within (mirrored_exec lawful steps none s front) fun more flow flow' _ endings => ?_
    cases endings with
    | normal => exact (mirrored_execAll lawful steps rest back).mono within fun _ _ _ => id
    | breaks target => exact (mirrored_pure fun _ _ => .breaks target).mono within fun _ _ _ => id
    | continues target => exact (mirrored_pure fun _ _ => .continues target).mono within fun _ _ _ => id
    | returns pictures =>
      exact (mirrored_pure fun _ later => .returns (pictures.mono later)).mono within fun _ _ _ => id

theorem mirrored_execStart (lawful : mirror.Lawful) (steps : Nat) {count : Nat} {sight : Sight} :
    (body : List Statement) → mirror.realm.runsAll sight body = true →
    mirror.Mirrored count sight (sight.afterAll body) (fun _ _ _ => True)
      (execStart (.ofPerformer (performer fuel)) steps body) (execStart (.ofPerformer (performer fuel)) steps body)
  | [], _ => mirrored_pure fun _ _ => trivial
  | s :: rest, inside => by
    obtain ⟨front, back⟩ := Bool.and_eq_true_iff.mp inside
    refine .bind (sight.within_after s) (.ignore (mirrored_exec lawful steps none s front)) ?_
    rintro more _ _ _ -
    exact mirrored_execStart lawful steps rest back

theorem mirrored_execCases (lawful : mirror.Lawful) (steps : Nat) {count : Nat} {sight : Sight} :
    (first : Nat) → (cases : List SwitchCase) → mirror.realm.runsCases sight cases = true →
    mirror.Mirrored count sight sight mirror.Endings (execCases (.ofPerformer (performer fuel)) steps first cases)
      (execCases (.ofPerformer (performer fuel)) steps first cases)
  | 0, [], _ | _ + 1, [], _ => mirrored_normal
  | skipped + 1, ⟨_, _⟩ :: rest, inside =>
    mirrored_execCases lawful steps skipped rest (Bool.and_eq_true_iff.mp inside).2
  | 0, ⟨_, body⟩ :: rest, inside => by
    obtain ⟨front, back⟩ := Bool.and_eq_true_iff.mp inside
    refine .andThen (mirrored_execAll lawful steps body front) fun more flow flow' _ endings => ?_
    cases endings with
    | normal => exact mirrored_execCases lawful steps 0 rest back
    | breaks target =>
      cases target with
      | none => exact mirrored_normal
      | some target => exact mirrored_pure fun _ _ => .breaks target
    | continues target => exact mirrored_pure fun _ _ => .continues target
    | returns pictures => exact mirrored_pure fun _ later => .returns (pictures.mono later)

theorem mirrored_execCatches (lawful : mirror.Lawful) (steps : Nat) {count : Nat} {sight : Sight} {thrown : Value}
    (held : mirror.Held count false thrown) : (catches : List CatchClause) →
    mirror.realm.runsCatches sight catches = true →
    mirror.Mirrored count sight sight mirror.Endings
      (execCatches (.ofPerformer (performer fuel)) steps thrown catches)
      (execCatches (.ofPerformer (performer fuel)) steps (thrown.image mirror.place) catches)
  | [], _ => mirrored_throw held
  | ⟨⟨_, _, _, _⟩, body⟩ :: rest, inside => by
    obtain ⟨both, others⟩ := Bool.and_eq_true_iff.mp inside
    exact mirrored_catch _ lawful held (fun _ _ => mirrored_execAll lawful steps body (Bool.and_eq_true_iff.mp both).2)
      (mirrored_execCatches lawful steps held rest others)

end

/-- What calls return whose bodies end in the same way. -/
theorem Endings.callResult {flow flow' : Flow} (endings : mirror.Endings count flow flow') (type : JavaType) :
    (∃ value, callResult type (.ok flow) = .ok value ∧ callResult type (.ok flow') = .ok (value.image mirror.place) ∧
      mirror.Held count true value) ∨
    ∃ fault, callResult type (.ok flow) = .error (.failed fault) ∧
      callResult type (.ok flow') = .error (.failed fault) := by
  cases endings with
  | normal => exact Or.inl ⟨.null, rfl, rfl, held_of_plain rfl⟩
  | breaks target => exact Or.inr ⟨_, rfl, rfl⟩
  | continues target => exact Or.inr ⟨_, rfl, rfl⟩
  | returns pictures =>
    obtain ⟨rfl, held⟩ := pictures
    exact Or.inl ⟨_, rfl, congrArg Except.ok (coerce_image type), held.coerce type⟩

/-- Where calls begin on the object and on its copy. -/
theorem aligned_startFrame (method : Method) {world world' : World} (reflects : mirror.Reflects world world') :
    mirror.Aligned [[]] world.size (startFrame mirror.type method mirror.self, world)
      (startFrame mirror.type method mirror.copy, world') where
  self := rfl
  type := rfl
  sees := .cons ⟨rfl, nofun, nofun⟩ .nil
  frame := rfl
  world := reflects
  later := Nat.le_refl _

/-- A call on the object and a call on its copy come to the same. -/
theorem mirrored_invoke {method : Method} {values values' : List Value} (bound : method.isStatic = false)
    (runs : ∀ more, count ≤ more → mirror.Mirrored more [[]] [[]] mirror.Endings
      (do
        bindParameters method.parameters values
        execAll (.ofPerformer (performer fuel)) fuel method.body)
      (do
        bindParameters method.parameters values'
        execAll (.ofPerformer (performer fuel)) fuel method.body)) :
    mirror.Mirrored count sight sight (mirror.Pictures true)
      (liftM (performer (fuel + 1) (.invoke mirror.type method (some mirror.self) values)))
      (liftM (performer (fuel + 1) (.invoke mirror.type method (some mirror.copy) values'))) := by
  intro a b aligned
  have deep := aligned.world.depth
  rcases Nat.lt_or_ge a.2.depth depthLimit with room | full
  · have begins : mirror.Aligned [[]] a.2.size
        (startFrame mirror.type method mirror.self, a.2.atDepth (a.2.depth + 1))
        (startFrame mirror.type method mirror.copy, b.2.atDepth (b.2.depth + 1)) :=
      aligned_startFrame method (aligned.world.level (· + 1))
    have level {p q : Point} (ends : mirror.Aligned [[]] a.2.size p q) : mirror.Aligned sight count
        (a.1, p.2.atDepth (p.2.depth - 1)) (b.1, q.2.atDepth (q.2.depth - 1)) :=
      aligned.step (ends.world.level (· - 1)) ends.later
    have answered (self : Address) (values : List Value) (world : World) (room : world.depth < depthLimit) :
        performer (fuel + 1) (.invoke mirror.type method (some self) values) world =
          let ending := outcome (do
              bindParameters method.parameters values
              execAll (.ofPerformer (performer fuel)) fuel method.body)
            (startFrame mirror.type method self, world.atDepth (world.depth + 1))
          (callResult method.returnType ending.1, ending.2.2.atDepth (ending.2.2.depth - 1)) :=
      performer_invoke bound room (outcome_bind ..).symm
    have matched := runs a.2.size aligned.later _ _ begins
    rw [outcome_liftM, outcome_liftM, answered _ _ _ room, answered _ _ _ (deep ▸ room)]
    generalize outcome _ (startFrame mirror.type method mirror.self, _) = ending at matched ⊢
    generalize outcome _ (startFrame mirror.type method mirror.copy, _) = ending' at matched ⊢
    obtain ⟨unwind | flow, p⟩ := ending <;> obtain ⟨unwind' | flow', q⟩ := ending'
    · exact matched.map (level matched.aligned) (Nat.le_refl _)
    · cases matched
    · cases matched
    · obtain ⟨ends, endings⟩ := matched
      rcases endings.callResult method.returnType with ⟨value, first, second, held⟩ | ⟨fault, first, second⟩
      · simp only [first, second]
        exact ⟨level ends, rfl, held⟩
      · simp only [first, second]
        exact .failed fault (level ends)
  · have refused (self : Address) (values : List Value) (world : World) (full : depthLimit ≤ world.depth) :
        performer (fuel + 1) (.invoke mirror.type method (some self) values) world =
          (raiseBare "StackOverflowError" : Run Value) world := by
      change invoke (performer fuel) fuel mirror.type method (some self) values world = _
      simp only [invoke, bound, Bool.false_eq_true, if_false]
      change (if world.depth ≥ depthLimit then _ else _ : Run Value) world = _
      rw [if_pos full]
      rfl
    rw [outcome_liftM, outcome_liftM, refused _ _ _ full, refused _ _ _ (deep ▸ full)]
    exact mirrored_raiseBare "StackOverflowError" a b aligned

end Statements

end JavaWeave.Interpreter.Mirror
