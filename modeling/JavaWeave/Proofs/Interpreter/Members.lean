import JavaWeave.Interpreter.Perform
import JavaWeave.Proofs.Interpreter.Reflection

/-! What values are asked for that lead to no objects but the code's own: their methods, fields and elements. -/

namespace JavaWeave.Interpreter

theorem plain_of_textWithText? {text name : String} {answer : String → Value}
    (found : textWithText? text name = some answer) (other : String) : (answer other).ref? = none := by
  unfold textWithText? at found
  split at found <;> cases found <;> rfl

section

variable {perform : Performer} {address : Address} {name : String} {values : List Value}

theorem callObject_throwable (state : Throwable) :
    callObject address (.throwable state) name values =
      if values.length = 0 ∧ name ∈ ["getMessage", "getLocalizedMessage"] then
        pure ((state.message.map Value.str).getD .null)
      else if values.length = 0 ∧ name ∈ ["getCause", "getException", "getTargetException"] then pure state.cause
      else unknownMethod "Throwable" name values.length := by
  unfold callObject
  split <;> simp_all [Object.kind]
  grind

theorem callObject_array (items : List Value) :
    callObject address (.array items) name values =
      if values.length = 0 ∧ name = "clone" then allocate (.array items)
      else unknownMethod "array" name values.length := by
  unfold callObject
  split <;> simp_all [Object.kind]
  grind

theorem callLibraryObject_eq {object : Object} (other : object ≠ .plain .printer) (told : name ≠ "hashCode") :
    callLibraryObject perform address object name values =
      if values.length = 0 ∧ name = "toString" then (do return .str (← perform (.text (.ref address))))
      else if values.length = 1 ∧ name = "equals" then pure (.bool (Value.same (.ref address) (values.headD .null)))
      else callObject address object name values := by
  unfold callLibraryObject
  split <;> simp_all
  grind [List.length_eq_one_iff]

theorem dispatch_boxed {value : Value} (plain : value.ref? = none) (given : value.isNull = false)
    (boxed : value.str? = none) :
    dispatch perform value name values =
      if values.length = 0 ∧ name = "toString" then (do return .str (← perform (.text value)))
      else callBoxed value name values := by
  unfold dispatch
  split
  · cases given
  · cases boxed
  · cases plain
  · split <;> simp_all
    grind

section

variable {point : Point}

theorem outcome_liftM_heap {α : Type} (ask : Heap → Run α) (point : Point) :
    outcome (liftM (do ask (← heap)) : Code α) point = outcome (liftM (ask point.2.heap) : Code α) point := rfl

theorem outcome_bind_heap {α : Type} (ask : Heap → Code α) (point : Point) :
    outcome (do ask (← heap)) point = outcome (ask point.2.heap) point := rfl

theorem outcome_fieldOf_throwable {state : Throwable} (there : point.2.heap.get? address = some (.throwable state)) :
    outcome (liftM (fieldOf perform (.ref address) name) : Code Value) point =
      outcome (liftM (fail (.unknownField "Throwable" name) : Run Value) : Code Value) point := by
  simp [fieldOf, run_bind, run_heap, Heap.object?, Value.ref?, there, Value.isNull, Heap.kind, Object.kind]

theorem outcome_fieldOf_array {items : List Value} (there : point.2.heap.get? address = some (.array items)) :
    outcome (liftM (fieldOf perform (.ref address) name) : Code Value) point =
      outcome (liftM (if name == "length" then pure (.int (Int32.ofNat items.length))
        else fail (.unknownField "array" name) : Run Value) : Code Value) point := by
  simp [fieldOf, run_bind, run_heap, Heap.object?, Value.ref?, there, Value.isNull, Heap.kind, Object.kind]

theorem outcome_fieldOf_plain {value : Value} (plain : value.ref? = none) (given : value.isNull = false) :
    outcome (liftM (fieldOf perform value name) : Code Value) point =
      outcome (liftM (fail (.unknownField (point.2.heap.kind value) name) : Run Value) : Code Value) point := by
  simp [fieldOf, run_bind, run_heap, Heap.object?, plain, given]

end

end

namespace Mirror

section

variable {mirror : Mirror} {count more fuel : Nat} {sight : Sight} {loose : Bool} {value value' other : Value}
  {values values' : List Value} {name : String}

/-- Lists of values that lead to no objects but the code's own. -/
def PicturesAll (mirror : Mirror) (count : Nat) (values values' : List Value) : Prop :=
  values' = values.map (Value.image mirror.place) ∧ ∀ value ∈ values, mirror.Held count false value

theorem Pictures.mono {count more : Nat} {value value' : Value} (pictures : mirror.Pictures loose count value value')
    (later : count ≤ more) : mirror.Pictures loose more value value' := ⟨pictures.1, pictures.2.mono later⟩

theorem pictures_of_plain (plain : value.ref? = none) : mirror.Pictures loose count value value :=
  ⟨(Value.image_of_plain plain).symm, held_of_plain plain⟩

theorem Mirrored.imp {first second : Code Value} {loose' : Bool}
    (steps : mirror.Mirrored count sight sight (mirror.Pictures loose) first second)
    (looser : loose = true → loose' = true) :
    mirror.Mirrored count sight sight (mirror.Pictures loose') first second :=
  steps.mono sight.within_refl fun _ _ _ pictures => ⟨pictures.1, pictures.2.imp looser⟩

theorem Mirrored.loosen {first second : Code Value}
    (steps : mirror.Mirrored count sight sight (mirror.Pictures false) first second) :
    mirror.Mirrored count sight sight (mirror.Pictures loose) first second :=
  steps.mono sight.within_refl fun _ _ _ pictures => ⟨pictures.1, pictures.2.loosen⟩

theorem mirrored_bool (holds : Bool) :
    mirror.Mirrored count sight sight (mirror.Pictures loose) (pure (.bool holds)) (pure (.bool holds)) :=
  mirrored_pure fun _ _ => pictures_of_plain rfl

/-- A value that is no object. -/
theorem mirrored_plain (plain : value.ref? = none) :
    mirror.Mirrored count sight sight (mirror.Pictures loose) (liftM (pure value : Run Value))
      (liftM (pure value : Run Value)) :=
  mirrored_pure fun _ _ => pictures_of_plain plain

theorem Pictures.cons
    (pictures : mirror.Pictures false count value value') (all : mirror.PicturesAll count values values')
    (later : count ≤ more) : mirror.PicturesAll more (value :: values) (value' :: values') := by
  obtain ⟨rfl, held⟩ := pictures
  obtain ⟨rfl, others⟩ := all
  exact ⟨rfl, List.forall_mem_cons.mpr ⟨held.mono later, fun other member => (others other member).mono later⟩⟩

theorem mirrored_position (index : Int32) (length : Nat) :
    mirror.Mirrored count sight sight (fun _ => Eq) (liftM (position index length)) (liftM (position index length)) := by
  unfold position
  split
  · exact mirrored_pure fun _ _ => rfl
  · exact mirrored_raiseWith _ _

theorem mirrored_substring (text : String) (start stop : Int32) :
    mirror.Mirrored count sight sight (mirror.Pictures false) (liftM (substring text start stop))
      (liftM (substring text start stop)) := by
  simp only [substring]
  split
  · exact mirrored_raiseWith _ _
  · exact mirrored_plain rfl

/-- A field of a value that leads to no objects but the code's own; only arrays have one. -/
theorem mirrored_fieldOf (held : mirror.Held count false value) :
    mirror.Mirrored count sight sight (mirror.Pictures false) (liftM (fieldOf (performer fuel) value name))
      (liftM (fieldOf (performer fuel) (value.image mirror.place) name)) := by
  cases value with
  | null => exact .looking fun _ _ _ _ => ⟨_, _, rfl, rfl, mirrored_raiseWith _ _⟩
  | ref address =>
    refine .looking fun a b aligned later => ?_
    rcases aligned.world.copied? held later with plain | ⟨_, object, object', ⟨rfl⟩, there, there', copied⟩
    · cases plain
    cases copied with
    | exception =>
      exact ⟨_, _, outcome_fieldOf_throwable there, outcome_fieldOf_throwable there', mirrored_fail _⟩
    | array items =>
      refine ⟨_, _, outcome_fieldOf_array there, outcome_fieldOf_array there', ?_⟩
      rw [List.length_map]
      split
      · exact mirrored_plain rfl
      · exact mirrored_fail _
  | _ =>
    exact .looking fun _ _ _ _ => ⟨_, _, outcome_fieldOf_plain rfl rfl, outcome_fieldOf_plain rfl rfl, mirrored_fail _⟩

/-- What an array holds is read. -/
theorem mirrored_readElement {address : Address} (held : mirror.Held count false (.ref address)) (index : Nat) :
    mirror.Mirrored count sight sight (mirror.Pictures false) (readPlace (.element address index))
      (readPlace (.element (mirror.place address) index)) := by
  intro a b aligned
  rcases aligned.world.copied? held aligned.later with plain | ⟨_, object, object', ⟨rfl⟩, there, there', copied⟩
  · cases plain
  simp only [readPlace, outcome_bind, outcome_heap, proceed_ok, outcome_pure, Heap.items?, Heap.object?, Value.ref?,
    Option.bind_some, there, there']
  cases copied with
  | exception => exact ⟨aligned, pictures_of_plain rfl⟩
  | array items inside =>
    simp only [Object.items?, Option.bind_some, List.getElem?_map]
    cases found : items[index]? with
    | none => exact ⟨aligned, pictures_of_plain rfl⟩
    | some item => exact ⟨aligned, rfl, inside item (List.mem_of_getElem? found)⟩

/-- A nested array. -/
theorem mirrored_makeArray {leaf : Value} (plain : leaf.ref? = none) (sizes : List Nat) :
    mirror.Mirrored count sight sight (mirror.Pictures false) (liftM (makeArray leaf sizes))
      (liftM (makeArray leaf sizes)) := by
  induction sizes generalizing count with
  | nil => exact mirrored_plain plain
  | cons size rest ih =>
    have made (size count : Nat) : mirror.Mirrored count sight sight mirror.PicturesAll
        (liftM ((List.replicate size ()).mapM fun _ => makeArray leaf rest))
        (liftM ((List.replicate size ()).mapM fun _ => makeArray leaf rest)) := by
      induction size generalizing count with
      | zero => exact mirrored_pure fun _ _ => ⟨rfl, List.forall_mem_nil _⟩
      | succ size others =>
        simp only [List.replicate_succ, List.mapM_cons, liftM_bind]
        refine .andThen ih ?_
        rintro more value _ _ pictures
        refine .andThen (others more) ?_
        rintro more' values _ later picturesAll
        exact mirrored_pure fun _ last => (pictures.mono later).cons picturesAll last
    unfold makeArray
    simp only [liftM_bind]
    refine .andThen (made size count) ?_
    rintro more items _ _ ⟨rfl, held⟩
    exact mirrored_allocate (.array items held)

variable (lawful : mirror.Lawful)

include lawful

/-- What is needed of a value, but for what it tells of itself. -/
theorem mirrored_view (expected : String) {α : Type} {view : Value → Option α} (held : mirror.Held count loose value)
    (same : view (value.image mirror.place) = view value) :
    mirror.Mirrored count sight sight (fun _ => Eq) (liftM (needed expected value view))
      (liftM (needed expected (value.image mirror.place) view)) :=
  (mirrored_needed lawful expected held same).mono sight.within_refl fun _ _ _ both => both.1

/-- A method of a text tells of other texts and numbers only. -/
theorem mirrored_callText (text name : String) {values : List Value}
    (held : ∀ value ∈ values, mirror.Held count false value) :
    mirror.Mirrored count sight sight (mirror.Pictures false) (liftM (callText text name values))
      (liftM (callText text name (values.map (Value.image mirror.place)))) := by
  unfold callText
  split
  case h_11 index =>
    simp only [List.map_cons, List.map_nil, liftM_bind]
    refine .andThen (mirrored_view lawful "int" (held _ List.mem_cons_self) Value.int?_image) ?_
    rintro more index _ _ rfl
    refine .andThen (mirrored_position index text.toList.length) ?_
    rintro more' place _ _ rfl
    exact mirrored_plain rfl
  case h_12 start =>
    simp only [List.map_cons, List.map_nil, liftM_bind]
    refine .andThen (mirrored_view lawful "int" (held _ List.mem_cons_self) Value.int?_image) ?_
    rintro more start _ _ rfl
    exact mirrored_substring text start _
  case h_13 start stop =>
    have last := held stop (List.mem_cons_of_mem _ List.mem_cons_self)
    simp only [List.map_cons, List.map_nil, liftM_bind]
    refine .andThen (mirrored_view lawful "int" (held _ List.mem_cons_self) Value.int?_image) ?_
    rintro more start _ later rfl
    refine .andThen (mirrored_view lawful "int" (last.mono later) Value.int?_image) ?_
    rintro more' stop _ _ rfl
    exact mirrored_substring text start stop
  case h_14 name other _ _ _ _ =>
    simp only [List.map_cons, List.map_nil]
    split
    · simp only [liftM_bind]
      refine .andThen (mirrored_view lawful "String" (held _ List.mem_cons_self) Value.str?_image) ?_
      rintro more other _ _ rfl
      exact mirrored_plain (plain_of_textWithText? (by assumption) other)
    · exact mirrored_fail _
  case h_15 =>
    split
    case h_13 =>
      have two := congrArg List.length ‹values.map _ = _›
      obtain ⟨_, _, rfl⟩ := List.length_eq_two.mp ((List.length_map _).symm.trans two)
      simp_all
    case h_15 =>
      rw [List.length_map]
      exact mirrored_fail _
    all_goals simp_all
  all_goals
    try simp only [List.map_cons, List.map_nil, Value.str?_image]
    exact mirrored_plain rfl

theorem mirrored_callBoxed (plain : value.ref? = none) (held : ∀ value ∈ values, mirror.Held count false value) :
    mirror.Mirrored count sight sight (mirror.Pictures false) (liftM (callBoxed value name values))
      (liftM (callBoxed value name (values.map (Value.image mirror.place)))) := by
  unfold callBoxed
  refine .looking fun a b aligned later => ⟨_, _, outcome_liftM_heap _ a, outcome_liftM_heap _ b, ?_⟩
  have kind : b.2.heap.kind value = a.2.heap.kind value := by cases value <;> first | rfl | cases plain
  rw [kind]
  split
  case h_5 other =>
    have here := held other List.mem_cons_self
    have same := lawful.same_image (held_of_plain plain : mirror.Held count false value) here
    rw [Value.image_of_plain plain] at same
    simp only [List.map_cons, List.map_nil, aligned.world.kind lawful here later, same]
    exact mirrored_plain rfl
  case h_7 other =>
    simp only [List.map_cons, List.map_nil, Value.double?_image]
    exact mirrored_plain rfl
  case h_8 =>
    split
    case h_8 =>
      rw [List.length_map]
      exact mirrored_fail _
    all_goals simp_all
  all_goals exact mirrored_plain rfl

/-- A method of one of the code's own objects. -/
theorem mirrored_callOwn {address : Address} {object object' : Object}
    (held : mirror.Held count false (.ref address))
    (copied : mirror.Copied count object object') (told : name ≠ "hashCode")
    (given : ∀ value ∈ values, mirror.Held count false value) :
    mirror.Mirrored count sight sight (mirror.Pictures false)
      (liftM (callLibraryObject (performer fuel) address object name values))
      (liftM (callLibraryObject (performer fuel) (mirror.place address) object' name
        (values.map (Value.image mirror.place)))) := by
  have other : object ≠ .plain .printer ∧ object' ≠ .plain .printer := by cases copied <;> simp
  rw [callLibraryObject_eq other.1 told, callLibraryObject_eq other.2 told, List.length_map]
  split
  · rw [liftM_bind, liftM_bind]
    refine .andThen (mirrored_text fuel held) ?_
    rintro more text _ _ rfl
    exact mirrored_plain rfl
  split
  · next single =>
    obtain ⟨other, rfl⟩ := List.length_eq_one_iff.mp single.1
    have same : Value.same (.ref (mirror.place address)) (other.image mirror.place) = _ :=
      lawful.same_image held (given other List.mem_cons_self)
    simp only [List.map_cons, List.headD_cons, same]
    exact mirrored_plain rfl
  cases copied with
  | exception state cause =>
    rw [callObject_throwable, callObject_throwable, List.length_map]
    split
    · exact mirrored_plain (by cases state.message <;> rfl)
    split
    · exact mirrored_pure fun _ later => ⟨rfl, cause.mono later⟩
    · exact mirrored_fail _
  | array items inside =>
    rw [callObject_array, callObject_array, List.length_map]
    split
    · exact mirrored_allocate (.array items inside)
    · exact mirrored_fail _

/-- A method of a value that leads to no objects but the code's own. -/
theorem mirrored_dispatch (held : mirror.Held count false value) (told : name ≠ "hashCode")
    (given : ∀ value ∈ values, mirror.Held count false value) :
    mirror.Mirrored count sight sight (mirror.Pictures false) (liftM (dispatch (performer fuel) value name values))
      (liftM (dispatch (performer fuel) (value.image mirror.place) name (values.map (Value.image mirror.place)))) := by
  have boxed {value : Value} (plain : value.ref? = none) (some_ : value.isNull = false) (boxed : value.str? = none) :
      mirror.Mirrored count sight sight (mirror.Pictures false) (liftM (dispatch (performer fuel) value name values))
        (liftM (dispatch (performer fuel) value name (values.map (Value.image mirror.place)))) := by
    rw [dispatch_boxed plain some_ boxed, dispatch_boxed plain some_ boxed, List.length_map]
    split
    · have text : mirror.Mirrored count sight sight (fun _ => Eq) (liftM (performer fuel (.text value)))
          (liftM (performer fuel (.text (value.image mirror.place)))) := mirrored_text fuel (held_of_plain plain)
      rw [Value.image_of_plain plain] at text
      rw [liftM_bind]
      refine .andThen text ?_
      rintro more text _ _ rfl
      exact mirrored_plain rfl
    · exact mirrored_callBoxed lawful plain given
  cases value with
  | null => exact mirrored_raiseWith _ _
  | str text => exact mirrored_callText lawful text name given
  | ref address =>
    refine .looking fun a b aligned later => ?_
    rcases aligned.world.copied? held later with plain | ⟨_, object, object', ⟨rfl⟩, there, there', copied⟩
    · cases plain
    have own : mirror.Mirrored a.2.size sight sight (mirror.Pictures false)
        (liftM (callLibraryObject (performer fuel) address object name values)) _ :=
      mirrored_callOwn lawful (held.mono later) copied told fun other member => (given other member).mono later
    refine ⟨_, _, ?_, ?_, own⟩
    · simp only [dispatch, outcome_liftM, run_bind, run_heap, there]
      cases copied <;> rfl
    · simp only [dispatch, Value.image, outcome_liftM, run_bind, run_heap, there']
      cases copied <;> rfl
  | _ => exact boxed rfl rfl rfl

/-- The place of an element of an array. -/
theorem mirrored_elementPlace {array index : Value} (held : mirror.Held count false array)
    (held' : mirror.Held count true index) :
    mirror.Mirrored count sight sight
      (fun count place place' => place' = (mirror.place place.1, place.2) ∧ mirror.Held count false (.ref place.1))
      (liftM (elementPlace array index))
      (liftM (elementPlace (array.image mirror.place) (index.image mirror.place))) := by
  unfold elementPlace
  simp only [liftM_bind]
  refine .andThen (mirrored_view lawful "int" held' Value.int?_image) ?_
  rintro more index _ later rfl
  cases array with
  | null => exact mirrored_raiseBare _
  | ref address =>
    refine .looking fun a b aligned later' => ?_
    rcases aligned.world.copied? held (Nat.le_trans later later') with
      plain | ⟨_, object, object', ⟨rfl⟩, there, there', copied⟩
    · cases plain
    refine ⟨_, _, outcome_liftM_heap _ a, outcome_liftM_heap _ b, ?_⟩
    simp only [there, there']
    cases copied with
    | exception => exact mirrored_mismatch lawful "array" (held.mono (Nat.le_trans later later'))
    | array items inside =>
      simp only [List.length_map]
      split
      · exact mirrored_pure fun _ last => ⟨rfl, held.mono (Nat.le_trans (Nat.le_trans later later') last)⟩
      · exact mirrored_raiseWith _ _
  | _ => exact mirrored_mismatch lawful "array" (held.mono later)

/-- The size of a dimension. -/
theorem mirrored_arraySize (held : mirror.Held count loose value) :
    mirror.Mirrored count sight sight (fun _ => Eq) (liftM (arraySize value))
      (liftM (arraySize (value.image mirror.place))) := by
  unfold arraySize
  simp only [liftM_bind]
  refine .andThen (mirrored_view lawful "int" held Value.int?_image) ?_
  rintro more size _ _ rfl
  split
  · exact mirrored_raiseWith _ _
  · exact mirrored_pure fun _ _ => rfl

end

end Mirror

end JavaWeave.Interpreter
