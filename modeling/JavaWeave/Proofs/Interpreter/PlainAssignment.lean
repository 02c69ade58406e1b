import JavaWeave.Proofs.Interpreter.Self
import Mathlib.Data.List.Chain

/-! What a plain assignment leaves in its place. The place takes the value of the right side and no other place changes,
but the type of the place is not known: the kind of number that it holds stands in for it. A number of a narrower kind
than the one held is widened, and every other value is stored as it is. -/

namespace JavaWeave.Interpreter

open Syntax

/-- A number is of a narrower kind than the one that is held. -/
inductive Widens : Value → Value → Prop where
  | intChar {held : Int32} {value : Char} : Widens (.int held) (.char value)
  | longInt {held : Int64} {value : Int32} : Widens (.long held) (.int value)
  | longChar {held : Int64} {value : Char} : Widens (.long held) (.char value)
  | doubleInt {held : Double} {value : Int32} : Widens (.double held) (.int value)
  | doubleLong {held : Double} {value : Int64} : Widens (.double held) (.long value)
  | doubleChar {held : Double} {value : Char} : Widens (.double held) (.char value)

theorem conform_ne_of_widens {held value : Value} (widens : Widens held value) : conform false held value ≠ value := by
  cases widens <;> exact Value.noConfusion

/-- A value is stored as it is unless it is widened. -/
theorem conform_eq_iff {held value : Value} : conform false held value = value ↔ ¬ Widens held value := by
  constructor
  · intro kept widens
    exact conform_ne_of_widens widens kept
  · intro narrow
    cases held with
    | null | bool | char | str | ref => rfl
    | int held =>
      cases value with
      | char => exact absurd .intChar narrow
      | _ => rfl
    | long held =>
      cases value with
      | int => exact absurd .longInt narrow
      | char => exact absurd .longChar narrow
      | _ => rfl
    | double held =>
      cases value with
      | int => exact absurd .doubleInt narrow
      | long => exact absurd .doubleLong narrow
      | char => exact absurd .doubleChar narrow
      | _ => rfl

/-- What is held after values have been assigned one after the other. -/
def heldAfter (held : Value) (values : List Value) : Value := values.foldl (conform false) held

/-- Values that are assigned one after the other are all stored as they are iff none is narrower than the one in front of
it. -/
theorem heldAfter_eq_iff {held : Value} {values : List Value} :
    (∀ front value back, values = front ++ value :: back → heldAfter held (front ++ [value]) = value) ↔
      (held :: values).IsChain fun held value => ¬ Widens held value := by
  induction values generalizing held with
  | nil =>
    refine iff_of_true (fun front value back split => ?_) (List.isChain_singleton held)
    exact absurd split.symm (List.append_ne_nil_of_right_ne_nil front (List.cons_ne_nil value back))
  | cons first rest inductionHypothesis =>
    rw [List.isChain_cons_cons, ← conform_eq_iff]
    constructor
    · intro each
      have kept : conform false held first = first := each [] first rest rfl
      refine ⟨kept, inductionHypothesis.mp fun front value back split => ?_⟩
      have later := each (first :: front) value back (by rw [split, List.cons_append])
      rwa [List.cons_append, heldAfter, List.foldl_cons, kept] at later
    · rintro ⟨kept, chain⟩ front value back split
      cases front with
      | nil =>
        cases split
        exact kept
      | cons other front =>
        cases split
        rw [List.cons_append, heldAfter, List.foldl_cons, kept]
        exact inductionHypothesis.mpr chain front value back rfl

namespace Place

/-- What a place holds. -/
def read (point : Point) : Place → Value
  | .slot name => (point.1.get? name).getD .null
  | .field object name => (point.2.field? object name).getD .null
  | .static owner name => ((point.2.classes.get owner).state.statics.lookup name).getD .null
  | .element array index => ((point.2.heap.items? (.ref array)).bind fun items => items[index]?).getD .null

/-- There is a place to be assigned. -/
def There (point : Point) : Place → Prop
  | .slot name => (point.1.get? name).isSome
  | .field object _ => (point.2.instance? object).isSome
  | .static owner _ => owner.index < point.2.classes.infos.size
  | .element array index => ∃ items, point.2.heap.get? array = some (.array items) ∧ index < items.length

/-- Where a run stands once a place was assigned. -/
def put (value : Value) (point : Point) : Place → Point
  | .slot name => (point.1.assign name value, point.2)
  | .field object name => (point.1, point.2.putField object name value)
  | .static owner name =>
    (point.1, { point.2 with
      classes := point.2.classes.modifyState owner fun state =>
        { state with statics := state.statics.put name value } })
  | .element array index =>
    match point.2.heap.get? array with
    | some (.array items) => (point.1, point.2.stored array (.array (items.set index value)))
    | _ => point

end Place

variable {place other : Place} {value : Value} {point : Point}

theorem outcome_readPlace (place : Place) (point : Point) :
    outcome (readPlace place) point = (.ok (place.read point), point) := by
  cases place <;> rfl

theorem outcome_writePlace (place : Place) (value : Value) (point : Point) :
    outcome (writePlace place value) point = (.ok (), place.put value point) := by
  cases place with
  | slot => rfl
  | field object name => exact (outcome_liftM _ _).trans (by rw [setField_eq]; rfl)
  | static => rfl
  | element array index =>
    simp only [writePlace, outcome_bind, outcome_heap, proceed_ok, Place.put]
    cases point.2.heap.get? array with
    | none => rfl
    | some object => cases object <;> rfl

/-- A class is found with its new state, if it is there at all. -/
theorem state_modifyState (classes : ClassTable) (owner id : ClassId) (change : ClassState → ClassState) :
    ((classes.modifyState owner change).get id).state =
      if id = owner ∧ id.index < classes.infos.size then change (classes.get id).state else (classes.get id).state := by
  simp only [ClassTable.modifyState, ClassTable.modify, ClassTable.get, Array.getElem?_modify]
  by_cases same : id = owner
  · subst same
    by_cases inside : id.index < classes.infos.size
    · rw [if_pos rfl, if_pos ⟨rfl, inside⟩, Array.getElem?_eq_getElem inside]
      rfl
    · rw [if_pos rfl, if_neg fun both => inside both.2, Array.getElem?_eq_none (Nat.le_of_not_lt inside)]
      rfl
  · have apart : owner.index ≠ id.index := fun equal => same (congrArg ClassId.mk equal.symm)
    rw [if_neg apart, if_neg fun both => same both.1]

/-- A place that was assigned holds the value. -/
theorem Place.read_put (there : place.There point) : place.read (place.put value point) = value := by
  cases place with
  | slot name =>
    obtain ⟨held, holds⟩ := Option.isSome_iff_exists.mp there
    rw [put, read, Frame.get?_eq, Frame.assign_scopes, Frame.lookupIn_assignIn, if_pos rfl, ← Frame.get?_eq, holds]
    rfl
  | field object name =>
    obtain ⟨state, found⟩ := Option.isSome_iff_exists.mp there
    rw [put, read, World.field?_putField, if_pos ⟨rfl, rfl⟩, found]
    rfl
  | static owner name =>
    rw [put, read, state_modifyState, if_pos ⟨rfl, there⟩, Bindings.lookup_put, if_pos rfl]
    rfl
  | element array index =>
    obtain ⟨items, found, inside⟩ := there
    have stored : (point.2.stored array (.array (items.set index value))).heap.get? array =
        some (.array (items.set index value)) := by rw [World.get?_stored found, if_pos rfl]
    simp only [put, found, read, Heap.items?, Heap.object?, Value.ref?, Option.bind_some, stored, Object.items?,
      List.getElem?_set_self inside, Option.getD_some]

/-- Other places hold what they held. -/
theorem Place.read_put_ne (apart : other ≠ place) : other.read (place.put value point) = other.read point := by
  cases place with
  | slot name =>
    cases other with
    | slot name' =>
      have different : name' ≠ name := fun same => apart (congrArg slot same)
      rw [put, read, Frame.get?_eq, Frame.assign_scopes, Frame.lookupIn_assignIn, if_neg different]
      rfl
    | field | static | element => rfl
  | field object name =>
    cases other with
    | slot => rfl
    | static =>
      rw [put, read, World.classes_putField]
      rfl
    | field object' name' =>
      have different : ¬ (object' = object ∧ name' = name) := by
        rintro ⟨rfl, rfl⟩
        exact apart rfl
      rw [put, read, World.field?_putField, if_neg different]
      rfl
    | element array index =>
      have alike : (point.2.putField object name value).heap.items? (.ref array) = point.2.heap.items? (.ref array) := by
        simp only [Heap.items?, Heap.object?, Value.ref?, Option.bind_some, World.get?_putField]
        split
        · next here =>
          subst here
          cases there : point.2.instance? array with
          | none => rfl
          | some state => rw [World.instance?_eq_some.mp there]; rfl
        · rfl
      rw [put, read, alike]
      rfl
  | static owner name =>
    cases other with
    | slot | field | element => rfl
    | static owner' name' =>
      rw [put, read, state_modifyState]
      split
      · next here =>
        have different : name' ≠ name := fun same => apart (by rw [here.1, same])
        rw [Bindings.lookup_put, if_neg different]
        rfl
      · rfl
  | element array index =>
    cases found : point.2.heap.get? array with
    | none => simp only [put, found]
    | some object =>
      cases object with
      | array items =>
        simp only [put, found]
        cases other with
        | slot | static => rfl
        | field object name =>
          have kept : (point.2.stored array (.array (items.set index value))).field? object name =
              point.2.field? object name := World.field?_stored found rfl rfl object name
          rw [read, kept]
          rfl
        | element array' index' =>
          simp only [read, Heap.items?, Heap.object?, Value.ref?, Option.bind_some, World.get?_stored found]
          split
          · next here =>
            subst here
            have different : index ≠ index' := fun same => apart (by rw [same])
            simp only [found, Option.bind_some, Object.items?, List.getElem?_set_ne different]
          · rfl
      | _ => simp only [put, found]

section

variable {perform : Performer} {target e : Expression} {begun after : Point}

/-- The place keeps the value as the one that it held before the right side was evaluated lets it. -/
theorem outcome_assign_plain (placed : outcome (evalPlace perform target) point = (.ok place, begun))
    (given : outcome (eval perform e) begun = (.ok value, after)) :
    outcome (eval perform (.assign none target e)) point =
      (.ok (conform false (place.read begun) value), place.put (conform false (place.read begun) value) after) := by
  simp only [eval_assign, assignPlace, outcome_bind, placed, proceed_ok, outcome_readPlace, given, outcome_pure,
    Option.isSome_none, outcome_writePlace]

/-- A plain assignment gives its place the value of the right side, and no other place another one, iff the value is not
a number of a narrower kind than the one that the place held. -/
theorem plain_assignment_stores_iff (placed : outcome (evalPlace perform target) point = (.ok place, begun))
    (given : outcome (eval perform e) begun = (.ok value, after)) (there : place.There after) :
    (∃ last, outcome (eval perform (.assign none target e)) point = (.ok value, last) ∧ place.read last = value ∧
      ∀ other, other ≠ place → other.read last = other.read after) ↔ ¬ Widens (place.read begun) value := by
  rw [outcome_assign_plain placed given, ← conform_eq_iff]
  constructor
  · rintro ⟨last, ends, -⟩
    exact Except.ok.inj (congrArg Prod.fst ends)
  · intro kept
    rw [kept]
    exact ⟨_, rfl, Place.read_put there, fun other apart => Place.read_put_ne apart⟩

/-- A variable is the place of its name. -/
theorem outcome_placeLocal {name : String} {held : Value} (simple : Text.split '.' name = [name])
    (holds : point.1.get? name = some held) :
    outcome (evalPlace perform (.name name)) point = (.ok (.slot name), point) := by
  simp only [evalPlace_name, simple, List.reverse_singleton, placeNamed, outcome_bind, outcome_frame, proceed_ok, holds,
    Option.isSome_some, if_true, outcome_pure]

/-- A variable to which values are assigned one after the other holds what each of them leaves. -/
theorem outcome_assignEach {name : String} {held : Value} {fuel : Nat} (simple : Text.split '.' name = [name])
    (holds : point.1.get? name = some held) (values : List Literal) :
    ∃ last, outcome (execAll (.ofPerformer perform) fuel
        (values.map fun value => .expression (.assign none (.name name) (.literal value)))) point = (.ok .normal, last) ∧
      last.1.get? name = some (heldAfter held (values.map .ofLiteral)) := by
  induction values generalizing point held with
  | nil => exact ⟨point, outcome_execAll_nil _ _ _, holds⟩
  | cons value rest inductionHypothesis =>
    let kept := conform false held (.ofLiteral value)
    have read : Place.read point (.slot name) = held := by rw [Place.read, holds, Option.getD_some]
    have assigned : outcome (eval perform (.assign none (.name name) (.literal value))) point =
        (.ok kept, Place.put kept point (.slot name)) := by
      rw [outcome_assign_plain (outcome_placeLocal simple holds) (outcome_evalLiteral perform value point), read]
    have next : (Place.put kept point (.slot name)).1.get? name = some kept := by
      rw [Place.put, Frame.get?_eq, Frame.assign_scopes, Frame.lookupIn_assignIn, if_pos rfl, ← Frame.get?_eq, holds]
      rfl
    obtain ⟨last, ends, left⟩ := inductionHypothesis next
    have stepped : outcome (exec (.ofPerformer perform) fuel none
        (.expression (.assign none (.name name) (.literal value)))) point =
          (.ok .normal, Place.put kept point (.slot name)) := by
      simp only [exec_expression, outcome_bind, outcome_discard]
      rw [show (Meaning.ofPerformer perform).eval = eval perform from rfl, assigned]
      rfl
    refine ⟨last, ?_, left⟩
    rw [List.map_cons, outcome_execAll_cons, stepped, andThen_normal]
    exact ends

end

end JavaWeave.Interpreter
