import JavaWeave.Proofs.Interpreter.Self

namespace JavaWeave.Interpreter

open Syntax

/-- A value whose reference leads elsewhere. -/
def Value.image (place : Address → Address) : Value → Value
  | .ref address => .ref (place address)
  | value => value

section

variable {place : Address → Address} {value other result : Value}

theorem Value.image_of_plain (plain : value.ref? = none) : value.image place = value := by
  cases value <;> first | rfl | cases plain

/-- A value is a reference, or it is the same wherever references lead. -/
theorem Value.plain_or_ref (value : Value) : value.ref? = none ∨ ∃ address, value = .ref address := by
  cases value <;> first | exact Or.inl rfl | exact Or.inr ⟨_, rfl⟩

@[simp] theorem Value.isNull_image : (value.image place).isNull = value.isNull := by cases value <;> rfl

@[simp] theorem Value.bool?_image : (value.image place).bool? = value.bool? := by cases value <;> rfl

@[simp] theorem Value.str?_image : (value.image place).str? = value.str? := by cases value <;> rfl

@[simp] theorem Value.int?_image : (value.image place).int? = value.int? := by cases value <;> rfl

@[simp] theorem Value.double?_image : (value.image place).double? = value.double? := by cases value <;> rfl

theorem convert_ref (target : String) (address : Address) : convert target (.ref address) = none := by
  unfold convert
  split <;> first | rfl | contradiction

@[simp] theorem convert_image (target : String) : convert target (value.image place) = convert target value := by
  rcases value.plain_or_ref with plain | ⟨address, rfl⟩
  · rw [Value.image_of_plain plain]
  · rw [Value.image, convert_ref, convert_ref]

theorem plain_of_convert {target : String} (converts : convert target value = some result) : result.ref? = none := by
  unfold convert at converts
  split at converts <;> first | (cases converts <;> rfl) | skip
  all_goals
    obtain ⟨_, _, rfl⟩ := Option.map_eq_some_iff.mp converts
    rfl

theorem plain_coerce (type : JavaType) (plain : value.ref? = none) : (coerce type value).ref? = none := by
  unfold coerce
  split
  · cases converts : convert type.name value with
    | none => exact plain
    | some result => exact plain_of_convert converts
  · exact plain

theorem coerce_image (type : JavaType) : coerce type (value.image place) = (coerce type value).image place := by
  rcases value.plain_or_ref with plain | ⟨address, rfl⟩
  · rw [Value.image_of_plain plain, Value.image_of_plain (plain_coerce type plain)]
  · rw [Value.image, coerce_ref, coerce_ref, Value.image]

@[simp] theorem plain_zero (type : JavaType) : (Value.zero type).ref? = none := by
  unfold Value.zero
  split
  · rfl
  · split <;> rfl

theorem plain_conform {compound : Bool} (current : Value) (plain : value.ref? = none) :
    (conform compound current value).ref? = none := by
  unfold conform
  split
  · exact plain
  · next kind _ =>
    split
    · cases converts : convert kind value with
      | none => exact plain
      | some result => exact plain_of_convert converts
    · exact plain

theorem conform_image (compound : Bool) (current : Value) :
    conform compound (current.image place) (value.image place) = (conform compound current value).image place := by
  have kept : keptKind compound (current.image place) = keptKind compound current := by cases current <;> rfl
  rcases value.plain_or_ref with plain | ⟨address, rfl⟩
  · rw [Value.image_of_plain plain, Value.image_of_plain (plain_conform current plain)]
    unfold conform
    rw [kept]
  · have number : (Value.ref address).double? = none := rfl
    rw [conform_of_not_number number, conform_of_not_number (Value.double?_image.trans number)]

@[simp] theorem stepped_image (up : Bool) : stepped up (value.image place) = stepped up value := by
  cases value <;> rfl

theorem plain_of_stepped {up : Bool} (steps : stepped up value = some result) :
    value.ref? = none ∧ result.ref? = none := by
  cases value <;> cases steps <;> exact ⟨rfl, rfl⟩

@[simp] theorem unaryResult_image (op : UnaryOp) : unaryResult op (value.image place) = unaryResult op value := by
  cases value <;> cases op <;> rfl

theorem plain_of_unaryResult {op : UnaryOp} (gives : unaryResult op value = some result) : result.ref? = none := by
  cases op <;> cases value <;> cases gives <;> rfl

theorem binaryResult_image {op : BinaryOp} (same : (value.image place).same (other.image place) = value.same other) :
    binaryResult op (value.image place) (other.image place) = binaryResult op value other := by
  cases value <;> cases other <;> first | rfl | skip
  all_goals cases op <;> first | rfl | simp only [binaryResult, same]

private theorem plain_of_numberResult {op : BinaryOp} {numbers : Promoted}
    (gives : numberResult op numbers = .ok result) : result.ref? = none := by
  cases numbers with
  | double a b =>
    cases gives
    unfold doubleResult
    split <;> rfl
  | int a b =>
    simp only [numberResult] at gives
    rcases computed : wholeResult op a b with misuse | number <;> rw [computed] at gives
    · cases gives
    · cases number <;> cases gives <;> rfl
  | long a b =>
    simp only [numberResult] at gives
    rcases computed : wholeResult op a b with misuse | number <;> rw [computed] at gives
    · cases gives
    · cases number <;> cases gives <;> rfl

private theorem plain_of_shift {op : BinaryOp} (gives : orMisuse (shift op value other) = .ok result) :
    result.ref? = none := by
  unfold shift at gives
  cases distance : other.long? with
  | none =>
    rw [distance] at gives
    cases gives
  | some distance' =>
    rw [distance] at gives
    cases value <;> cases gives <;> rfl

/-- What an operator gives is no object. -/
theorem plain_of_binaryResult {op : BinaryOp} (gives : binaryResult op value other = .ok result) :
    result.ref? = none := by
  unfold binaryResult at gives
  split at gives
  · cases gives
    rfl
  · cases gives
    rfl
  · next a b _ _ =>
    cases computed : boolResult _ a b <;> rw [computed] at gives <;> cases gives
    rfl
  · cases gives
  · cases gives
  · exact plain_of_shift gives
  · exact plain_of_shift gives
  · exact plain_of_shift gives
  · split at gives
    · exact plain_of_numberResult gives
    · cases gives

end

/-- Bindings whose references lead elsewhere. -/
def Bindings.image (place : Address → Address) (bindings : Bindings Value) : Bindings Value :=
  bindings.map fun (name, value) => (name, value.image place)

/-- A frame on another object whose references lead elsewhere. -/
def Frame.image (place : Address → Address) (self : Address) (frame : Frame) : Frame :=
  { frame with
    self := some self
    scopes := frame.scopes.map fun scope => { scope with locals := scope.locals.image place } }

section

variable {place : Address → Address}

@[simp] theorem Bindings.lookup_image (bindings : Bindings Value) (name : String) :
    List.lookup name (bindings.image place) = (List.lookup name bindings).map (Value.image place) := by
  induction bindings with
  | nil => rfl
  | cons entry rest ih =>
    obtain ⟨key, value⟩ := entry
    change List.lookup name ((key, value.image place) :: Bindings.image place rest) = _
    rw [lookup_entry, lookup_entry, ih]
    split <;> rfl

@[simp] theorem Bindings.has_image (bindings : Bindings Value) (name : String) :
    (bindings.image place).has name = bindings.has name := by
  simp [Bindings.has]

theorem Bindings.image_of_plain {bindings : Bindings Value} (plain : ∀ entry ∈ bindings, entry.2.ref? = none) :
    bindings.image place = bindings :=
  (List.map_congr_left fun entry member =>
    congrArg (Prod.mk entry.1) (Value.image_of_plain (plain entry member))).trans (List.map_id _)

theorem Bindings.has_put {bindings : Bindings Value} {name : String} (declared : bindings.has name = true)
    (other : String) (value : Value) : (bindings.put other value).has name = true := by
  rw [Bindings.has, Bindings.lookup_put]
  split
  · rfl
  · exact declared

theorem Bindings.mem_put {bindings : Bindings Value} {name : String} {value : Value} {entry : String × Value}
    (member : entry ∈ bindings.put name value) : entry ∈ bindings ∨ entry = (name, value) := by
  induction bindings with
  | nil => exact Or.inr (List.mem_singleton.mp member)
  | cons first rest ih =>
    rw [Bindings.put] at member
    split at member
    · rcases List.mem_cons.mp member with new | old
      · exact Or.inr new
      · exact Or.inl (List.mem_cons_of_mem _ old)
    · rcases List.mem_cons.mp member with rfl | later
      · exact Or.inl List.mem_cons_self
      · exact (ih later).imp_left (List.mem_cons_of_mem _)

theorem Bindings.put_image (bindings : Bindings Value) (name : String) (value : Value) :
    (bindings.put name value).image place = (bindings.image place).put name (value.image place) := by
  induction bindings with
  | nil => rfl
  | cons entry rest ih =>
    obtain ⟨key, old⟩ := entry
    change Bindings.image place (if key == name then _ else _) = if key == name then _ else _
    split
    · rfl
    · exact congrArg (_ :: ·) ih

namespace Frame

variable {self : Address}

theorem lookupIn_image (scopes : List Scope) (name : String) :
    lookupIn (scopes.map fun scope => { scope with locals := scope.locals.image place }) name =
      (lookupIn scopes name).map (Value.image place) := by
  induction scopes with
  | nil => rfl
  | cons scope rest ih =>
    rw [List.map_cons, lookupIn_cons, lookupIn_cons, ih, Bindings.lookup_image]
    cases scope.locals.lookup name <;> rfl

@[simp] theorem get?_image (frame : Frame) (name : String) :
    (frame.image place self).get? name = (frame.get? name).map (Value.image place) :=
  lookupIn_image frame.scopes name

@[simp] theorem type?_image (frame : Frame) (name : String) :
    (frame.image place self).type? name = frame.type? name := by
  simp only [type?, image, List.findSome?_map]
  rfl

theorem pop_image (frame : Frame) : (frame.image place self).pop = frame.pop.image place self := by
  simp [pop, image]

theorem declare_image (frame : Frame) (name : String) (value : Value) :
    (frame.image place self).declare name (value.image place) = (frame.declare name value).image place self := by
  obtain ⟨type, current, returnType, scopes⟩ := frame
  cases scopes with
  | nil => rfl
  | cons scope rest => simp [declare, inInnermost, image, Bindings.put_image]

theorem assign_image (frame : Frame) (name : String) (value : Value) :
    (frame.image place self).assign name (value.image place) = (frame.assign name value).image place self := by
  have moved (scopes : List Scope) :
      assignIn name (value.image place) (scopes.map fun scope => { scope with locals := scope.locals.image place }) =
        (assignIn name value scopes).map fun scope => { scope with locals := scope.locals.image place } := by
    induction scopes with
    | nil => rfl
    | cons scope rest ih =>
      cases here : scope.locals.has name with
      | true => rw [List.map_cons, assignIn_cons_of_has here, assignIn_cons_of_has (by simpa using here), List.map_cons,
          Bindings.put_image]
      | false => rw [List.map_cons, assignIn_cons_of_not here, assignIn_cons_of_not (by simpa using here), List.map_cons,
          ih]
  simp only [assign, image, moved]

end Frame

end

end JavaWeave.Interpreter
