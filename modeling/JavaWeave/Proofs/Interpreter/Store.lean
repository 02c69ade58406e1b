import JavaWeave.Interpreter.Frame

namespace JavaWeave.Interpreter

theorem Value.same_int (a b : Int32) : (Value.int a).same (.int b) = (a == b) := by
  have widened : (Value.int a).same (.int b) = (a.toInt64 == b.toInt64) := rfl
  rw [widened, Bool.eq_iff_iff, beq_iff_eq, beq_iff_eq]
  constructor
  · intro same
    have values := congrArg Int64.toInt same
    rw [Int32.toInt_toInt64, Int32.toInt_toInt64] at values
    exact Int32.toInt.inj values
  · intro same
    rw [same]

namespace Bindings

variable {α : Type}

theorem lookup_entry (name key : String) (value : α) (rest : Bindings α) :
    List.lookup name ((key, value) :: rest) = if name = key then some value else List.lookup name rest := by
  by_cases same : name = key
  · simp [same]
  · simp [List.lookup_cons, same, beq_eq_false_iff_ne.mpr same]

@[simp] theorem lookup_put (bindings : Bindings α) (name other : String) (value : α) :
    List.lookup other (bindings.put name value) =
      if other = name then some value else List.lookup other bindings := by
  induction bindings with
  | nil => by_cases same : other = name <;> simp [put, lookup_entry, same]
  | cons entry rest ih =>
    obtain ⟨key, old⟩ := entry
    by_cases here : key = name
    · subst here
      by_cases same : other = key <;> simp [put, lookup_entry, same]
    · by_cases same : other = key
      · subst same
        simp [put, here]
      · simp [put, lookup_entry, here, same, ih]

theorem has_iff (bindings : Bindings α) (name : String) :
    bindings.has name = true ↔ ∃ value, List.lookup name bindings = some value := by
  simp [has, Option.isSome_iff_exists]

theorem not_has_iff (bindings : Bindings α) (name : String) :
    bindings.has name = false ↔ List.lookup name bindings = none := by
  simp [has]

end Bindings

namespace Frame

/-- What a name stands for in scopes from the innermost on. -/
def lookupIn (scopes : List Scope) (name : String) : Option Value :=
  scopes.findSome? fun scope => scope.locals.lookup name

theorem get?_eq (frame : Frame) (name : String) : frame.get? name = lookupIn frame.scopes name := rfl

@[simp] theorem lookupIn_nil (name : String) : lookupIn [] name = none := rfl

theorem lookupIn_cons (scope : Scope) (rest : List Scope) (name : String) :
    lookupIn (scope :: rest) name = (scope.locals.lookup name).or (lookupIn rest name) := by
  cases found : scope.locals.lookup name <;> simp [lookupIn, found]

@[simp] theorem lookupIn_empty_cons (types : Bindings ClassId) (rest : List Scope) (name : String) :
    lookupIn (⟨[], types⟩ :: rest) name = lookupIn rest name := by
  simp [lookupIn_cons]

@[simp] theorem assignIn_nil (name : String) (value : Value) : assignIn name value [] = [] := rfl

theorem assignIn_cons_of_has {scope : Scope} {name : String} (here : scope.locals.has name = true)
    (value : Value) (rest : List Scope) :
    assignIn name value (scope :: rest) = { scope with locals := scope.locals.put name value } :: rest := by
  simp [assignIn, here]

theorem assignIn_cons_of_not {scope : Scope} {name : String} (absent : scope.locals.has name = false)
    (value : Value) (rest : List Scope) :
    assignIn name value (scope :: rest) = scope :: assignIn name value rest := by
  simp [assignIn, absent]

/-- An assignment changes what its name stands for, if it stands for a variable. -/
theorem lookupIn_assignIn (scopes : List Scope) (name other : String) (value : Value) :
    lookupIn (assignIn name value scopes) other =
      if other = name then (lookupIn scopes name).map fun _ => value else lookupIn scopes other := by
  induction scopes with
  | nil => simp
  | cons scope rest ih =>
    cases here : scope.locals.has name with
    | true =>
      obtain ⟨old, found⟩ := (Bindings.has_iff _ _).mp here
      by_cases same : other = name
      · simp [assignIn_cons_of_has here, lookupIn_cons, same, found]
      · simp [assignIn_cons_of_has here, lookupIn_cons, same]
    | false =>
      have absent := (Bindings.not_has_iff _ _).mp here
      by_cases same : other = name
      · subst same
        simp [assignIn_cons_of_not here, lookupIn_cons, ih, absent]
      · simp [assignIn_cons_of_not here, lookupIn_cons, ih, same]

@[simp] theorem assign_scopes (name : String) (value : Value) (frame : Frame) :
    (frame.assign name value).scopes = assignIn name value frame.scopes := rfl

@[simp] theorem push_scopes (frame : Frame) : frame.push.scopes = {} :: frame.scopes := rfl

@[simp] theorem pop_scopes (frame : Frame) : frame.pop.scopes = frame.scopes.drop 1 := rfl

@[simp] theorem get?_push (frame : Frame) (name : String) : frame.push.get? name = frame.get? name := by
  simp [get?_eq]

end Frame

end JavaWeave.Interpreter
