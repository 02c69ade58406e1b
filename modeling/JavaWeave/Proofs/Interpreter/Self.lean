import JavaWeave.Interpreter.Perform
import JavaWeave.Proofs.Interpreter.Outcome
import JavaWeave.Proofs.Interpreter.Store

namespace JavaWeave.Interpreter

open Syntax

@[simp] theorem outcome_evalLiteral (perform : Performer) (value : Literal) (point : Point) :
    outcome (eval perform (.literal value)) point = (.ok (.ofLiteral value), point) := rfl

namespace World

/-- The state of an object of a class of the program. -/
def instance? (world : World) (address : Address) : Option Instance := world.heap.instance? (.ref address)

/-- What a field of an object holds. -/
def field? (world : World) (address : Address) (name : String) : Option Value :=
  (world.instance? address).bind (·.fields.lookup name)

/-- The world in which a field of an object holds a value. -/
def putField (world : World) (address : Address) (name : String) (value : Value) : World :=
  match world.instance? address with
  | some state =>
    { world with
      heap := world.heap.set address (.ofClass { state with fields := state.fields.put name value }) }
  | none => world

/-- The world with one more object. -/
def grown (world : World) (object : Object) : World := { world with heap := (world.heap.allocate object).2 }

/-- Where the next new object is put. -/
def frontier (world : World) : Address := ⟨world.heap.objects.size⟩

/-- The world as a call sees it that is nested in so many others. -/
def atDepth (world : World) (depth : Nat) : World := { world with depth }

theorem instance?_eq_some {world : World} {address : Address} {state : Instance} :
    world.instance? address = some state ↔ world.heap.get? address = some (.ofClass state) := by
  change ((world.heap.get? address).bind Object.instance?) = some state ↔ _
  cases world.heap.get? address with
  | none => simp
  | some object => cases object <;> simp [Object.instance?]

theorem exists_instance {world : World} {address : Address} {name : String} {value : Value}
    (holds : world.field? address name = some value) :
    ∃ state, world.instance? address = some state ∧ state.fields.lookup name = some value := by
  simpa [field?, Option.bind_eq_some_iff] using holds

section

variable (world : World) (address other : Address) (name key : String) (value : Value)

@[simp] theorem classes_putField : (world.putField address name value).classes = world.classes := by
  unfold putField
  split <;> rfl

@[simp] theorem depth_putField : (world.putField address name value).depth = world.depth := by
  unfold putField
  split <;> rfl

theorem get?_putField :
    (world.putField address name value).heap.get? other =
      if other = address then
        match world.instance? address with
        | some state => some (.ofClass { state with fields := state.fields.put name value })
        | none => world.heap.get? other
      else world.heap.get? other := by
  unfold putField
  cases there : world.instance? address with
  | none => simp
  | some state =>
    have inside : address.index < world.heap.objects.size := by
      have found := instance?_eq_some.mp there
      exact (Array.getElem?_eq_some_iff.mp found).1
    simp only [Heap.set, Heap.get?, Array.getElem?_setIfInBounds]
    by_cases same : other = address
    · subst same
      simp [inside]
    · have apart : address.index ≠ other.index := fun equal => same (congrArg Address.mk equal.symm)
      simp [same, apart]

@[simp] theorem instance?_putField :
    (world.putField address name value).instance? other =
      if other = address then
        (world.instance? address).map fun state => { state with fields := state.fields.put name value }
      else world.instance? other := by
  have found := get?_putField world address other name value
  have unfolded (world : World) : world.instance? other = (world.heap.get? other).bind Object.instance? := rfl
  rw [unfolded, found]
  by_cases same : other = address
  · subst same
    cases there : world.instance? other with
    | none => simpa [unfolded] using there
    | some state => simp [Object.instance?]
  · simp [same, unfolded]

@[simp] theorem field?_putField :
    (world.putField address name value).field? other key =
      if other = address ∧ key = name then (world.instance? address).map fun _ => value
      else world.field? other key := by
  unfold field?
  rw [instance?_putField]
  by_cases same : other = address
  · subst same
    cases world.instance? other with
    | none => simp
    | some state => by_cases here : key = name <;> simp [here]
  · simp [same]

@[simp] theorem instance?_atDepth (depth : Nat) :
    (world.atDepth depth).instance? address = world.instance? address := rfl

@[simp] theorem field?_atDepth (depth : Nat) :
    (world.atDepth depth).field? address name = world.field? address name := rfl

@[simp] theorem classes_atDepth (depth : Nat) : (world.atDepth depth).classes = world.classes := rfl

@[simp] theorem depth_atDepth (depth : Nat) : (world.atDepth depth).depth = depth := rfl

@[simp] theorem atDepth_depth : world.atDepth world.depth = world := rfl

@[simp] theorem atDepth_atDepth (depth depth' : Nat) :
    (world.atDepth depth).atDepth depth' = world.atDepth depth' := rfl

theorem putField_atDepth (depth : Nat) :
    (world.atDepth depth).putField address name value = (world.putField address name value).atDepth depth := by
  unfold putField
  rw [instance?_atDepth]
  split <;> rfl

@[simp] theorem classes_grown (object : Object) : (world.grown object).classes = world.classes := rfl

@[simp] theorem depth_grown (object : Object) : (world.grown object).depth = world.depth := rfl

theorem get?_grown (object : Object) :
    (world.grown object).heap.get? address =
      if address = world.frontier then some object else world.heap.get? address := by
  simp only [grown, Heap.allocate, Heap.get?, Array.getElem?_push]
  by_cases same : address = world.frontier
  · simp [same, frontier]
  · have apart : address.index ≠ world.heap.objects.size := fun equal => same (congrArg Address.mk equal)
    simp [same, apart]

theorem get?_frontier : world.heap.get? world.frontier = none := by
  simp [frontier, Heap.get?]

@[simp] theorem instance?_grown_frontier (state : Instance) :
    (world.grown (.ofClass state)).instance? world.frontier = some state := by
  rw [instance?_eq_some, get?_grown, if_pos rfl]

variable {world address}

/-- An object that is there stays as it is when another is made. -/
theorem get?_grown_of_some {found : Object} (there : world.heap.get? address = some found) (object : Object) :
    (world.grown object).heap.get? address = some found := by
  rw [get?_grown, if_neg, there]
  rintro rfl
  rw [get?_frontier] at there
  cases there

theorem instance?_grown_of_some {state : Instance} (there : world.instance? address = some state)
    (object : Object) : (world.grown object).instance? address = some state :=
  instance?_eq_some.mpr (get?_grown_of_some (instance?_eq_some.mp there) object)

theorem field?_grown_of_some (holds : world.field? address name = some value) (object : Object) :
    (world.grown object).field? address name = some value := by
  obtain ⟨state, there, found⟩ := exists_instance holds
  simp [field?, instance?_grown_of_some there, found]

end

end World

namespace World

variable {world : World} {address other : Address} {old new : Object}

/-- The world in which another object stands at an address. -/
def stored (world : World) (address : Address) (object : Object) : World :=
  { world with heap := world.heap.set address object }

theorem get?_stored (there : world.heap.get? address = some old) :
    (world.stored address new).heap.get? other = if other = address then some new else world.heap.get? other := by
  have inside : address.index < world.heap.objects.size := (Array.getElem?_eq_some_iff.mp there).1
  simp only [stored, Heap.set, Heap.get?, Array.getElem?_setIfInBounds]
  by_cases same : other = address
  · subst same
    simp [inside]
  · have apart : address.index ≠ other.index := fun equal => same (congrArg Address.mk equal.symm)
    simp [same, apart]

/-- What already stands at an address is put there again. -/
theorem stored_same (there : world.heap.get? address = some old) : world.stored address old = world := by
  obtain ⟨inside, same⟩ := Array.getElem?_eq_some_iff.mp there
  simp only [stored, Heap.set, Array.setIfInBounds, dif_pos inside, ← same, Array.set_getElem_self]

@[simp] theorem stored_stored : (world.stored address old).stored address new = world.stored address new := by
  simp only [stored, Heap.set, Array.setIfInBounds_setIfInBounds]

/-- Fields of objects of the program do not change with those of the library. -/
theorem field?_stored (there : world.heap.get? address = some old) (foreign : old.instance? = none)
    (foreign' : new.instance? = none) (self : Address) (name : String) :
    (world.stored address new).field? self name = world.field? self name := by
  have unfolded (world : World) : world.instance? self = (world.heap.get? self).bind Object.instance? := rfl
  rw [field?, field?, unfolded, unfolded, get?_stored there]
  split
  · next same => simp [same, there, foreign, foreign']
  · rfl

end World

@[simp] theorem run_pure (value : α) (world : World) : (pure value : Run α) world = (.ok value, world) := rfl

@[simp] theorem run_throw (unwind : Unwind) (world : World) :
    (throw unwind : Run α) world = (.error unwind, world) := rfl

/-- Steps of the whole program one after the other. -/
theorem run_bind (first : Run α) (next : α → Run β) (world : World) :
    (first >>= next) world =
      match first world with
      | (.ok value, world) => next value world
      | (.error unwind, world) => (.error unwind, world) := by
  change (ExceptT.bind first next) world = _
  simp only [ExceptT.bind, ExceptT.mk, bind, StateT.bind, ExceptT.bindCont]
  rcases first world with ⟨result, after⟩
  cases result <;> rfl

/-- Steps that are tried, and what is done where they end abruptly. -/
theorem run_tryCatch (body : Run α) (handler : Unwind → Run α) (world : World) :
    (tryCatch body handler) world =
      match body world with
      | (.ok value, world) => (.ok value, world)
      | (.error unwind, world) => handler unwind world := by
  simp only [tryCatch, tryCatchThe, MonadExceptOf.tryCatch, ExceptT.tryCatch, ExceptT.mk, bind, StateT.bind]
  rcases body world with ⟨unwind | value, after⟩ <;> rfl

@[simp] theorem run_heap (world : World) : heap world = (.ok world.heap, world) := rfl

@[simp] theorem run_classes (world : World) : classes world = (.ok world.classes, world) := rfl

@[simp] theorem run_classInfo (id : ClassId) (world : World) :
    classInfo id world = (.ok (world.classes.get id), world) := rfl

@[simp] theorem run_allocateAt (object : Object) (world : World) :
    allocateAt object world = (.ok world.frontier, world.grown object) := rfl

@[simp] theorem run_allocate (object : Object) (world : World) :
    allocate object world = (.ok (.ref world.frontier), world.grown object) := rfl

/-- Assigning a field. -/
theorem setField_eq (world : World) (address : Address) (name : String) (value : Value) :
    setField address name value world = (.ok (), world.putField address name value) := by
  simp only [setField, modifyInstance, run_bind, run_heap]
  unfold World.putField
  cases there : world.instance? address with
  | some state =>
    rw [World.instance?_eq_some.mp there]
    rfl
  | none =>
    cases found : world.heap.get? address with
    | none => rfl
    | some object =>
      cases object with
      | ofClass state =>
        rw [World.instance?_eq_some.mpr found] at there
        cases there
      | _ => rfl

/-- A value that is no number is assigned as it is. -/
theorem conform_of_not_number {compound : Bool} {current value : Value} (plain : value.double? = none) :
    conform compound current value = value := by
  unfold conform
  split
  · rfl
  · next kind _ =>
    have wide : isNarrower kind value = false := by
      unfold isNarrower
      split <;> first | rfl | simp [Value.double?, Value.long?, Value.int?] at plain
    simp [wide, plain]

@[simp] theorem conform_bool (compound : Bool) (current : Value) (value : Bool) :
    conform compound current (.bool value) = .bool value := conform_of_not_number rfl

@[simp] theorem conform_int (current value : Int32) : conform false (.int current) (.int value) = .int value := rfl

@[simp] theorem coerce_ref (type : JavaType) (address : Address) : coerce type (.ref address) = .ref address := by
  have kept : (convert type.name (.ref address)).getD (.ref address) = .ref address := by
    unfold convert
    split <;> first | rfl | contradiction
  unfold coerce
  split
  · exact kept
  · rfl

section

variable {perform : Performer} {point : Point} {self : Address} {name : String}

theorem outcome_heap (point : Point) :
    outcome (liftM heap : Code Heap) point = (.ok point.2.heap, point) := rfl

theorem outcome_classes (point : Point) :
    outcome (liftM classes : Code ClassTable) point = (.ok point.2.classes, point) := rfl

/-- The current object is the nearest of the objects around the code. -/
theorem currentObjects_self {heap : Heap} {frame : Frame} {state : Instance} (current : frame.self = some self)
    (there : heap.instance? (.ref self) = some state) :
    ∃ others, currentObjects heap frame = (self, state) :: others := by
  refine ⟨state.outers.filterMap fun address => (heap.instance? (.ref address)).map (address, ·), ?_⟩
  simp [currentObjects, current, there]

/-- A variable of the code is read by its name. -/
theorem outcome_evalLocal {value : Value} (holds : point.1.get? name = some value) :
    outcome (eval perform (.name name)) point = (.ok value, point) := by
  simp [eval_name, evalName, lookup, holds]

/-- An own field is read by its name. -/
theorem outcome_evalOwn {value : Value} (current : point.1.self = some self) (free : point.1.get? name = none)
    (holds : point.2.field? self name = some value) :
    outcome (eval perform (.name name)) point = (.ok value, point) := by
  obtain ⟨state, there, found⟩ := World.exists_instance holds
  obtain ⟨others, objects⟩ := currentObjects_self current there
  have looked : outcome (lookup perform name) point = (.ok (some value), point) := by
    simp only [lookup, outcome_bind, outcome_frame, proceed_ok, free, outcome_heap, objects,
      List.findSome?_cons, found, Option.some_or, outcome_pure]
  simp only [eval_name, evalName, outcome_bind, looked, proceed_ok, outcome_pure]

/-- A field of an object is assigned where the place stands for it. What it held before the right side was
evaluated decides how a number is kept. -/
theorem outcome_assignAt {held : Value} {place : Expression}
    (placed : outcome (evalPlace perform place) point = (.ok (.field self name), point))
    (holds : point.2.field? self name = some held) (e : Expression) :
    outcome (eval perform (.set place e)) point =
      proceed (outcome (eval perform e) point) fun value after =>
        (.ok (conform false held value), (after.1, after.2.putField self name (conform false held value))) := by
  obtain ⟨state, there, found⟩ := World.exists_instance holds
  have read : outcome (readPlace (.field self name)) point = (.ok held, point) := by
    have here : point.2.heap.instance? (.ref self) = some state := there
    simp only [readPlace, outcome_bind, outcome_heap, proceed_ok, here, Option.bind_some, found, Option.getD_some,
      outcome_pure]
  simp only [Expression.set, eval_assign, assignPlace, outcome_bind, placed, proceed_ok, read]
  rcases outcome (eval perform e) point with ⟨unwind | value, after⟩
  · rfl
  · simp only [proceed_ok, outcome_bind, outcome_pure, Option.isSome_none, writePlace, outcome_liftM, setField_eq]

/-- An own field is assigned by its name. -/
theorem outcome_assignOwn {held : Value} (current : point.1.self = some self) (free : point.1.get? name = none)
    (simple : Text.split '.' name = [name]) (holds : point.2.field? self name = some held) (e : Expression) :
    outcome (eval perform (.set (.name name) e)) point =
      proceed (outcome (eval perform e) point) fun value after =>
        (.ok (conform false held value), (after.1, after.2.putField self name (conform false held value))) := by
  obtain ⟨state, there, found⟩ := World.exists_instance holds
  obtain ⟨others, objects⟩ := currentObjects_self current there
  have declared : state.fields.has name = true := (Bindings.has_iff _ _).mpr ⟨held, found⟩
  refine outcome_assignAt ?_ holds e
  simp only [evalPlace_name, simple, List.reverse_singleton, placeNamed, outcome_bind, outcome_frame, proceed_ok,
    free, Option.isSome_none, Bool.false_eq_true, if_false, outcome_heap, objects, List.find?_cons, declared,
    outcome_pure]

/-- A field of the current object. -/
theorem outcome_assignSelf {held : Value} (current : point.1.self = some self)
    (holds : point.2.field? self name = some held) (e : Expression) :
    outcome (eval perform (.set (.ofSelf name) e)) point =
      proceed (outcome (eval perform e) point) fun value after =>
        (.ok (conform false held value), (after.1, after.2.putField self name (conform false held value))) := by
  obtain ⟨state, there, found⟩ := World.exists_instance holds
  have declared : state.fields.has name = true := (Bindings.has_iff _ _).mpr ⟨held, found⟩
  have instance' := World.instance?_eq_some.mp there
  refine outcome_assignAt ?_ holds e
  have received : outcome (asReceiver perform .self (eval perform .self)) point = (.ok (.value (.ref self)), point) := by
    change outcome (Receiver.value <$> eval perform (.this none)) point = _
    simp only [eval_this, currentObject, outcome_map, outcome_bind, outcome_frame, proceed_ok, current, outcome_pure]
  have place : outcome (liftM (memberPlace perform (.value (.ref self)) name) : Code Place) point =
      (.ok (.field self name), point) := by
    rw [outcome_liftM]
    simp only [memberPlace, run_bind, run_heap, instance', declared, if_true]
    rfl
  change outcome (evalPlace perform (.field .self name)) point = _
  simp only [evalPlace_field, outcome_bind, received, proceed_ok, place]

theorem isSubclass_self (classes : ClassTable) (id : ClassId) : classes.isSubclass id id = true := by
  unfold ClassTable.isSubclass ClassTable.chain ClassTable.chainFrom
  simp only [List.contains_nil, Bool.false_eq_true, if_false]
  split <;> simp

/-- A call on an object runs the method that its class has. -/
theorem dispatch_own {world : World} {state : Instance} {owner : ClassId} {method : Method}
    {arguments : List Value} (there : world.instance? self = some state)
    (found : world.classes.method? state.type name arguments.length = some (owner, method)) :
    dispatch perform (.ref self) name arguments world =
      perform (.invoke owner method (some self) arguments) world := by
  simp only [dispatch, run_bind, run_heap, World.instance?_eq_some.mp there, run_classes, found]

/-- A method of the class itself is called on the current object. -/
theorem outcome_callOwn {state : Instance} {owner : ClassId} {method : Method} {arguments : List Value}
    (named : name ≠ "this" ∧ name ≠ "super") (current : point.1.self = some self)
    (there : point.2.instance? self = some state) (own : point.1.type = state.type)
    (plain : (point.2.classes.get state.type).decl.isEnum = false)
    (found : point.2.classes.method? state.type name arguments.length = some (owner, method))
    (bound : method.isStatic = false) :
    outcome (callUnqualified perform name arguments) point =
      outcome (liftM (perform (.invoke owner method (some self) arguments)) : Code Value) point := by
  obtain ⟨others, objects⟩ := currentObjects_self current there
  have nearest : currentOf? point.2 point.1 state.type = some self := by
    simp [currentOf?, objects, isSubclass_self]
  have answered : callInClass? perform name arguments point.2 point.1 state.type =
      some (dispatch perform (.ref self) name arguments) := by
    simp [callInClass?, enumMethod?, plain, found, bound, nearest]
  have searched : (point.2.classes.lexical point.1.type).findSome?
      (callInClass? perform name arguments point.2 point.1) =
        some (dispatch perform (.ref self) name arguments) := by
    rw [own, ClassTable.lexical, List.findSome?_cons, answered]
  have ordinary : (name == "this" || name == "super") = false := by simp [named]
  simp only [callUnqualified, ordinary, Bool.false_eq_true, if_false, outcome_bind, outcome_world,
    outcome_frame, proceed_ok, searched]
  rw [outcome_liftM, outcome_liftM, dispatch_own there found]

end

/-- The negation of an expression. -/
theorem outcome_evalNot {perform : Performer} {e : Expression} {value : Bool} {point after : Point}
    (gives : outcome (eval perform e) point = (.ok (.bool value), after)) :
    outcome (eval perform (.not e)) point = (.ok (.bool !value), after) := by
  have steady : UnaryOp.not.steps = false := rfl
  simp only [Expression.not, eval_unary, steady, Bool.false_eq_true, if_false, outcome_bind, gives, proceed_ok]
  rfl

theorem outcome_evalNot_error {perform : Performer} {e : Expression} {unwind : Unwind} {point after : Point}
    (breaks : outcome (eval perform e) point = (.error unwind, after)) :
    outcome (eval perform (.not e)) point = (.error unwind, after) := by
  have steady : UnaryOp.not.steps = false := rfl
  simp only [Expression.not, eval_unary, steady, Bool.false_eq_true, if_false, outcome_bind, breaks, proceed_error]

section

variable {meaning : Meaning} {fuel : Nat} {condition : Expression} {body : Statement} {point after : Point}

/-- A statement under a condition that holds. -/
theorem outcome_whenever_true (holds : outcome (meaning.eval condition) point = (.ok (.bool true), after)) :
    outcome (exec meaning fuel none (.whenever condition body)) point =
      outcome (exec meaning fuel none body) after := by
  simp [Statement.whenever, exec_ifElse_none, outcome_truth holds]

/-- A statement under a condition that does not hold. -/
theorem outcome_whenever_false (fails : outcome (meaning.eval condition) point = (.ok (.bool false), after)) :
    outcome (exec meaning fuel none (.whenever condition body)) point = (.ok .normal, after) := by
  simp [Statement.whenever, exec_ifElse_none, outcome_truth fails]

theorem outcome_whenever_error {unwind : Unwind}
    (breaks : outcome (meaning.eval condition) point = (.error unwind, after)) :
    outcome (exec meaning fuel none (.whenever condition body)) point = (.error unwind, after) := by
  simp [Statement.whenever, exec_ifElse_none, truth, breaks]

end

section

variable {perform : Performer} {fuel : Nat} {frame frame' : Frame} {world after : World} {self : Address}
  {name : String} {held : Value} (current : frame.self = some self) (free : frame.get? name = none)
  (simple : Text.split '.' name = [name]) (holds : world.field? self name = some held) {e : Expression}

include current free simple holds

/-- An assignment of an own field, as a statement. -/
theorem outcome_storeOwn {value : Value}
    (gives : outcome (eval perform e) (frame, world) = (.ok value, (frame', after))) :
    outcome (exec (.ofPerformer perform) fuel none (.set (.name name) e)) (frame, world) =
      (.ok .normal, (frame', after.putField self name (conform false held value))) := by
  have assigned : outcome (eval perform (.set (.name name) e)) (frame, world) = _ :=
    outcome_assignOwn current free simple holds e
  rw [gives, proceed_ok] at assigned
  simp only [Statement.set, exec_expression, outcome_bind, outcome_discard]
  rw [show (Meaning.ofPerformer perform).eval = eval perform from rfl, assigned]
  rfl

/-- Nothing is assigned where the right side ends abruptly. -/
theorem outcome_storeOwn_error {unwind : Unwind}
    (breaks : outcome (eval perform e) (frame, world) = (.error unwind, (frame', after))) :
    outcome (exec (.ofPerformer perform) fuel none (.set (.name name) e)) (frame, world) =
      (.error unwind, (frame', after)) := by
  have assigned : outcome (eval perform (.set (.name name) e)) (frame, world) = _ :=
    outcome_assignOwn current free simple holds e
  rw [breaks, proceed_error] at assigned
  simp only [Statement.set, exec_expression, outcome_bind, outcome_discard]
  rw [show (Meaning.ofPerformer perform).eval = eval perform from rfl, assigned]
  rfl

end

/-- A variable is declared with the value of its initializer. -/
theorem outcome_declare {perform : Performer} {fuel : Nat} {decl : LocalVariable} {e : Expression} {value : Value}
    {point after : Point} (initial : decl.initial = some e)
    (gives : outcome (eval perform e) point = (.ok value, after)) :
    outcome (exec (.ofPerformer perform) fuel none (.declare decl)) point =
      (.ok .normal, (after.1.declare decl.name (coerce decl.type value), after.2)) := by
  simp only [exec_declare, declareLocal, initial, outcome_bind, outcome_map]
  rw [show (Meaning.ofPerformer perform).eval = eval perform from rfl, gives]
  rfl

/-- A return with a value. -/
theorem outcome_returns {perform : Performer} {fuel : Nat} {e : Expression} {value : Value} {point after : Point}
    (gives : outcome (eval perform e) point = (.ok value, after)) :
    outcome (exec (.ofPerformer perform) fuel none (.returns (some e))) point = (.ok (.returns value), after) := by
  simp only [exec_returns, outcome_map]
  rw [show (Meaning.ofPerformer perform).eval = eval perform from rfl, gives]
  rfl

/-- A throw of what an expression gives. -/
theorem outcome_throws {perform : Performer} {fuel : Nat} {e : Expression} {address : Address}
    {point after : Point} (gives : outcome (eval perform e) point = (.ok (.ref address), after)) :
    outcome (exec (.ofPerformer perform) fuel none (.throws e)) point =
      (.error (.thrown (.ref address)), after) := by
  simp only [exec_throws, outcome_bind]
  rw [show (Meaning.ofPerformer perform).eval = eval perform from rfl, gives, proceed_ok, outcome_bind,
    outcome_nonNull rfl]
  rfl

theorem outcome_throws_error {perform : Performer} {fuel : Nat} {e : Expression} {unwind : Unwind}
    {point after : Point} (breaks : outcome (eval perform e) point = (.error unwind, after)) :
    outcome (exec (.ofPerformer perform) fuel none (.throws e)) point = (.error unwind, after) := by
  simp only [exec_throws, outcome_bind]
  rw [show (Meaning.ofPerformer perform).eval = eval perform from rfl, breaks]
  rfl

@[simp] theorem outcome_evalAll_nil (perform : Performer) (point : Point) :
    outcome (evalAll perform []) point = (.ok [], point) := by
  rw [evalAll_nil, outcome_pure]

theorem outcome_evalAll_cons {perform : Performer} {e : Expression} {value : Value} {rest : List Expression}
    {point after : Point} (gives : outcome (eval perform e) point = (.ok value, after)) :
    outcome (evalAll perform (e :: rest)) point =
      proceed (outcome (evalAll perform rest) after) fun values point => (.ok (value :: values), point) := by
  rw [evalAll_cons, outcome_bind, gives, proceed_ok, outcome_bind]
  rfl

theorem outcome_evalAll_single {perform : Performer} {e : Expression} {value : Value} {point after : Point}
    (gives : outcome (eval perform e) point = (.ok value, after)) :
    outcome (evalAll perform [e]) point = (.ok [value], after) := by
  rw [outcome_evalAll_cons gives, outcome_evalAll_nil, proceed_ok]

/-- Making an exception of the library. -/
theorem outcome_makeThrowable {perform : Performer} {type : JavaType} {name : String} {arguments : List Expression}
    {values : List Value} {point after : Point}
    (given : outcome (evalAll perform arguments) point = (.ok values, after))
    (meant : resolveType after.2.classes after.1 type.name = some (.library name))
    (thrown : Library.isThrowable name = true) :
    outcome (eval perform (.make type arguments)) point =
      outcome (liftM (do allocate (.throwable (← throwableState perform name values)) : Run Value) : Code Value)
        after := by
  simp only [Expression.make, eval_create, outcome_bind, given, proceed_ok, create, outcome_frame, outcome_world, meant,
    thrown, if_true, outcome_liftM, run_bind]
  rcases throwableState perform name values after.2 with ⟨unwind | state, world⟩ <;> rfl

/-- A call on what stands in front of the dot. -/
theorem outcome_callReceived {perform : Performer} {receiver : Expression} {received : Receiver} {called : String}
    {arguments : List Expression} {values : List Value} {point middle after : Point}
    (ordinary : (receiver.asName? == some "super") = false)
    (stands : outcome (asReceiver perform receiver (eval perform receiver)) point = (.ok received, middle))
    (given : outcome (evalAll perform arguments) middle = (.ok values, after)) :
    outcome (eval perform (.callOn receiver called arguments)) point =
      outcome (liftM (callOn perform received called values) : Code Value) after := by
  simp only [Expression.callOn, eval_callOn, ordinary, Bool.false_eq_true, if_false, outcome_bind, stands, proceed_ok, given]

/-- A call without arguments on a value, which no name stands for. -/
theorem outcome_callOnValue {perform : Performer} {e : Expression} {name : String} {value : Value}
    {result : Except Unwind Value} {point : Point} {frame : Frame} {world after : World} (unnamed : e.asName? = none)
    (evaluates : outcome (eval perform e) point = (.ok value, (frame, world)))
    (answered : dispatch perform value name [] world = (result, after)) :
    outcome (eval perform (.callOn e name [])) point = (result, (frame, after)) := by
  have received : outcome (asReceiver perform e (eval perform e)) point = (.ok (.value value), (frame, world)) := by
    have plain : asReceiver perform e (eval perform e) = Receiver.value <$> eval perform e := by
      cases e <;> first | rfl | cases unnamed
    rw [plain, outcome_map, evaluates, proceed_ok]
  have ordinary : (e.asName? == some "super") = false := by
    rw [unnamed]
    rfl
  rw [outcome_callReceived ordinary received (outcome_evalAll_nil _ _), outcome_liftM, callOn, answered]

/-- The name of what holds a value, in front of a dot. -/
theorem outcome_receiverHeld {perform : Performer} {point : Point} {name : String} {value : Value}
    (simple : Text.split '.' name = [name])
    (looked : outcome (lookup perform name) point = (.ok (some value), point)) :
    outcome (asReceiver perform (.name name) (eval perform (.name name))) point = (.ok (.value value), point) := by
  simp only [asReceiver, receiverNamed, simple, List.headD_cons, evalName, outcome_bind, proceed_ok, looked,
    outcome_pure, Option.isNone_some, Bool.false_eq_true, if_false]

/-- The name of a variable in front of a dot. -/
theorem outcome_receiverLocal {perform : Performer} {point : Point} {name : String} {value : Value}
    (simple : Text.split '.' name = [name]) (holds : point.1.get? name = some value) :
    outcome (asReceiver perform (.name name) (eval perform (.name name))) point = (.ok (.value value), point) :=
  outcome_receiverHeld simple (by simp [lookup, holds])

section

variable {perform : Performer} {frame : Frame} {world : World} {name : String} (outside : frame.self = none)
  (free : frame.get? name = none)

include outside free

/-- Code of a class takes a name that is no variable for a static field in scope. -/
theorem outcome_lookupStatic {owner : ClassId} (claimed : staticInScope? world.classes frame name = some owner)
    (prepared : perform (.prepare owner) world = (.ok (), world)) :
    outcome (lookup perform name) (frame, world) =
      (.ok ((world.classes.get owner).state.statics.lookup name), (frame, world)) := by
  have objects : currentObjects world.heap frame = [] := by simp [currentObjects, outside]
  simp only [lookup, outcome_bind, outcome_frame, proceed_ok, free, outcome_liftM, run_heap, objects,
    List.findSome?_nil, run_classes, claimed, prepared, run_classInfo, outcome_pure]

/-- A name that is nothing of the kind. -/
theorem outcome_lookupStatic_none (unclaimed : staticInScope? world.classes frame name = none) :
    outcome (lookup perform name) (frame, world) = (.ok none, (frame, world)) := by
  have objects : currentObjects world.heap frame = [] := by simp [currentObjects, outside]
  simp only [lookup, outcome_bind, outcome_frame, proceed_ok, free, outcome_heap, objects, List.findSome?_nil,
    outcome_classes, unclaimed, outcome_pure]

end

/-- A name in front of a dot that stands for a type. -/
theorem outcome_receiverType {perform : Performer} {point : Point} {name : String} {type : ClassRef}
    (unbound : outcome (lookup perform ((Text.split '.' name).headD name)) point = (.ok none, point))
    (meant : resolveType point.2.classes point.1 name = some type) :
    outcome (asReceiver perform (.name name) (eval perform (.name name))) point = (.ok (.type type), point) := by
  simp only [asReceiver, receiverNamed, outcome_bind, unbound, proceed_ok, Option.isNone_none, if_true,
    outcome_classes, outcome_frame, meant, outcome_pure]

theorem asName?_ne_super {name : String} (ordinary : name ≠ "super") :
    ((Expression.name name).asName? == some "super") = false := by
  simpa [Expression.asName?] using ordinary

/-- A call of a static method of the library. -/
theorem outcome_callLibrary {perform : Performer} {point after : Point} {name type called : String}
    {arguments : List Expression} {values : List Value} (ordinary : name ≠ "super")
    (unbound : outcome (lookup perform ((Text.split '.' name).headD name)) point = (.ok none, point))
    (meant : resolveType point.2.classes point.1 name = some (.library type))
    (given : outcome (evalAll perform arguments) point = (.ok values, after)) :
    outcome (eval perform (.callOn (.name name) called arguments)) point =
      outcome (liftM (callLibrary perform type called values) : Code Value) after :=
  outcome_callReceived (asName?_ne_super ordinary) (outcome_receiverType unbound meant) given

/-- A call without arguments on an object that is made for it. -/
theorem outcome_callOnMade {perform : Performer} {type : JavaType} {arguments : List Expression} {name : String}
    {point : Point} {frame : Frame} {world after : World} {value : Value} {result : Except Unwind Value}
    (made : outcome (eval perform (.make type arguments)) point = (.ok value, (frame, world)))
    (answered : dispatch perform value name [] world = (result, after)) :
    outcome (eval perform (.callOn (.make type arguments) name [])) point = (result, (frame, after)) :=
  outcome_callOnValue rfl made answered

section

variable {fuel : Nat} {owner : ClassId} {method : Method} {self : Address}

theorem within_eq (frame : Frame) (body : Code α) (world : World) :
    Code.within frame body world =
      ((outcome body (frame, world)).1, (outcome body (frame, world)).2.2) := rfl

theorem counted_eq (action : Run α) (world : World) :
    counted action world =
      ((action (world.atDepth (world.depth + 1))).1,
        (action (world.atDepth (world.depth + 1))).2.atDepth
          ((action (world.atDepth (world.depth + 1))).2.depth - 1)) := rfl

/-- The frame that a method starts with when it is called on an object. -/
def startFrame (owner : ClassId) (method : Method) (self : Address) : Frame :=
  { type := owner, self := some self, returnType := method.returnType }

/-- Code of an object runs in scopes that declare nothing. -/
structure Frame.Bare (frame : Frame) (id : ClassId) (address : Address) : Prop where
  self : frame.self = some address
  type : frame.type = id
  locals : ∀ name, frame.get? name = none
  types : ∀ name, frame.type? name = none

theorem bare_startFrame (owner : ClassId) (method : Method) (self : Address) :
    (startFrame owner method self).Bare owner self := ⟨rfl, rfl, fun _ => rfl, fun _ => rfl⟩

theorem Frame.Bare.push {frame : Frame} {id : ClassId} {address : Address} (bare : frame.Bare id address) :
    frame.push.Bare id address where
  self := bare.self
  type := bare.type
  locals := bare.locals
  types := bare.types

/-- Where no block declares a type, the name of one stands for what it does in the class around the code. -/
theorem resolveType_eq {frame : Frame} (types : ∀ name, frame.type? name = none) (classes : ClassTable)
    (name : String) : resolveType classes frame name = classes.resolve (some frame.type) name := by
  have pieces : Text.split '.' name ≠ [] := by simpa [Text.split] using Text.pieces_ne_nil '.' name.toList
  unfold Interpreter.resolveType
  split
  · next empty => exact absurd empty pieces
  · next first rest _ => rw [types first]

theorem Frame.Bare.resolveType {frame : Frame} {id : ClassId} {address : Address} (bare : frame.Bare id address)
    (classes : ClassTable) (name : String) : resolveType classes frame name = classes.resolve (some id) name := by
  rw [resolveType_eq bare.types, bare.type]

/-- What a call returns whose body ends in the given way. -/
def callResult (type : JavaType) : Except Unwind Flow → Except Unwind Value
  | .ok .normal => .ok .null
  | .ok (.returns value) => .ok (coerce type value)
  | .ok (.breaks _) => .error (.failed (.strayJump "break"))
  | .ok (.continues _) => .error (.failed (.strayJump "continue"))
  | .error unwind => .error unwind

/-- A call on an object runs the body of the method one level deeper. -/
theorem performer_invoke {arguments : List Value} {world : World} (bound : method.isStatic = false)
    (room : world.depth < depthLimit) {result : Except Unwind Flow} {after : Point}
    (ends : proceed (outcome (bindParameters method.parameters arguments)
        (startFrame owner method self, world.atDepth (world.depth + 1)))
      (fun _ => outcome (execAll (.ofPerformer (performer fuel)) fuel method.body)) = (result, after)) :
    performer (fuel + 1) (.invoke owner method (some self) arguments) world =
      (callResult method.returnType result, after.2.atDepth (after.2.depth - 1)) := by
  have admitted : performer (fuel + 1) (.invoke owner method (some self) arguments) world =
      counted (runMethod (performer fuel) fuel owner method (some self) arguments) world := by
    have shallow : ¬world.depth ≥ depthLimit := by omega
    change invoke (performer fuel) fuel owner method (some self) arguments world = _
    simp only [invoke, bound, Bool.false_eq_true, if_false]
    change (if world.depth ≥ depthLimit then _ else _ : Run Value) world = _
    rw [if_neg shallow]
  have run : runMethod (performer fuel) fuel owner method (some self) arguments
      (world.atDepth (world.depth + 1)) = (callResult method.returnType result, after.2) := by
    simp only [runMethod, bound, Bool.false_eq_true, if_false, within_eq, outcome_bind, runAll]
    rw [show (⟨owner, some self, method.returnType, [{}]⟩ : Frame) = startFrame owner method self from rfl]
    revert ends
    rcases outcome (bindParameters method.parameters arguments)
      (startFrame owner method self, world.atDepth (world.depth + 1)) with ⟨unwind | _, middle⟩
    · rintro ⟨⟩
      rfl
    · simp only [proceed_ok]
      intro ends
      rw [outcome_bind, ends]
      rcases result with unwind | _ | _ | _ | _ <;> rfl
  rw [admitted, counted_eq, run]

/-- A call of a method without parameters. -/
theorem performer_invoke_bare {world : World} (bound : method.isStatic = false) (bare : method.parameters = [])
    (room : world.depth < depthLimit) {result : Except Unwind Flow} {after : Point}
    (ends : outcome (execAll (.ofPerformer (performer fuel)) fuel method.body)
      (startFrame owner method self, world.atDepth (world.depth + 1)) = (result, after)) :
    performer (fuel + 1) (.invoke owner method (some self) []) world =
      (callResult method.returnType result, after.2.atDepth (after.2.depth - 1)) := by
  refine performer_invoke bound room ?_
  rw [bare]
  exact ends

end

end JavaWeave.Interpreter
