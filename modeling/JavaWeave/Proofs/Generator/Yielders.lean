import JavaWeave.Generator.Yielder
import JavaWeave.Proofs.Generator.Rounds
import JavaWeave.Proofs.Interpreter.Self
import Mathlib.Data.List.Nodup

namespace JavaWeave.Generator

open Syntax Interpreter

/-- A generator, and how the class is made that it becomes. -/
structure Yielder where
  owner : TypeDecl
  method : Method
  shape : Shape
  optimize : Bool
  /-- Where the class stands in the program. -/
  origin : Origin := {}

namespace Yielder

variable (yielder : Yielder)

def machine : Machine := machineOf yielder.owner yielder.optimize yielder.method

def numbering : Numbering := yielder.machine.numberedFrom (if yielder.shape.iterable then 1 else 0)

def decl : TypeDecl :=
  { yielderDecl yielder.owner yielder.shape yielder.optimize yielder.method with origin := yielder.origin }

/-- The method that looks for the next element. -/
def getNext : Method := advanceMethod yielder.machine yielder.numbering

/-- The method that gives the state that handles an exception. -/
def getErrorHandler : Method := handlerMethod yielder.machine yielder.numbering

/-- A call that looks for the next element. -/
def advancing (id : ClassId) (self : Address) : Request := .invoke id yielder.getNext (some self) []

end Yielder

/-- The class of a generator is a class of the running program. It was prepared when the first object was made,
and the exceptions that it names are those of the library. -/
structure Hosted (yielder : Yielder) (id : ClassId) (world : World) : Prop where
  decl : (world.classes.get id).decl = yielder.decl
  nesting : (world.classes.get id).nesting = .inCode
  superclass : (world.classes.get id).superclass = none
  prepared : (world.classes.get id).state.stage ≠ .pending
  exhausted : world.classes.resolve (some id) "java.util.NoSuchElementException" =
    some (.library "NoSuchElementException")
  broken : world.classes.resolve (some id) "java.util.ConcurrentModificationException" =
    some (.library "ConcurrentModificationException")

/-- An object of the class of a generator that looks for elements: its machine stands at one of its states or at
the end. -/
structure Embodied (yielder : Yielder) (id : ClassId) (address : Address) (world : World) : Prop where
  hosted : Hosted yielder id world
  typed : ∃ state, world.instance? address = some state ∧ state.type = id
  state : ∃ target, world.field? address stateName = some (.int (yielder.numbering.number target))
  found : ∃ value, world.field? address hasNextName = some value
  sought : ∃ value, world.field? address soughtName = some value
  element : ∃ value, world.field? address elementName = some value

section

variable {yielder : Yielder} {id : ClassId} {self : Address} {world : World}

theorem Hosted.of_classes {other : World} (hosted : Hosted yielder id world)
    (same : other.classes = world.classes) : Hosted yielder id other := by
  constructor <;> rw [same]
  · exact hosted.decl
  · exact hosted.nesting
  · exact hosted.superclass
  · exact hosted.prepared
  · exact hosted.exhausted
  · exact hosted.broken

theorem Hosted.chain (hosted : Hosted yielder id world) : world.classes.chain id = [id] := by
  simp [ClassTable.chain, ClassTable.chainFrom, hosted.superclass]

theorem Hosted.method?_eq (hosted : Hosted yielder id world) (name : String) (arity : Nat) :
    world.classes.method? id name arity =
      (yielder.decl.methods.find? fun method =>
        method.name == name && method.arity == arity && !method.isAbstract).map (id, ·) := by
  simp [ClassTable.method?, hosted.chain, hosted.decl]

private theorem methods_eq : yielder.decl.methods =
    (if yielder.shape.iterable then [iteratorMethod yielder.decl.name yielder.shape.element] else []) ++ [
      hasNextMethod, nextMethod yielder.shape.element, removeMethod, yielder.getNext, yielder.getErrorHandler] :=
  rfl

/-- What a call has to know of a method that needs an object: its name, and how many arguments it takes. -/
structure Profile (method : Method) (name : String) (arity : Nat) : Prop where
  name : method.name = name
  arity : method.arity = arity
  concrete : method.isAbstract = false
  bound : method.isStatic = false

private theorem public_bound : (Modifiers.ofList [.publicAccess]).has .static = false ∧
    (Modifiers.ofList [.publicAccess]).has .abstract = false := by decide

private theorem private_bound : (Modifiers.ofList [.privateAccess]).has .static = false ∧
    (Modifiers.ofList [.privateAccess]).has .abstract = false := by decide

theorem profile_iterator (name : String) (element : JavaType) :
    Profile (iteratorMethod name element) "iterator" 0 := ⟨rfl, rfl, public_bound.2, public_bound.1⟩

theorem profile_hasNext : Profile hasNextMethod "hasNext" 0 := ⟨rfl, rfl, public_bound.2, public_bound.1⟩

theorem profile_next (element : JavaType) : Profile (nextMethod element) "next" 0 :=
  ⟨rfl, rfl, public_bound.2, public_bound.1⟩

theorem profile_getNext : Profile yielder.getNext "getNext" 0 := ⟨rfl, rfl, private_bound.2, private_bound.1⟩

theorem profile_getErrorHandler : Profile yielder.getErrorHandler "getErrorHandler" 1 :=
  ⟨rfl, rfl, private_bound.2, private_bound.1⟩

/-- The methods of a yielder have names of their own. -/
private theorem nodup_names : (yielder.decl.methods.map (·.name)).Nodup := by
  have names : yielder.decl.methods.map (·.name) =
      (if yielder.shape.iterable then ["iterator"] else []) ++
        ["hasNext", "next", "remove", "getNext", "getErrorHandler"] := by
    rw [methods_eq]
    cases yielder.shape.iterable <;> rfl
  rw [names]
  cases yielder.shape.iterable <;> decide

/-- A call finds the method that has its name. -/
theorem Hosted.method?_of_mem {method : Method} {name : String} {arity : Nat}
    (hosted : Hosted yielder id world) (profile : Profile method name arity)
    (member : method ∈ yielder.decl.methods) :
    world.classes.method? id name arity = some (id, method) := by
  have matching : (method.name == name && method.arity == arity && !method.isAbstract) = true := by
    simp [profile.name, profile.arity, profile.concrete]
  rw [hosted.method?_eq]
  cases found : yielder.decl.methods.find? fun method =>
      method.name == name && method.arity == arity && !method.isAbstract with
  | none => exact absurd matching (List.find?_eq_none.mp found method member)
  | some other =>
    have named : other.name = name := by
      have fits := List.find?_some found
      simp only [Bool.and_eq_true, beq_iff_eq] at fits
      exact fits.1.1
    have same : other = method := List.inj_on_of_nodup_map nodup_names (List.mem_of_find?_eq_some found) member
      (named.trans profile.name.symm)
    simp [same]

theorem mem_hasNext : hasNextMethod ∈ yielder.decl.methods := by simp [methods_eq]

theorem mem_next : nextMethod yielder.shape.element ∈ yielder.decl.methods := by simp [methods_eq]

theorem mem_getNext : yielder.getNext ∈ yielder.decl.methods := by simp [methods_eq]

theorem mem_getErrorHandler : yielder.getErrorHandler ∈ yielder.decl.methods := by simp [methods_eq]

theorem mem_iterator (iterable : yielder.shape.iterable = true) :
    iteratorMethod yielder.decl.name yielder.shape.element ∈ yielder.decl.methods := by
  simp [methods_eq, iterable]

end

section

variable {yielder : Yielder} {id : ClassId} {self : Address} {world : World} {fuel : Nat}

theorem Embodied.atDepth (embodied : Embodied yielder id self world) (depth : Nat) :
    Embodied yielder id self (world.atDepth depth) where
  hosted := embodied.hosted.of_classes rfl
  typed := embodied.typed
  state := embodied.state
  found := embodied.found
  sought := embodied.sought
  element := embodied.element

theorem Embodied.grown (embodied : Embodied yielder id self world) (object : Object) :
    Embodied yielder id self (world.grown object) where
  hosted := embodied.hosted.of_classes rfl
  typed := embodied.typed.imp fun _ typed => ⟨World.instance?_grown_of_some typed.1 object, typed.2⟩
  state := embodied.state.imp fun _ holds => World.field?_grown_of_some _ _ holds object
  found := embodied.found.imp fun _ holds => World.field?_grown_of_some _ _ holds object
  sought := embodied.sought.imp fun _ holds => World.field?_grown_of_some _ _ holds object
  element := embodied.element.imp fun _ holds => World.field?_grown_of_some _ _ holds object

/-- An own field may be assigned, the state with a number of one. -/
theorem Embodied.putField {name : String} {value : Value} (embodied : Embodied yielder id self world)
    (kept : name = stateName → ∃ target, value = .int (yielder.numbering.number target)) :
    Embodied yielder id self (world.putField self name value) := by
  obtain ⟨state, there, typed⟩ := embodied.typed
  have holds {key : String} (before : ∃ held, world.field? self key = some held) :
      ∃ held, (world.putField self name value).field? self key = some held := by
    by_cases same : key = name
    · exact ⟨value, by simp [same, there]⟩
    · exact before.imp fun _ holds => by simp [same, holds]
  refine ⟨embodied.hosted.of_classes (by simp), ?_, ?_, ?_, ?_, ?_⟩
  · exact ⟨{ state with fields := state.fields.put name value }, by simp [there], typed⟩
  · by_cases same : name = stateName
    · obtain ⟨target, rfl⟩ := kept same
      exact ⟨target, by simp [same, there]⟩
    · exact embodied.state.imp fun _ holds => by simp [Ne.symm same, holds]
  · exact holds embodied.found
  · exact holds embodied.sought
  · exact holds embodied.element

/-- A call of one of the methods from inside another is a call on the object. -/
theorem Hosted.outcome_call {frame : Interpreter.Frame} {method : Method} {name : String} {arguments : List Value}
    {state : Instance} (hosted : Hosted yielder id world) (current : frame.self = some self)
    (own : frame.type = id) (there : world.instance? self = some state) (typed : state.type = id)
    (member : method ∈ yielder.decl.methods) (named : name ≠ "this" ∧ name ≠ "super")
    (profile : Profile method name arguments.length) :
    outcome (callUnqualified (performer fuel) name arguments) (frame, world) =
      outcome (liftM (performer fuel (.invoke id method (some self) arguments)) : Code Value) (frame, world) := by
  have plain : (world.classes.get state.type).decl.isEnum = false := by
    rw [typed, hosted.decl]
    rfl
  have found : world.classes.method? state.type name arguments.length = some (id, method) := by
    rw [typed]
    exact hosted.method?_of_mem profile member
  exact outcome_callOwn named current there (own.trans typed.symm) plain found profile.bound

section

variable {frame : Interpreter.Frame} {method : Method} {name : String} {arguments : List Value}
  {result : Except Unwind Value} {after : World} (embodied : Embodied yielder id self world)
  (current : frame.self = some self) (own : frame.type = id) (member : method ∈ yielder.decl.methods)
  (named : name ≠ "this" ∧ name ≠ "super")

include embodied current own member named

/-- A call of one of the methods from inside another. -/
theorem Embodied.outcome_call (profile : Profile method name arguments.length)
    (comes : performer fuel (.invoke id method (some self) arguments) world = (result, after)) :
    outcome (callUnqualified (performer fuel) name arguments) (frame, world) = (result, (frame, after)) := by
  obtain ⟨state, there, typed⟩ := embodied.typed
  rw [embodied.hosted.outcome_call current own there typed member named profile, outcome_liftM, comes]

/-- A call without arguments of one of the methods from inside another. -/
theorem Embodied.outcome_callBare (profile : Profile method name 0)
    (comes : performer fuel (.invoke id method (some self) []) world = (result, after)) :
    outcome (eval (performer fuel) (.callOwn name [])) (frame, world) = (result, (frame, after)) := by
  have called : outcome (callUnqualified (performer fuel) name []) (frame, world) = (result, (frame, after)) :=
    embodied.outcome_call current own member named profile comes
  rw [← called]
  simp [Expression.callOwn, eval_callOwn, evalAll_nil]

end

/-- Setting one of the flags. -/
theorem outcome_mark {frame : Interpreter.Frame} {name : String} {flag : Bool} (bare : frame.Bare id self)
    (simple : Text.split '.' name = [name]) (declared : ∃ held, world.field? self name = some held) :
    outcome (exec (.ofPerformer (performer fuel)) fuel none (assignName name (.bool flag))) (frame, world) =
      (.ok .normal, (frame, world.putField self name (.bool flag))) := by
  obtain ⟨held, holds⟩ := declared
  have literal : outcome (eval (performer fuel) (.bool flag)) (frame, world) =
      (.ok (.bool flag), (frame, world)) := outcome_evalLiteral _ (.bool flag) _
  rw [assignName, outcome_storeOwn bare.self (bare.locals _) simple holds literal, conform_bool]

/-- The code that looks for the next element unless that was done before. -/
def lookAhead : Statement :=
  .whenever (.not (.name soughtName)) (.block [
    assignName hasNextName (.callOwn "getNext" []), assignName soughtName (.bool true)])

section

variable {frame : Interpreter.Frame} (bare : frame.Bare id self)

include bare

theorem outcome_lookAhead_of_sought (sought : world.field? self soughtName = some (.bool true)) :
    outcome (exec (.ofPerformer (performer fuel)) fuel none lookAhead) (frame, world) =
      (.ok .normal, (frame, world)) := by
  have read : outcome (eval (performer fuel) (.name soughtName)) (frame, world) =
      (.ok (.bool true), (frame, world)) := outcome_evalOwn bare.self (bare.locals _) sought
  exact outcome_whenever_false (outcome_evalNot read)

variable (unsought : world.field? self soughtName = some (.bool false))

include unsought

private theorem outcome_lookAhead :
    outcome (exec (.ofPerformer (performer fuel)) fuel none lookAhead) (frame, world) =
      ((outcome (execAll (.ofPerformer (performer fuel)) fuel [
          assignName hasNextName (.callOwn "getNext" []), assignName soughtName (.bool true)])
          (frame.push, world)).1,
        (outcome (execAll (.ofPerformer (performer fuel)) fuel [
          assignName hasNextName (.callOwn "getNext" []), assignName soughtName (.bool true)])
          (frame.push, world)).2.pop) := by
  have read : outcome (eval (performer fuel) (.name soughtName)) (frame, world) =
      (.ok (.bool false), (frame, world)) := outcome_evalOwn bare.self (bare.locals _) unsought
  rw [lookAhead, outcome_whenever_true (outcome_evalNot read), exec_block, outcome_inScope]
  rfl

variable (embodied : Embodied yielder id self world)

include embodied

theorem outcome_lookAhead_of_unsought {more : Bool} {after : World}
    (looks : performer fuel (yielder.advancing id self) world = (.ok (.bool more), after))
    (still : Embodied yielder id self after) :
    outcome (exec (.ofPerformer (performer fuel)) fuel none lookAhead) (frame, world) =
      (.ok .normal, (frame, (after.putField self hasNextName (.bool more)).putField self soughtName
        (.bool true))) := by
  obtain ⟨found, holdsFound⟩ := embodied.found
  have kept : Embodied yielder id self (after.putField self hasNextName (.bool more)) :=
    still.putField fun same => absurd same (by decide)
  have called : outcome (eval (performer fuel) (.callOwn "getNext" [])) (frame.push, world) =
      (.ok (.bool more), (frame.push, after)) :=
    embodied.outcome_callBare bare.push.self bare.push.type mem_getNext (by decide) profile_getNext looks
  have storedFound : outcome (exec (.ofPerformer (performer fuel)) fuel none
      (assignName hasNextName (.callOwn "getNext" []))) (frame.push, world) =
      (.ok .normal, (frame.push, after.putField self hasNextName (.bool more))) := by
    rw [assignName, outcome_storeOwn bare.push.self (bare.push.locals _) (by decide) holdsFound called,
      conform_bool]
  rw [outcome_lookAhead bare unsought, outcome_execAll_cons, storedFound, andThen_normal,
    outcome_execAll_single, outcome_mark bare.push (by decide) kept.sought]
  rfl

theorem outcome_lookAhead_of_error {unwind : Unwind} {after : World}
    (breaks : performer fuel (yielder.advancing id self) world = (.error unwind, after)) :
    outcome (exec (.ofPerformer (performer fuel)) fuel none lookAhead) (frame, world) =
      (.error unwind, (frame, after)) := by
  obtain ⟨found, holdsFound⟩ := embodied.found
  have called : outcome (eval (performer fuel) (.callOwn "getNext" [])) (frame.push, world) =
      (.error unwind, (frame.push, after)) :=
    embodied.outcome_callBare bare.push.self bare.push.type mem_getNext (by decide) profile_getNext breaks
  have stopped : outcome (exec (.ofPerformer (performer fuel)) fuel none
      (assignName hasNextName (.callOwn "getNext" []))) (frame.push, world) =
      (.error unwind, (frame.push, after)) :=
    outcome_storeOwn_error bare.push.self (bare.push.locals _) (by decide) holdsFound called
  rw [outcome_lookAhead bare unsought, outcome_execAll_cons, stopped]
  rfl

end

section

variable (room : world.depth < depthLimit)

include room

private theorem hasNext_of_lookAhead {more : Bool} {after : World}
    (looks : outcome (exec (.ofPerformer (performer fuel)) fuel none lookAhead)
      (startFrame id hasNextMethod self, world.atDepth (world.depth + 1)) =
        (.ok .normal, (startFrame id hasNextMethod self, after)))
    (found : after.field? self hasNextName = some (.bool more)) :
    performer (fuel + 1) (.invoke id hasNextMethod (some self) []) world =
      (.ok (.bool more), after.atDepth (after.depth - 1)) := by
  have bare := bare_startFrame id hasNextMethod self
  have read : outcome (eval (performer fuel) (.name hasNextName)) (startFrame id hasNextMethod self, after) =
      (.ok (.bool more), (startFrame id hasNextMethod self, after)) :=
    outcome_evalOwn bare.self (bare.locals _) found
  have ends : outcome (execAll (.ofPerformer (performer fuel)) fuel hasNextMethod.body)
      (startFrame id hasNextMethod self, world.atDepth (world.depth + 1)) =
      (.ok (.returns (.bool more)), (startFrame id hasNextMethod self, after)) := by
    rw [show hasNextMethod.body = [lookAhead, .returns (some (.name hasNextName))] from rfl, outcome_execAll_cons,
      looks, andThen_normal, outcome_execAll_single]
    exact outcome_returns read
  rw [performer_invoke_bare profile_hasNext.bound rfl room ends]
  rfl

/-- Once the next element has been looked for, asking for it again changes nothing. -/
theorem hasNext_of_sought {more : Bool} (sought : world.field? self soughtName = some (.bool true))
    (found : world.field? self hasNextName = some (.bool more)) :
    performer (fuel + 1) (.invoke id hasNextMethod (some self) []) world = (.ok (.bool more), world) :=
  hasNext_of_lookAhead room (outcome_lookAhead_of_sought (bare_startFrame _ _ _) sought) found

variable (embodied : Embodied yielder id self world) (unsought : world.field? self soughtName = some (.bool false))

include embodied unsought

/-- The next element is looked for when it is first asked for, and what comes of it is kept. -/
theorem hasNext_of_unsought {more : Bool} {after : World}
    (looks : performer fuel (yielder.advancing id self) (world.atDepth (world.depth + 1)) =
      (.ok (.bool more), after))
    (still : Embodied yielder id self after) :
    performer (fuel + 1) (.invoke id hasNextMethod (some self) []) world =
      (.ok (.bool more), ((after.putField self hasNextName (.bool more)).putField self soughtName
        (.bool true)).atDepth (after.depth - 1)) := by
  obtain ⟨state, there, _⟩ := still.typed
  have deeper : (world.atDepth (world.depth + 1)).field? self soughtName = some (.bool false) := unsought
  have looked := outcome_lookAhead_of_unsought (bare_startFrame id hasNextMethod self) deeper
    (embodied.atDepth _) looks still
  have found : ((after.putField self hasNextName (.bool more)).putField self soughtName (.bool true)).field? self
      hasNextName = some (.bool more) := by
    simp [there, hasNextName, soughtName]
  rw [hasNext_of_lookAhead room looked found]
  simp

/-- What ends the search for the next element ends the call. -/
theorem hasNext_of_error {unwind : Unwind} {after : World}
    (breaks : performer fuel (yielder.advancing id self) (world.atDepth (world.depth + 1)) =
      (.error unwind, after)) :
    performer (fuel + 1) (.invoke id hasNextMethod (some self) []) world =
      (.error unwind, after.atDepth (after.depth - 1)) := by
  have deeper : (world.atDepth (world.depth + 1)).field? self soughtName = some (.bool false) := unsought
  have stopped := outcome_lookAhead_of_error (bare_startFrame id hasNextMethod self) deeper
    (embodied.atDepth _) breaks
  have ends : outcome (execAll (.ofPerformer (performer fuel)) fuel hasNextMethod.body)
      (startFrame id hasNextMethod self, world.atDepth (world.depth + 1)) =
      (.error unwind, (startFrame id hasNextMethod self, after)) := by
    rw [show hasNextMethod.body = [lookAhead, .returns (some (.name hasNextName))] from rfl, outcome_execAll_cons,
      stopped]
    rfl
  rw [performer_invoke_bare profile_hasNext.bound rfl room ends]
  rfl

end

/-- The exception of a call for an element when there is none. -/
def noElement : Object := .throwable { type := "NoSuchElementException" }

/-- The code that ends the call for an element when there is none. -/
def demandElement : Statement :=
  .whenever (.not (.callOwn "hasNext" []))
    (.block [.throws (.make (.named "java.util.NoSuchElementException") [])])

theorem nextMethod_body (element : JavaType) :
    (nextMethod element).body =
      [demandElement, assignName soughtName (.bool false), .returns (some (.name elementName))] := rfl

section

variable {frame : Interpreter.Frame} (bare : frame.Bare id self) (embodied : Embodied yielder id self world)
  {after : World}

include bare embodied

private theorem outcome_callHasNext {result : Except Unwind Value}
    (finds : performer fuel (.invoke id hasNextMethod (some self) []) world = (result, after)) :
    outcome (eval (performer fuel) (.callOwn "hasNext" [])) (frame, world) = (result, (frame, after)) :=
  embodied.outcome_callBare bare.self bare.type mem_hasNext (by decide) profile_hasNext finds

private theorem outcome_demandElement_of_more
    (finds : performer fuel (.invoke id hasNextMethod (some self) []) world = (.ok (.bool true), after)) :
    outcome (exec (.ofPerformer (performer fuel)) fuel none demandElement) (frame, world) =
      (.ok .normal, (frame, after)) :=
  outcome_whenever_false (outcome_evalNot (outcome_callHasNext bare embodied finds))

private theorem outcome_demandElement_of_error {unwind : Unwind}
    (breaks : performer fuel (.invoke id hasNextMethod (some self) []) world = (.error unwind, after)) :
    outcome (exec (.ofPerformer (performer fuel)) fuel none demandElement) (frame, world) =
      (.error unwind, (frame, after)) :=
  outcome_whenever_error (outcome_evalNot_error (outcome_callHasNext bare embodied breaks))

private theorem outcome_demandElement_of_end
    (finds : performer fuel (.invoke id hasNextMethod (some self) []) world = (.ok (.bool false), after))
    (still : Embodied yielder id self after) :
    outcome (exec (.ofPerformer (performer fuel)) fuel none demandElement) (frame, world) =
      (.error (.thrown (.ref after.frontier)), (frame, after.grown noElement)) := by
  have called := outcome_callHasNext bare embodied finds
  have meant : resolveType after.classes frame.push "java.util.NoSuchElementException" =
      some (.library "NoSuchElementException") := by
    rw [bare.push.resolveType]
    exact still.hosted.exhausted
  have made : outcome (eval (performer fuel) (.make (.named "java.util.NoSuchElementException") []))
      (frame.push, after) = (.ok (.ref after.frontier), (frame.push, after.grown noElement)) := by
    have bare : outcome (evalAll (performer fuel) []) (frame.push, after) = (.ok [], (frame.push, after)) :=
      outcome_evalAll_nil _ _
    rw [outcome_makeThrowable bare meant (by decide)]
    rfl
  have thrown : outcome (exec (.ofPerformer (performer fuel)) fuel none
      (.throws (.make (.named "java.util.NoSuchElementException") []))) (Point.push (frame, after)) =
      (.error (.thrown (.ref after.frontier)), (frame.push, after.grown noElement)) := outcome_throws made
  rw [demandElement, outcome_whenever_true (outcome_evalNot called), exec_block, outcome_inScope,
    outcome_execAll_single, thrown]
  rfl

end

section

variable (embodied : Embodied yielder id self world) (room : world.depth < depthLimit) {after : World}

include embodied room

/-- The element that was found is handed out, and the next one is to be looked for. -/
theorem next_of_more {value : Value}
    (finds : performer fuel (.invoke id hasNextMethod (some self) []) (world.atDepth (world.depth + 1)) =
      (.ok (.bool true), after))
    (still : Embodied yielder id self after) (holds : after.field? self elementName = some value) :
    performer (fuel + 1) (.invoke id (nextMethod yielder.shape.element) (some self) []) world =
      (.ok (coerce yielder.shape.element value),
        (after.putField self soughtName (.bool false)).atDepth (after.depth - 1)) := by
  have bare := bare_startFrame id (nextMethod yielder.shape.element) self
  have demanded := outcome_demandElement_of_more bare (embodied.atDepth _) finds
  have read : outcome (eval (performer fuel) (.name elementName))
      (startFrame id (nextMethod yielder.shape.element) self, after.putField self soughtName (.bool false)) =
      (.ok value, (startFrame id (nextMethod yielder.shape.element) self,
        after.putField self soughtName (.bool false))) := by
    refine outcome_evalOwn bare.self (bare.locals _) ?_
    rw [World.field?_putField, if_neg (by simp [elementName, soughtName]), holds]
  have ends : outcome (execAll (.ofPerformer (performer fuel)) fuel (nextMethod yielder.shape.element).body)
      (startFrame id (nextMethod yielder.shape.element) self, world.atDepth (world.depth + 1)) =
      (.ok (.returns value), (startFrame id (nextMethod yielder.shape.element) self,
        after.putField self soughtName (.bool false))) := by
    rw [nextMethod_body, outcome_execAll_cons, demanded, andThen_normal, outcome_execAll_cons,
      outcome_mark bare (by decide) still.sought, andThen_normal, outcome_execAll_single, outcome_returns read]
  rw [performer_invoke_bare (profile_next _).bound rfl room ends, World.depth_putField]
  rfl

/-- Without an element the call ends in an exception. -/
theorem next_of_end
    (finds : performer fuel (.invoke id hasNextMethod (some self) []) (world.atDepth (world.depth + 1)) =
      (.ok (.bool false), after))
    (still : Embodied yielder id self after) :
    performer (fuel + 1) (.invoke id (nextMethod yielder.shape.element) (some self) []) world =
      (.error (.thrown (.ref after.frontier)), (after.grown noElement).atDepth (after.depth - 1)) := by
  have demanded := outcome_demandElement_of_end (bare_startFrame id (nextMethod yielder.shape.element) self)
    (embodied.atDepth _) finds still
  have ends : outcome (execAll (.ofPerformer (performer fuel)) fuel (nextMethod yielder.shape.element).body)
      (startFrame id (nextMethod yielder.shape.element) self, world.atDepth (world.depth + 1)) =
      (.error (.thrown (.ref after.frontier)), (startFrame id (nextMethod yielder.shape.element) self,
        after.grown noElement)) := by
    rw [nextMethod_body, outcome_execAll_cons, demanded]
    rfl
  rw [performer_invoke_bare (profile_next _).bound rfl room ends]
  rfl

/-- What ends the search for the next element ends the call. -/
theorem next_of_error {unwind : Unwind}
    (breaks : performer fuel (.invoke id hasNextMethod (some self) []) (world.atDepth (world.depth + 1)) =
      (.error unwind, after)) :
    performer (fuel + 1) (.invoke id (nextMethod yielder.shape.element) (some self) []) world =
      (.error unwind, after.atDepth (after.depth - 1)) := by
  have demanded := outcome_demandElement_of_error (bare_startFrame id (nextMethod yielder.shape.element) self)
    (embodied.atDepth _) breaks
  have ends : outcome (execAll (.ofPerformer (performer fuel)) fuel (nextMethod yielder.shape.element).body)
      (startFrame id (nextMethod yielder.shape.element) self, world.atDepth (world.depth + 1)) =
      (.error unwind, (startFrame id (nextMethod yielder.shape.element) self, after)) := by
    rw [nextMethod_body, outcome_execAll_cons, demanded]
    rfl
  rw [performer_invoke_bare (profile_next _).bound rfl room ends]
  rfl

end

end

end JavaWeave.Generator
