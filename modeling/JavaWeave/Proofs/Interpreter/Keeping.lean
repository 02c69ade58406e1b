import JavaWeave.Interpreter.Perform
import JavaWeave.Proofs.Interpreter.Self

/-! What the small steps of a running program leave alone. A relation between worlds that tolerates them holds
from the beginning to the end of everything that is put together of them. -/

namespace JavaWeave.Interpreter

open Syntax

/-- What an object of a class of the program stays: one of its class, and the constant that it is. -/
def Object.identity : Object → Option (ClassId × Option (String × Int32))
  | .ofClass state => some (state.type, state.constant)
  | _ => none

/-- A relation between worlds that holds whatever is printed, put on the heap and assigned. -/
class Tolerant (kept : World → World → Prop) : Prop where
  refl (world : World) : kept world world
  trans {before middle after : World} : kept before middle → kept middle after → kept before after
  grown (world : World) (object : Object) (plain : object.identity = none) : kept world (world.grown object)
  stored {world : World} {address : Address} {old : Object} (there : world.heap.get? address = some old)
    (new : Object) (same : new.identity = old.identity) :
    kept world { world with heap := world.heap.set address new }
  printed (world : World) (text : String) : kept world { world with output := world.output ++ text }
  assigned (world : World) (owner : ClassId) (name : String) (value : Value) :
    kept world { world with
      classes := world.classes.modifyState owner fun state =>
        { state with statics := state.statics.put name value } }
  entered (world : World) (decl : TypeDecl) (outer : ClassId) (base : Option JavaType) :
    kept world { world with classes := (world.classes.nested decl outer base).2 }

/-- Steps that start in a world keep the relation to it. -/
def Keeps (kept : World → World → Prop) (action : Run α) (world : World) : Prop := kept world (action world).2

section

variable {kept : World → World → Prop} [Tolerant kept] {world : World}

namespace Keeps

omit [Tolerant kept] in
/-- What is kept up to where steps ended. -/
theorem reached {action : Run α} {after : World} {result : Except Unwind α} (keeps : Keeps kept action world)
    (ended : action world = (result, after)) : kept world after := by
  unfold Keeps at keeps
  rwa [ended] at keeps

theorem pure (value : α) : Keeps kept (pure value : Run α) world := Tolerant.refl world

theorem throw (unwind : Unwind) : Keeps kept (throw unwind : Run α) world := Tolerant.refl world

theorem bind {action : Run α} {rest : α → Run β} (first : Keeps kept action world)
    (next : ∀ value after, action world = (.ok value, after) → Keeps kept (rest value) after) :
    Keeps kept (action >>= rest) world := by
  unfold Keeps at first ⊢
  rw [run_bind]
  generalize ended : action world = ending at first
  obtain ⟨unwind | value, after⟩ := ending
  · exact first
  · exact Tolerant.trans first (next value after ended)

theorem map {action : Run α} (f : α → β) (first : Keeps kept action world) : Keeps kept (f <$> action) world := by
  rw [map_eq_pure_bind]
  exact first.bind fun value _ _ => pure (f value)

theorem tryCatch {action : Run α} {handler : Unwind → Run α} (first : Keeps kept action world)
    (handles : ∀ unwind after, Keeps kept (handler unwind) after) : Keeps kept (tryCatch action handler) world := by
  unfold Keeps at first ⊢
  change kept world ((ExceptT.tryCatch action handler) world).2
  simp only [ExceptT.tryCatch, ExceptT.mk, Bind.bind, StateT.bind]
  generalize action world = ending at first
  obtain ⟨unwind | value, after⟩ := ending
  · exact Tolerant.trans first (handles unwind after)
  · exact first

theorem mapM {action : α → Run β} {items : List α}
    (each : ∀ item ∈ items, ∀ world, Keeps kept (action item) world) : Keeps kept (items.mapM action) world := by
  induction items generalizing world with
  | nil => exact pure []
  | cons item rest inductionHypothesis =>
    rw [List.mapM_cons]
    refine (each item List.mem_cons_self world).bind fun value after _ => ?_
    refine (inductionHypothesis fun other member => each other (List.mem_cons_of_mem item member)).bind ?_
    exact fun values _ _ => pure (value :: values)

theorem forM {action : α → Run Unit} {items : List α} (each : ∀ item world, Keeps kept (action item) world) :
    Keeps kept (items.forM action) world := by
  induction items generalizing world with
  | nil => exact pure ()
  | cons item rest inductionHypothesis => exact (each item world).bind fun _ _ _ => inductionHypothesis

theorem foldlM {action : β → α → Run β} {items : List α}
    (each : ∀ start item world, Keeps kept (action start item) world) (start : β) :
    Keeps kept (items.foldlM action start) world := by
  induction items generalizing start world with
  | nil => exact pure start
  | cons item rest inductionHypothesis =>
    rw [List.foldlM_cons]
    exact (each start item world).bind fun value after _ => inductionHypothesis value

omit [Tolerant kept] in
theorem getD {found : Option (Run α)} {fallback : Run α}
    (given : ∀ action, found = some action → Keeps kept action world) (otherwise : Keeps kept fallback world) :
    Keeps kept (found.getD fallback) world := by
  cases found with
  | some action => exact given action rfl
  | none => exact otherwise

omit [Tolerant kept] in
/-- Reading the heap leaves everything as it is, so the rest starts in the same world. -/
theorem heapBind {rest : Heap → Run β} (next : Keeps kept (rest world.heap) world) :
    Keeps kept (heap >>= rest) world := next

end Keeps

theorem keeps_heap : Keeps kept heap world := Tolerant.refl world

theorem keeps_classes : Keeps kept classes world := Tolerant.refl world

theorem keeps_get : Keeps kept (get : Run World) world := Tolerant.refl world

theorem keeps_classInfo (id : ClassId) : Keeps kept (classInfo id) world := Tolerant.refl world

theorem keeps_allocate {object : Object} (plain : object.identity = none) : Keeps kept (allocate object) world :=
  Tolerant.grown world object plain

theorem keeps_store {address : Address} {old : Object} (there : world.heap.get? address = some old) (new : Object)
    (same : new.identity = old.identity) : Keeps kept (store address new) world :=
  Tolerant.stored there new same

theorem keeps_storeThen {address : Address} {old : Object} (there : world.heap.get? address = some old) (new : Object)
    (same : new.identity = old.identity) (answer : α) :
    Keeps kept (do store address new; return answer) world :=
  (keeps_store there new same).bind fun _ _ _ => .pure answer

theorem keeps_print (text : String) : Keeps kept (print text) world := Tolerant.printed world text

theorem keeps_fail (fault : Fault) : Keeps kept (fail fault : Run α) world := .throw _

theorem keeps_unsupported (limit : Limit) : Keeps kept (unsupported limit : Run α) world := .throw _

theorem keeps_mismatch (expected : String) (found : Value) : Keeps kept (mismatch expected found : Run α) world :=
  keeps_heap.bind fun _ _ _ => keeps_fail _

theorem keeps_unknownMethod (owner name : String) (arity : Nat) :
    Keeps kept (unknownMethod owner name arity : Run α) world := .throw _

theorem keeps_raise (type : String) (message : Option String) (cause : Value) :
    Keeps kept (raise type message cause : Run α) world :=
  (keeps_allocate rfl).bind fun _ _ _ => .throw _

theorem keeps_raiseWith (type message : String) : Keeps kept (raiseWith type message : Run α) world :=
  keeps_raise ..

theorem keeps_raiseBare (type : String) : Keeps kept (raiseBare type : Run α) world := keeps_raise ..

/-- What is needed of a value is read off it. -/
theorem keeps_needed (expected : String) (found : Value) (view : Value → Option α) :
    Keeps kept (needed expected found view) world := by
  unfold needed
  split
  · exact .pure _
  · exact keeps_mismatch ..

theorem keeps_modifyInstance (address : Address) (change : Instance → Instance)
    (same : ∀ state, (change state).type = state.type ∧ (change state).constant = state.constant) :
    Keeps kept (modifyInstance address change) world := by
  unfold modifyInstance
  refine .heapBind ?_
  split
  · next state there =>
    refine keeps_store there _ ?_
    simp [Object.identity, same state]
  · exact .pure _

/-! What the library offers. -/

namespace Keeps

/-- What is needed of a value is read off it, so the rest starts in the same world. -/
theorem neededBind {expected : String} {found : Value} {view : Value → Option α} {rest : α → Run β}
    (next : ∀ value, Keeps kept (rest value) world) : Keeps kept (needed expected found view >>= rest) world := by
  unfold needed
  split
  · exact next _
  · exact (keeps_mismatch ..).bind fun _ _ ended => nomatch ended

end Keeps

theorem keeps_position (index : Int32) (length : Nat) : Keeps kept (position index length) world := by
  unfold position
  split
  · exact .pure _
  · exact keeps_raiseWith ..

/-- A position that is there is found in the same world. -/
theorem Keeps.positionBind {index : Int32} {length : Nat} {rest : Nat → Run β}
    (next : ∀ place, Keeps kept (rest place) world) : Keeps kept (position index length >>= rest) world := by
  unfold position
  split
  · exact next _
  · exact (keeps_raiseWith ..).bind fun _ _ ended => nomatch ended

theorem keeps_substring (text : String) (start stop : Int32) : Keeps kept (substring text start stop) world := by
  simp only [substring]
  split
  · exact keeps_raiseWith ..
  · exact .pure _

theorem keeps_callText (text name : String) (arguments : List Value) :
    Keeps kept (callText text name arguments) world := by
  unfold callText
  split
  case h_11 => exact .neededBind fun _ => (keeps_position ..).bind fun _ _ _ => .pure _
  case h_12 => exact .neededBind fun _ => keeps_substring ..
  case h_13 => exact .neededBind fun _ => .neededBind fun _ => keeps_substring ..
  case h_14 =>
    split
    · exact .neededBind fun _ => .pure _
    · exact keeps_unknownMethod ..
  case h_15 => exact keeps_unknownMethod ..
  all_goals exact .pure _

theorem keeps_callBoxed (value : Value) (name : String) (arguments : List Value) :
    Keeps kept (callBoxed value name arguments) world := by
  unfold callBoxed
  refine .heapBind ?_
  split
  case h_8 => exact keeps_unknownMethod ..
  all_goals exact .pure _

section

variable {address : Address}

theorem keeps_callList {items : List Value} (there : world.heap.get? address = some (.list items)) (name : String)
    (arguments : List Value) : Keeps kept (callList address items name arguments) world := by
  have become (items : List Value) (answer : Value) :
      Keeps kept (do store address (.list items); return answer) world :=
    keeps_storeThen there (.list items) rfl answer
  unfold callList
  split
  case h_1 => exact become ..
  case h_2 =>
    refine .neededBind fun place => ?_
    split
    · exact become ..
    · exact keeps_raiseWith ..
  case h_3 => exact .heapBind (.neededBind fun incoming => become ..)
  case h_4 => exact .neededBind fun _ => .positionBind fun _ => .pure _
  case h_5 => exact .neededBind fun _ => .positionBind fun _ => become ..
  case h_6 =>
    split
    · exact .positionBind fun _ => become ..
    · split
      · exact become ..
      · exact .pure _
  case h_9 => exact become ..
  case h_12 => exact keeps_allocate rfl
  case h_13 => exact keeps_allocate rfl
  case h_14 => exact keeps_unknownMethod ..
  all_goals exact .pure _

theorem keeps_callMap {entries : List (Value × Value)} (there : world.heap.get? address = some (.map entries))
    (name : String) (arguments : List Value) : Keeps kept (callMap address entries name arguments) world := by
  have become (entries : List (Value × Value)) (answer : Value) :
      Keeps kept (do store address (.map entries); return answer) world :=
    keeps_storeThen there (.map entries) rfl answer
  unfold callMap
  split
  case h_1 => exact become ..
  case h_5 => exact become ..
  case h_6 => exact .heapBind (become ..)
  case h_9 => exact become ..
  case h_10 => exact keeps_allocate rfl
  case h_11 => exact keeps_allocate rfl
  case h_12 => exact keeps_unknownMethod ..
  all_goals exact .pure _

theorem keeps_callIterator {items : List Value} {place : Nat}
    (there : world.heap.get? address = some (.iterator items place)) (name : String) (arguments : List Value) :
    Keeps kept (callIterator address items place name arguments) world := by
  unfold callIterator
  split
  · exact .pure _
  · split
    · exact keeps_storeThen there (.iterator items (place + 1)) rfl _
    · exact keeps_raiseBare ..
  · exact keeps_raiseWith ..
  · exact keeps_unknownMethod ..

theorem keeps_callLock {state : LockState} (there : world.heap.get? address = some (.lock state)) (name : String)
    (arguments : List Value) : Keeps kept (callLock address state name arguments) world := by
  have become (state : LockState) (answer : Value) :
      Keeps kept (do store address (.lock state); return answer) world :=
    keeps_storeThen there (.lock state) rfl answer
  unfold callLock
  split
  · exact become ..
  · exact become ..
  · exact become ..
  · split
    · exact become ..
    · exact keeps_raiseBare ..
  · exact .pure _
  · exact .pure _
  · exact keeps_allocate rfl
  · exact keeps_unknownMethod ..

theorem keeps_callCondition {state : ConditionState} (there : world.heap.get? address = some (.condition state))
    (name : String) (arguments : List Value) : Keeps kept (callCondition address state name arguments) world := by
  have signalled : Keeps kept
      (do store address (.condition { state with signals := state.signals + 1 }); return Value.null) world :=
    keeps_storeThen there (.condition { state with signals := state.signals + 1 }) rfl Value.null
  unfold callCondition
  split
  · exact (keeps_store there (.condition { state with awaits := state.awaits + 1 }) rfl).bind fun _ _ _ =>
      keeps_fail _
  · exact signalled
  · exact signalled
  · exact keeps_unknownMethod ..

theorem keeps_callObject {object : Object} (there : world.heap.get? address = some object) (name : String)
    (arguments : List Value) : Keeps kept (callObject address object name arguments) world := by
  unfold callObject
  split
  case h_1 => exact keeps_callList there ..
  case h_2 => exact keeps_callMap there ..
  case h_3 => exact keeps_callIterator there ..
  case h_4 => exact keeps_callLock there ..
  case h_5 => exact keeps_callCondition there ..
  case h_6 => exact keeps_allocate rfl
  case h_16 => exact keeps_unknownMethod ..
  all_goals exact .pure _

end

theorem keeps_libraryField {type name : String} {read : Run Value} (known : Library.field? type name = some read) :
    Keeps kept read world := by
  unfold Library.field? at known
  split at known <;> cases known
  case h_1 => exact keeps_allocate rfl
  case h_2 => exact keeps_allocate rfl
  all_goals exact .pure _

theorem keeps_parseInt (text : String) : Keeps kept (Library.parseInt text) world := by
  unfold Library.parseInt
  split
  · exact .pure _
  · exact keeps_raiseWith ..

theorem keeps_libraryMethod {type name : String} {arguments : List Value} {call : Run Value}
    (known : Library.method? type name arguments = some call) : Keeps kept call world := by
  unfold Library.method? at known
  split at known
  case h_3 =>
    obtain ⟨value, _, rfl⟩ := Option.map_eq_some_iff.mp known
    exact .pure _
  case h_4 => cases known; exact keeps_parseInt _
  case h_5 => cases known; exact keeps_parseInt _
  case h_6 => cases known; exact keeps_allocate rfl
  case h_7 => cases known; exact keeps_allocate rfl
  case h_8 =>
    split at known
    · cases known
      exact .pure _
    · cases known
  case h_9 =>
    cases known
    refine .heapBind ?_
    split <;> exact keeps_allocate rfl
  case h_10 => cases known; exact keeps_allocate rfl
  case h_14 => cases known; exact keeps_allocate rfl
  case h_17 =>
    split at known
    · cases known
      exact .pure _
    · cases known
  case h_18 => cases known
  all_goals
    cases known
    exact .pure _

theorem keeps_libraryConstruct {type : String} {arguments : List Value} {make : Run Value}
    (known : Library.construct? type arguments = some make) : Keeps kept make world := by
  unfold Library.construct? at known
  split at known <;> cases known
  case h_1 | h_2 | h_3 | h_4 => exact .heapBind (keeps_allocate rfl)
  case h_10 =>
    exact (keeps_allocate rfl).bind fun _ _ _ => (keeps_allocate rfl).bind fun _ _ _ => keeps_allocate rfl
  all_goals exact keeps_allocate rfl

theorem keeps_makeArray (leaf : Value) (sizes : List Nat) : Keeps kept (makeArray leaf sizes) world := by
  induction sizes generalizing world with
  | nil => exact .pure _
  | cons size rest inductionHypothesis =>
    exact (Keeps.mapM fun _ _ world => inductionHypothesis).bind fun _ _ _ => keeps_allocate rfl

theorem keeps_arraySize (value : Value) : Keeps kept (arraySize value) world := by
  refine (keeps_needed ..).bind fun size after _ => ?_
  split
  · exact (keeps_raiseWith ..).bind fun _ _ _ => .pure _
  · exact .pure _

theorem keeps_elementPlace (array index : Value) : Keeps kept (elementPlace array index) world := by
  refine (keeps_needed ..).bind fun index after _ => ?_
  split
  · exact keeps_raiseBare ..
  · refine keeps_heap.bind fun heap after _ => ?_
    split
    · split
      · exact .pure _
      · exact keeps_raiseWith ..
    · exact keeps_mismatch ..
  · exact keeps_mismatch ..

theorem keeps_operateOne (op : UnaryOp) (operand : Value) : Keeps kept (operateOne op operand) world := by
  unfold operateOne
  split
  · exact .pure _
  · exact keeps_heap.bind fun _ _ _ => keeps_unsupported _

theorem keeps_setField (object : Address) (name : String) (value : Value) :
    Keeps kept (setField object name value) world :=
  keeps_modifyInstance object _ fun _ => ⟨rfl, rfl⟩

theorem keeps_setStatic (owner : ClassId) (name : String) (value : Value) :
    Keeps kept (setStatic owner name value) world :=
  Tolerant.assigned world owner name value

/-! Calls and fields, given how requests are answered. -/

/-- Ordinary code asks for no object that is a constant. -/
def Request.Ordinary : Request → Prop
  | .construct _ _ creation => creation.constant = none
  | _ => True

/-- Answering ordinary requests keeps a relation between worlds. -/
def Performer.Keeps (kept : World → World → Prop) (perform : Performer) : Prop :=
  ∀ request : Request, request.Ordinary → ∀ world, Interpreter.Keeps kept (perform request) world

section

variable {perform : Performer} (answers : perform.Keeps kept)

include answers

theorem keeps_instanceText (address : Address) (state : Instance) :
    Keeps kept (instanceText perform address state) world := by
  unfold instanceText
  refine keeps_classes.bind fun classes after _ => ?_
  split
  · refine (answers (.invoke _ _ _ _) trivial after).bind fun value after _ => ?_
    split
    · exact .pure _
    · exact answers (.text _) trivial after
  · split <;> exact .pure _

theorem keeps_textOf (value : Value) : Keeps kept (textOf perform value) world := by
  have text (value : Value) (world : World) : Keeps kept (perform (.text value)) world :=
    answers (.text value) trivial world
  unfold textOf
  split
  case h_8 =>
    refine keeps_heap.bind fun heap after _ => ?_
    split
    · exact keeps_instanceText answers ..
    · exact (Keeps.mapM fun item _ => text item).bind fun _ _ _ => .pure _
    · exact (Keeps.mapM fun item _ => text item).bind fun _ _ _ => .pure _
    · refine (Keeps.mapM fun item _ world => ?_).bind fun _ _ _ => .pure _
      exact (text item.1 world).bind fun _ after _ => (text item.2 after).bind fun _ _ _ => .pure _
    all_goals exact .pure _
  all_goals exact .pure _

theorem keeps_throwableState (type : String) (arguments : List Value) :
    Keeps kept (throwableState perform type arguments) world := by
  unfold throwableState
  split
  case h_4 => exact (answers (.text _) trivial world).bind fun _ _ _ => .pure _
  case h_6 => exact keeps_fail _
  all_goals exact .pure _

theorem keeps_staticField (id : ClassId) (name : String) : Keeps kept (staticField perform id name) world := by
  unfold staticField
  refine keeps_classes.bind fun classes after _ => ?_
  split
  · exact (answers (.prepare _) trivial after).bind fun _ _ _ => (keeps_classInfo _).bind fun _ _ _ => .pure _
  · exact (keeps_classInfo _).bind fun _ _ _ => keeps_fail _

theorem keeps_staticMember (type : ClassRef) (name : String) :
    Keeps kept (staticMember perform type name) world := by
  unfold staticMember
  split
  · exact keeps_staticField answers ..
  · exact .getD (fun _ known => keeps_libraryField known) (keeps_fail _)

theorem keeps_fieldOf (target : Value) (name : String) : Keeps kept (fieldOf perform target name) world := by
  unfold fieldOf
  extract_lets rest
  have continues (value : PUnit) (world : World) : Keeps kept (rest value) world := by
    refine keeps_heap.bind fun heap after _ => ?_
    split
    · split
      · exact .pure _
      · exact keeps_staticField answers ..
    · split
      · exact .pure _
      · exact keeps_fail _
    · exact keeps_fail _
  split
  · exact (keeps_raiseWith ..).bind fun value after _ => continues value after
  · exact continues () world

theorem keeps_enumMethod {info : ClassInfo} {id : ClassId} {name : String} {arguments : List Value}
    {answer : Run Value} (known : enumMethod? perform info id name arguments = some answer) :
    Keeps kept answer world := by
  unfold enumMethod? at known
  split at known
  · cases known
  · split at known
    · cases known
      refine (answers (.prepare id) trivial world).bind fun _ _ _ => (keeps_classInfo id).bind fun _ _ _ => ?_
      exact keeps_allocate rfl
    · cases known
      refine (answers (.prepare id) trivial world).bind fun _ _ _ => keeps_heap.bind fun _ _ _ => ?_
      refine (keeps_classInfo id).bind fun _ _ _ => ?_
      split
      · exact .pure _
      · exact keeps_raiseWith ..
    · cases known

theorem keeps_invokeStatic (id : ClassId) (name : String) (arguments : List Value) :
    Keeps kept (invokeStatic perform id name arguments) world := by
  unfold invokeStatic
  refine (keeps_classInfo id).bind fun info after _ => ?_
  split
  · next known => exact keeps_enumMethod answers known
  · refine keeps_classes.bind fun classes after _ => ?_
    split
    · exact answers (.invoke _ _ _ _) trivial after
    · exact keeps_unknownMethod ..

theorem keeps_callInherited (address : Address) (state : Instance) (name : String) (arguments : List Value) :
    Keeps kept (callInherited perform address state name arguments) world := by
  unfold callInherited
  split
  case h_1 => exact (answers (.text _) trivial world).bind fun _ _ _ => .pure _
  case h_6 => exact keeps_heap.bind fun _ _ _ => .pure _
  case h_10 => exact (keeps_classInfo _).bind fun _ _ _ => keeps_unknownMethod ..
  all_goals exact .pure _

theorem keeps_printed (arguments : List Value) (ending : String) :
    Keeps kept (callLibraryObject.printed perform arguments ending) world := by
  unfold callLibraryObject.printed
  split
  · exact (answers (.text _) trivial world).bind fun _ _ _ => (keeps_print _).bind fun _ _ _ => .pure _
  · exact (keeps_print _).bind fun _ _ _ => .pure _

theorem keeps_callLibraryObject {address : Address} {object : Object}
    (there : world.heap.get? address = some object) (name : String) (arguments : List Value) :
    Keeps kept (callLibraryObject perform address object name arguments) world := by
  unfold callLibraryObject
  split
  · exact keeps_printed answers ..
  · exact keeps_printed answers ..
  · exact (answers (.text _) trivial world).bind fun _ _ _ => .pure _
  · exact .pure _
  · exact .pure _
  · exact keeps_callObject there ..

theorem keeps_dispatch (receiver : Value) (name : String) (arguments : List Value) :
    Keeps kept (dispatch perform receiver name arguments) world := by
  unfold dispatch
  split
  · exact keeps_raiseWith ..
  · exact keeps_callText ..
  · refine .heapBind ?_
    split
    · refine keeps_classes.bind fun classes after _ => ?_
      split
      · exact answers (.invoke _ _ _ _) trivial after
      · exact keeps_callInherited answers ..
    · next there => exact keeps_callLibraryObject answers there ..
    · exact keeps_unknownMethod ..
  · split
    · exact (answers (.text _) trivial world).bind fun _ _ _ => .pure _
    · exact keeps_callBoxed ..

theorem keeps_privileged (action : Value) : Keeps kept (privileged perform action) world := by
  unfold privileged
  refine (keeps_dispatch answers ..).tryCatch fun unwind after => ?_
  split
  · refine keeps_get.bind fun world after _ => ?_
    split
    · exact (answers (.text _) trivial after).bind fun _ _ _ => keeps_raise ..
    · exact .throw _
  · exact .throw _

theorem keeps_formatted (template : Value) (values : List Value) :
    Keeps kept (formatted perform template values) world := by
  unfold formatted
  refine (keeps_needed ..).bind fun template after _ => ?_
  refine (Keeps.mapM fun value _ world => answers (.text value) trivial world).bind fun texts after _ => ?_
  split
  · exact .pure _
  · exact keeps_raiseWith ..

theorem keeps_callLibrary (type name : String) (arguments : List Value) :
    Keeps kept (callLibrary perform type name arguments) world := by
  have text (value : Value) : Keeps kept (do return .str (← perform (.text value)) : Run Value) world :=
    (answers (.text value) trivial world).bind fun _ _ _ => .pure _
  have task (task : Value) :
      Keeps kept (do discard (dispatch perform task "run" []); return .null : Run Value) world :=
    ((keeps_dispatch answers ..).map _).bind fun _ _ _ => .pure _
  unfold callLibrary
  split
  case h_8 => exact keeps_formatted answers ..
  case h_13 => exact keeps_privileged answers _
  case h_14 =>
    exact .getD (fun _ known => keeps_libraryMethod known) (keeps_unknownMethod ..)
  case h_9 | h_10 | h_11 | h_12 => exact task _
  all_goals exact text _

theorem keeps_operate (op : BinaryOp) (left right : Value) :
    Keeps kept (operate perform op left right) world := by
  unfold operate
  split
  · refine (answers (.text left) trivial world).bind fun front after _ => ?_
    exact (answers (.text right) trivial after).bind fun _ _ _ => .pure _
  · split
    · exact .pure _
    · exact keeps_raiseWith ..
    · exact keeps_heap.bind fun _ _ _ => keeps_unsupported _

theorem keeps_callOn (receiver : Receiver) (name : String) (arguments : List Value) :
    Keeps kept (callOn perform receiver name arguments) world := by
  unfold callOn
  split
  · exact keeps_invokeStatic answers ..
  · exact keeps_callLibrary answers ..
  · exact keeps_dispatch answers ..

theorem keeps_fieldOn (receiver : Receiver) (name : String) :
    Keeps kept (fieldOn perform receiver name) world := by
  unfold fieldOn
  split
  · exact keeps_staticMember answers ..
  · exact keeps_fieldOf answers ..

theorem keeps_staticPlace (id : ClassId) (name : String) : Keeps kept (staticPlace perform id name) world := by
  unfold staticPlace
  refine keeps_classes.bind fun classes after _ => ?_
  split
  · exact (answers (.prepare _) trivial after).bind fun _ _ _ => .pure _
  · exact (keeps_classInfo _).bind fun _ _ _ => keeps_fail _

theorem keeps_memberPlace (receiver : Receiver) (name : String) :
    Keeps kept (memberPlace perform receiver name) world := by
  unfold memberPlace
  split
  · exact keeps_staticPlace answers ..
  · exact keeps_unsupported _
  · refine keeps_heap.bind fun heap after _ => ?_
    split
    · split
      · exact .pure _
      · exact keeps_staticPlace answers ..
    · exact keeps_heap.bind fun _ _ _ => keeps_fail _
  · exact keeps_raiseWith ..
  · exact keeps_mismatch ..

theorem keeps_readFields (start : Value) (names : List String) :
    Keeps kept (readFields perform start names) world :=
  .foldlM (fun start name _ => keeps_fieldOf answers start name) start

end

end

end JavaWeave.Interpreter
