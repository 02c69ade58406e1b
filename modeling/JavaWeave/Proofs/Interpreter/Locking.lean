import JavaWeave.Handler.ConditionLock
import JavaWeave.Proofs.Interpreter.Answering
import JavaWeave.Proofs.Interpreter.Making

namespace JavaWeave.Interpreter

open Syntax Weave

section

variable {perform : Performer} {world : World} {address : Address}

theorem dispatch_lock {state : LockState} (there : world.heap.get? address = some (.lock state)) :
    dispatch perform (.ref address) "lock" [] world =
      (.ok .null, world.stored address (.lock state.acquire)) := by
  simp only [dispatch, run_bind, run_heap, there]
  rfl

theorem dispatch_unlock {state : LockState} (there : world.heap.get? address = some (.lock state))
    (held : 0 < state.held) :
    dispatch perform (.ref address) "unlock" [] world =
      (.ok .null, world.stored address (.lock { state with released := state.released + 1 })) := by
  have called : dispatch perform (.ref address) "unlock" [] world = callLock address state "unlock" [] world := by
    simp only [dispatch, run_bind, run_heap, there]
    rfl
  have release : state.release? = some { state with released := state.released + 1 } := if_neg (by omega)
  rw [called]
  simp only [callLock, release]
  rfl

theorem dispatch_signal {state : ConditionState} (there : world.heap.get? address = some (.condition state)) :
    dispatch perform (.ref address) "signal" [] world =
      (.ok .null, world.stored address (.condition { state with signals := state.signals + 1 })) := by
  simp only [dispatch, run_bind, run_heap, there]
  rfl

theorem dispatch_readLock {read write : Value} (there : world.heap.get? address = some (.readWriteLock read write)) :
    dispatch perform (.ref address) "readLock" [] world = (.ok read, world) := by
  simp only [dispatch, run_bind, run_heap, there]
  rfl

theorem dispatch_writeLock {read write : Value} (there : world.heap.get? address = some (.readWriteLock read write)) :
    dispatch perform (.ref address) "writeLock" [] world = (.ok write, world) := by
  simp only [dispatch, run_bind, run_heap, there]
  rfl

end

/-- The lock that is taken when a field holds a value. -/
inductive TakesLock (heap : Heap) : LockKind → Value → Address → Prop
  | exclusive (lock : Address) : TakesLock heap .exclusive (.ref lock) lock
  | read {both lock : Address} {write : Value} (there : heap.get? both = some (.readWriteLock (.ref lock) write)) :
    TakesLock heap .read (.ref both) lock
  | write {both lock : Address} {read : Value} (there : heap.get? both = some (.readWriteLock read (.ref lock))) :
    TakesLock heap .write (.ref both) lock

/-- How code reads the members of its class: what they hold can be told from the world, and does not change with the
objects of the library. -/
structure Sees (perform : Performer) (owner : String) (isStatic : Bool) (member : World → String → Value → Prop)
    (frame : Frame) : Prop where
  evaluates : ∀ {world : World} {name : String} {value : Value}, member world name value →
    outcome (eval perform (LockPlan.memberField owner isStatic name)) (frame, world) = (.ok value, (frame, world))
  stored : ∀ {world : World} {address : Address} {old new : Object}, world.heap.get? address = some old →
    old.instance? = none → new.instance? = none → ∀ {name value}, member world name value →
      member (world.stored address new) name value

/-- The lock of a plan is at an address. -/
structure HoldsLock (member : World → String → Value → Prop) (plan : LockPlan) (world : World) (lock : Address)
    (state : LockState) : Prop where
  leads : ∃ holder, member world plan.lock holder ∧ TakesLock world.heap plan.kind holder lock
  there : world.heap.get? lock = some (.lock state)

/-- A condition is at an address. -/
structure HoldsCondition (member : World → String → Value → Prop) (world : World) (name : String) (condition : Address)
    (state : ConditionState) : Prop where
  leads : member world name (.ref condition)
  there : world.heap.get? condition = some (.condition state)

section

variable {perform : Performer} {owner : String} {isStatic : Bool} {member : World → String → Value → Prop}
  {frame : Frame} {plan : LockPlan} {world : World} {lock : Address} {state : LockState}

theorem outcome_lockExpression (sees : Sees perform owner isStatic member frame)
    (holds : HoldsLock member plan world lock state) :
    outcome (eval perform (plan.lockExpression owner isStatic)) (frame, world) =
      (.ok (.ref lock), (frame, world)) := by
  obtain ⟨holder, held, leads⟩ := holds.leads
  have evaluates := sees.evaluates held
  have unnamed (name : String) : (LockPlan.memberField owner isStatic name).asName? = none := rfl
  unfold LockPlan.lockExpression
  generalize plan.kind = kind at leads
  cases leads with
  | exclusive => exact evaluates
  | read there => exact outcome_callOnValue (unnamed _) evaluates (dispatch_readLock there)
  | write there => exact outcome_callOnValue (unnamed _) evaluates (dispatch_writeLock there)

/-- Another object that is no lock may be exchanged. -/
theorem HoldsLock.stored (sees : Sees perform owner isStatic member frame)
    (holds : HoldsLock member plan world lock state) {address : Address} {old new : ConditionState}
    (there : world.heap.get? address = some (.condition old)) :
    HoldsLock member plan (world.stored address (.condition new)) lock state := by
  obtain ⟨⟨holder, held, leads⟩, locked⟩ := holds
  have kept {other : Address} {object : Object} (found : world.heap.get? other = some object)
      (distinct : ∀ state, object ≠ .condition state) :
      (world.stored address (.condition new)).heap.get? other = some object := by
    rw [World.get?_stored there, if_neg, found]
    rintro rfl
    exact distinct old (Option.some.inj (found.symm.trans there))
  refine ⟨⟨holder, sees.stored there rfl rfl held, ?_⟩, kept locked nofun⟩
  generalize plan.kind = kind at leads
  cases leads with
  | exclusive => exact .exclusive _
  | read found => exact .read (kept found nofun)
  | write found => exact .write (kept found nofun)

/-- A condition is signalled, if there is one to be signalled. -/
inductive Signals (member : World → String → Value → Prop) (world : World) : Option String → World → Prop
  | none : Signals member world none world
  | some {name : String} {condition : Address} {state : ConditionState}
    (holds : HoldsCondition member world name condition state) :
    Signals member world (some name)
      (world.stored condition (.condition { state with signals := state.signals + 1 }))

theorem HoldsLock.signals (sees : Sees perform owner isStatic member frame)
    (holds : HoldsLock member plan world lock state) {signal : Option String} {after : World}
    (signals : Signals member world signal after) :
    HoldsLock member plan after lock state := by
  cases signals with
  | none => exact holds
  | some condition => exact holds.stored sees condition.there

variable (fuel : Nat)

theorem outcome_callStatement {e : Expression} {name : String} {value : Value} {after : World}
    (unnamed : e.asName? = none) (evaluates : outcome (eval perform e) (frame, world) = (.ok value, (frame, world)))
    (answered : dispatch perform value name [] world = (.ok .null, after)) :
    outcome (exec (.ofPerformer perform) fuel none (.callOn e name [])) (frame, world) =
      (.ok .normal, (frame, after)) := by
  have called := outcome_callOnValue unnamed evaluates answered
  simp only [Statement.callOn, exec_expression, Meaning.ofPerformer, outcome_bind, outcome_discard, called, proceed_ok,
    outcome_pure]

theorem outcome_signals (sees : Sees perform owner isStatic member frame) {signal : Option String} {after : World}
    (signals : Signals member world signal after) :
    outcome (execAll (.ofPerformer perform) fuel (signal.toList.map fun signal =>
      Statement.callOn (LockPlan.memberField owner isStatic signal) "signal" [])) (frame, world) =
      (.ok .normal, (frame, after)) := by
  cases signals with
  | none => simp
  | some holds =>
    simp only [Option.toList_some, List.map_cons, List.map_nil, outcome_execAll_single]
    exact outcome_callStatement fuel rfl (sees.evaluates holds.leads) (dispatch_signal holds.there)

theorem unnamed_lockExpression : (plan.lockExpression owner isStatic).asName? = none := by
  unfold LockPlan.lockExpression
  cases plan.kind <;> rfl

theorem outcome_lock (sees : Sees perform owner isStatic member frame)
    (holds : HoldsLock member plan world lock state) :
    outcome (exec (.ofPerformer perform) fuel none (.callOn (plan.lockExpression owner isStatic) "lock" []))
      (frame, world) = (.ok .normal, (frame, world.stored lock (.lock state.acquire))) :=
  outcome_callStatement fuel unnamed_lockExpression (outcome_lockExpression sees holds) (dispatch_lock holds.there)

theorem outcome_unlock (sees : Sees perform owner isStatic member frame)
    (holds : HoldsLock member plan world lock state) (held : 0 < state.held) :
    outcome (exec (.ofPerformer perform) fuel none (.callOn (plan.lockExpression owner isStatic) "unlock" []))
      (frame, world) =
      (.ok .normal, (frame, world.stored lock (.lock { state with released := state.released + 1 }))) :=
  outcome_callStatement fuel unnamed_lockExpression (outcome_lockExpression sees holds)
    (dispatch_unlock holds.there held)

omit fuel in
/-- A finalizer that ends normally leaves it to the body how both end. -/
theorem outcome_ensuring {body finalizer : Code Flow} {ending : Except Unwind Flow} {point between after : Point}
    (ended : outcome body point = (ending, between)) (lasting : ending ≠ .error .outOfFuel)
    (finishes : outcome finalizer between = (.ok .normal, after)) :
    outcome (ensuring body finalizer) point = (ending, after) := by
  simp only [ensuring, outcome_bind, outcome_attempt, ended, proceed_ok]
  rcases ending with (thrown | fault | _) | flow
  · simp [finishes]
  · simp [finishes]
  · exact absurd rfl lasting
  · simp [finishes]

/-- However the guarded code ends, the lock that was taken for it is given back, after the condition was signalled, and
it ends as it would without the lock. -/
theorem outcome_guardedBody {body : List Statement} {ending : Except Unwind Flow} {frame' : Frame}
    {world' after : World} {state' : LockState} (sees : Sees perform owner isStatic member frame)
    (holds : HoldsLock member plan world lock state)
    (runs : outcome (exec (.ofPerformer perform) fuel none
      (.block (plan.await.toList.map (LockPlan.awaitStatement owner isStatic) ++ body)))
      (frame, world.stored lock (.lock state.acquire)) = (ending, (frame', world')))
    (lasting : ending ≠ .error .outOfFuel) (sees' : Sees perform owner isStatic member frame'.push)
    (holds' : HoldsLock member plan world' lock state') (held : 0 < state'.held)
    (signals : Signals member world' plan.signal after) :
    outcome (execAll (.ofPerformer perform) fuel (plan.guardedBody owner isStatic body)) (frame, world) =
      (ending, (frame', after.stored lock (.lock { state' with released := state'.released + 1 }))) := by
  have handles : outcome (guarded (inScope (execAll (.ofPerformer perform) fuel
      (plan.await.toList.map (LockPlan.awaitStatement owner isStatic) ++ body)))
      fun thrown => execCatches (.ofPerformer perform) fuel thrown [])
      (frame, world.stored lock (.lock state.acquire)) = (ending, (frame', world')) := by
    rw [exec_block] at runs
    rw [outcome_guarded, runs]
    rcases ending with (thrown | fault | _) | flow
    · simp [execCatches_nil]
    all_goals rfl
  have finishes : outcome (inScope (execAll (.ofPerformer perform) fuel
      (plan.signal.toList.map (fun signal => .callOn (LockPlan.memberField owner isStatic signal) "signal" []) ++
        [.callOn (plan.lockExpression owner isStatic) "unlock" []]))) (frame', world') =
      (.ok .normal, (frame', after.stored lock (.lock { state' with released := state'.released + 1 }))) := by
    rw [outcome_inScope, Point.push, outcome_execAll_append, outcome_signals fuel sees' signals, andThen_normal,
      outcome_execAll_single, outcome_unlock fuel sees' (holds'.signals sees' signals) held]
    rfl
  rw [LockPlan.guardedBody, outcome_execAll_cons, outcome_lock fuel sees holds, andThen_normal, outcome_execAll_single]
  rw [exec_tryCatch_some]
  exact outcome_ensuring handles lasting finishes

end

section

variable {perform : Performer} {owner : String} {frame : Frame}

/-- A field of an object holds a value. -/
def HoldsOwn (self : Address) (world : World) (name : String) (value : Value) : Prop :=
  world.field? self name = some value

/-- Code of an object sees its fields, whatever variables are called. -/
theorem sees_self {self : Address} (current : frame.self = some self) :
    Sees perform owner false (HoldsOwn self) frame where
  evaluates {world name value} held := by
    obtain ⟨state, there, found⟩ := World.exists_instance held
    have object : world.heap.object? (.ref self) = some (.ofClass state) := World.instance?_eq_some.mp there
    have received : outcome (asReceiver perform .self (eval perform .self)) (frame, world) =
        (.ok (.value (.ref self)), (frame, world)) := by
      change outcome (Receiver.value <$> eval perform (.this none)) (frame, world) = _
      simp only [eval_this, currentObject, outcome_map, outcome_bind, outcome_frame, proceed_ok, current, outcome_pure]
    have given : fieldOn perform (.value (.ref self)) name world = (.ok value, world) := by
      simp only [fieldOn, fieldOf, Value.isNull, Bool.false_eq_true, if_false, run_bind, run_heap, object, found]
      rfl
    change outcome (eval perform (.field .self name)) (frame, world) = _
    simp only [eval_field, outcome_bind, received, proceed_ok, outcome_liftM, given]
  stored there foreign foreign' _ _ held := (World.field?_stored there foreign foreign' _ _).trans held

/-- A static field of a class that was begun holds a value, and code of a class finds that class by its name. -/
structure HoldsStatic (type id : ClassId) (owner : String) (world : World) (name : String) (value : Value) : Prop where
  unobscured : (world.classes.lexical type).findSome? (fun id => world.classes.staticOwner? id owner) = none
  resolves : world.classes.resolve (some type) owner = some (.user id)
  declares : world.classes.staticOwner? id name = some id
  begun : (world.classes.get id).state.stage ≠ .pending
  held : (world.classes.get id).state.statics.lookup name = some value

/-- Code that names a class sees its static fields unless a variable or a type inside of the code is called so. -/
theorem sees_type {id : ClassId} (simple : Text.split '.' owner = [owner])
    (prepared : ∀ id world, (world.classes.get id).state.stage ≠ .pending →
      perform (.prepare id) world = (.ok (), world))
    (outside : frame.self = none) (free : frame.get? owner = none) (free' : frame.type? owner = none) :
    Sees perform owner true (HoldsStatic frame.type id owner) frame where
  evaluates {world name value} holds := by
    have unbound : outcome (lookup perform owner) (frame, world) = (.ok none, (frame, world)) :=
      outcome_lookupStatic_none outside free holds.unobscured
    have meant : resolveType world.classes frame owner = some (.user id) :=
      (resolveType_simple world.classes free' simple).trans holds.resolves
    have received : outcome (asReceiver perform (.name owner) (eval perform (.name owner))) (frame, world) =
        (.ok (.type (.user id)), (frame, world)) :=
      outcome_receiverType (by rw [simple, List.headD_cons, unbound]) meant
    have given : fieldOn perform (.type (.user id)) name world = (.ok value, world) := by
      simp only [fieldOn, staticMember, staticField, run_bind, run_classes, holds.declares,
        prepared id world holds.begun, run_classInfo, holds.held]
      rfl
    change outcome (eval perform (.field (.name owner) name)) (frame, world) = _
    rw [eval_field, outcome_bind, received, proceed_ok, outcome_liftM, given]
  stored _ _ _ _ _ holds := ⟨holds.unobscured, holds.resolves, holds.declares, holds.begun, holds.held⟩

end

namespace Frame

theorem get?_eq_none_iff (frame : Frame) (name : String) :
    frame.get? name = none ↔ ∀ declared ∈ frame.names, name ∉ declared.1 := by
  simp only [get?, names, List.findSome?_eq_none_iff, List.forall_mem_map, List.lookup_eq_none_iff]
  grind

theorem type?_eq_none_iff (frame : Frame) (name : String) :
    frame.type? name = none ↔ ∀ declared ∈ frame.names, name ∉ declared.2 := by
  simp only [type?, names, List.findSome?_eq_none_iff, List.forall_mem_map, List.lookup_eq_none_iff]
  grind

/-- Names that are free before a block are free after it. -/
theorem Follows.free {before after : Frame} (follows : before.Follows 0 after) {name : String}
    (free : before.get? name = none) (free' : before.type? name = none) :
    after.push.get? name = none ∧ after.push.type? name = none := by
  have names : after.names = before.names := follows.names
  rw [get?_eq_none_iff, ← names, ← get?_eq_none_iff] at free
  rw [type?_eq_none_iff, ← names, ← type?_eq_none_iff] at free'
  exact ⟨free, free'⟩

end Frame

/-- Whatever a performer does, a block leaves the frame as it was but for the values of variables. -/
theorem block_follows {perform : Performer} {fuel : Nat} {body : List Statement} {point : Point}
    {ending : Except Unwind Flow} {frame' : Frame} {world' : World}
    (runs : outcome (exec (.ofPerformer perform) fuel none (.block body)) point = (ending, (frame', world'))) :
    point.1.Follows 0 frame' := by
  have moves := (exec_moves (.anyWorld perform) fuel none point (.block body)).frame
  rwa [runs] at moves

theorem LockState.held_release {state after : LockState} (sound : state.released ≤ state.acquired)
    (level : after.held = state.acquire.held) :
    0 < after.held ∧ LockState.held { after with released := after.released + 1 } = state.held := by
  simp only [LockState.held, LockState.acquire] at level ⊢
  omega

section

variable {perform : Performer} {plan : LockPlan} {body : List Statement} {fuel : Nat} {ending : Except Unwind Flow}
  {frame frame' : Frame} {world world' after : World} {lock : Address} {state state' : LockState}

/-- The lock of an object is balanced in a method of the object: however the guarded code ends, it ends as it would
without the lock, which is held as often as before. -/
theorem lock_balanced {self : Address} (owner : String) (current : frame.self = some self)
    (holds : HoldsLock (HoldsOwn self) plan world lock state)
    (sound : state.released ≤ state.acquired)
    (runs : outcome (exec (.ofPerformer perform) fuel none
      (.block (plan.await.toList.map (LockPlan.awaitStatement owner false) ++ body)))
      (frame, world.stored lock (.lock state.acquire)) = (ending, (frame', world')))
    (lasting : ending ≠ .error .outOfFuel)
    (holds' : HoldsLock (HoldsOwn self) plan world' lock state')
    (level : state'.held = state.acquire.held)
    (signals : Signals (HoldsOwn self) world' plan.signal after) :
    let final : LockState := { state' with released := state'.released + 1 }
    final.held = state.held ∧
      outcome (execAll (.ofPerformer perform) fuel (plan.guardedBody owner false body)) (frame, world) =
        (ending, (frame', after.stored lock (.lock final))) := by
  obtain ⟨held, balanced⟩ := LockState.held_release sound level
  have current' : frame'.push.self = some self := (block_follows runs).self.trans current
  exact ⟨balanced,
    outcome_guardedBody fuel (sees_self current) holds runs lasting (sees_self current') holds' held signals⟩

/-- The lock of a class is balanced in a static method, in which nothing is called as the class is. -/
theorem lock_balanced_static (patience : Nat) {id : ClassId} {owner : String}
    (simple : Text.split '.' owner = [owner]) (outside : frame.self = none)
    (free : frame.get? owner = none) (free' : frame.type? owner = none)
    (holds : HoldsLock (HoldsStatic frame.type id owner) plan world lock state)
    (sound : state.released ≤ state.acquired)
    (runs : outcome (exec (.ofPerformer (performer (patience + 1))) fuel none
      (.block (plan.await.toList.map (LockPlan.awaitStatement owner true) ++ body)))
      (frame, world.stored lock (.lock state.acquire)) = (ending, (frame', world')))
    (lasting : ending ≠ .error .outOfFuel)
    (holds' : HoldsLock (HoldsStatic frame.type id owner) plan world' lock state')
    (level : state'.held = state.acquire.held)
    (signals : Signals (HoldsStatic frame.type id owner) world' plan.signal after) :
    let final : LockState := { state' with released := state'.released + 1 }
    final.held = state.held ∧
      outcome (execAll (.ofPerformer (performer (patience + 1))) fuel (plan.guardedBody owner true body))
        (frame, world) = (ending, (frame', after.stored lock (.lock final))) := by
  obtain ⟨held, balanced⟩ := LockState.held_release sound level
  have follows := block_follows runs
  have type : frame'.push.type = frame.type := follows.type
  obtain ⟨unbound, undeclared⟩ := follows.free free free'
  have sees : Sees (performer (patience + 1)) owner true (HoldsStatic frame.type id owner) frame :=
    sees_type simple (fun _ _ => prepare_begun) outside free free'
  have sees' : Sees (performer (patience + 1)) owner true (HoldsStatic frame'.push.type id owner) frame'.push :=
    sees_type simple (fun _ _ => prepare_begun) (follows.self.trans outside) unbound undeclared
  rw [type] at sees'
  exact ⟨balanced, outcome_guardedBody fuel sees holds runs lasting sees' holds' held signals⟩

end

end JavaWeave.Interpreter
