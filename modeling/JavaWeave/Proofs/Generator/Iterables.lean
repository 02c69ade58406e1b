import JavaWeave.Proofs.Generator.Protocol
import JavaWeave.Proofs.Interpreter.Image

namespace JavaWeave.Generator

open Syntax Interpreter

/-- A field of a new object; one of the same name that is there already hides it. -/
def bear (fields : Bindings Value) (field : Field) : Bindings Value :=
  if fields.has field.name then fields else fields ++ [(field.name, .zero field.type)]

/-- The fields of a new yielder. -/
def Yielder.bornFields (yielder : Yielder) : Bindings Value := (instanceFields yielder.decl).foldl bear []

/-- A new yielder that sees the given objects and variables. -/
def Yielder.newborn (yielder : Yielder) (id : ClassId) (outers : List Address) (captured : Bindings Value) :
    Instance :=
  { type := id, fields := yielder.bornFields, outers, captured }

/-- No variable of the body has the name of a variable that every yielder has. -/
def Yielder.Unreserved (yielder : Yielder) : Prop :=
  ∀ entry ∈ yielder.machine.lifted, entry.1 ∉ [stateName, hasNextName, soughtName, elementName]

section

variable {yielder : Yielder} {id : ClassId} {self : Address} {world : World}

theorem Hosted.initialFields (hosted : Hosted yielder id world) :
    initialFields world.classes id = yielder.bornFields := by
  simp only [Interpreter.initialFields, hosted.chain, List.flatMap_singleton, hosted.decl]
  rfl

private theorem lookup_bear (born : Bindings Value) (field : Field) (name : String) :
    List.lookup name (bear born field) =
      (List.lookup name born).or (if field.name = name then some (.zero field.type) else none) := by
  unfold bear
  split
  · next there =>
    obtain ⟨value, found⟩ := (Bindings.has_iff _ _).mp there
    by_cases same : field.name = name
    · subst same
      simp [found]
    · simp [same]
  · next absent =>
    rw [List.lookup_append, Bindings.lookup_entry]
    by_cases same : field.name = name
    · simp [same]
    · simp [same, Ne.symm same]

/-- A new object has every field of its class, with the value of its first declaration. -/
private theorem lookup_foldl_bear (fields : List Field) (born : Bindings Value) (name : String) :
    List.lookup name (fields.foldl bear born) =
      (List.lookup name born).or ((fields.find? (·.name == name)).map fun field => .zero field.type) := by
  induction fields generalizing born with
  | nil => simp
  | cons field rest ih =>
    rw [List.foldl_cons, ih, lookup_bear, List.find?_cons, Option.or_assoc]
    by_cases same : field.name = name
    · simp [same]
    · have different : (field.name == name) = false := by simpa using same
      simp [same, different]

/-- The fields of a yielder: the variables of the body, the state and what was looked for. -/
private theorem instanceFields_eq :
    instanceFields yielder.decl =
      (yielder.machine.lifted ++ [(stateName, .named "int"), (hasNextName, .named "boolean"),
        (soughtName, .named "boolean"), (elementName, yielder.shape.element)]).map fun entry =>
          { modifiers := .ofList [.privateAccess], type := entry.2, name := entry.1 } := by
  have declared : yielder.decl.fields =
      (yielder.machine.lifted ++ [(stateName, .named "int"), (hasNextName, .named "boolean"),
        (soughtName, .named "boolean"), (elementName, yielder.shape.element)]).map fun entry =>
          { modifiers := .ofList [.privateAccess], type := entry.2, name := entry.1 } := by
    rw [List.map_append]
    rfl
  have bound (entry : String × JavaType) :
      Field.isStatic { modifiers := .ofList [.privateAccess], type := entry.2, name := entry.1 } = false := by
    change (Modifiers.ofList [.privateAccess]).has .static = false
    decide
  rw [instanceFields, declared, List.filter_eq_self]
  intro field member
  obtain ⟨entry, _, rfl⟩ := List.mem_map.mp member
  simp [bound]

private theorem lookup_bornFields (unreserved : yielder.Unreserved) {name : String} {type : JavaType}
    (own : [(stateName, .named "int"), (hasNextName, .named "boolean"), (soughtName, .named "boolean"),
      (elementName, yielder.shape.element)].find? (·.1 == name) = some (name, type)) :
    List.lookup name yielder.bornFields = some (.zero type) := by
  have reserved : name ∈ [stateName, hasNextName, soughtName, elementName] := by
    have member := List.mem_of_find?_eq_some own
    simp at member ⊢
    tauto
  have absent : (yielder.machine.lifted.find? fun entry => entry.1 == name) = none := by
    rw [List.find?_eq_none]
    intro entry member same
    exact unreserved entry member ((beq_iff_eq.mp same) ▸ reserved)
  rw [Yielder.bornFields, lookup_foldl_bear, instanceFields_eq, List.find?_map]
  have named : ((fun field : Field => field.name == name) ∘ fun entry : String × JavaType =>
      { modifiers := .ofList [.privateAccess], type := entry.2, name := entry.1 }) = fun entry => entry.1 == name :=
    rfl
  rw [named, List.find?_append, absent, Option.none_or, own]
  rfl

/-- What the variables of a new yielder hold that every yielder has. -/
theorem Yielder.born (unreserved : yielder.Unreserved) :
    List.lookup stateName yielder.bornFields = some (.int 0) ∧
    List.lookup hasNextName yielder.bornFields = some (.bool false) ∧
    List.lookup soughtName yielder.bornFields = some (.bool false) ∧
    List.lookup elementName yielder.bornFields = some (.zero yielder.shape.element) := by
  refine ⟨?_, ?_, ?_, ?_⟩
  · exact @lookup_bornFields yielder unreserved stateName (.named "int") rfl
  · exact @lookup_bornFields yielder unreserved hasNextName (.named "boolean") rfl
  · exact @lookup_bornFields yielder unreserved soughtName (.named "boolean") rfl
  · exact @lookup_bornFields yielder unreserved elementName yielder.shape.element rfl

/-- A new yielder has a field for each variable of the body, for the state and for the element. -/
theorem Yielder.has_born {name : String}
    (declared : name ∈ yielder.machine.lifted.map (·.1) ++ [stateName, elementName]) :
    yielder.bornFields.has name = true := by
  have there : ∃ field ∈ instanceFields yielder.decl, (field.name == name) = true := by
    rw [instanceFields_eq]
    rcases List.mem_append.mp declared with variable_ | own
    · obtain ⟨entry, inside, rfl⟩ := List.mem_map.mp variable_
      exact ⟨_, List.mem_map.mpr ⟨entry, List.mem_append_left _ inside, rfl⟩, beq_self_eq_true _⟩
    · rcases List.mem_pair.mp own with rfl | rfl
      · exact ⟨_, List.mem_map.mpr ⟨(stateName, .named "int"), by simp, rfl⟩, beq_self_eq_true _⟩
      · exact ⟨_, List.mem_map.mpr ⟨(elementName, yielder.shape.element), by simp, rfl⟩, beq_self_eq_true _⟩
  rw [Bindings.has, Yielder.bornFields, lookup_foldl_bear, List.lookup_nil, Option.none_or, Option.isSome_map]
  exact List.find?_isSome.mpr there

/-- No field of a new yielder holds an object. -/
theorem Yielder.plain_born : ∀ entry ∈ yielder.bornFields, entry.2.ref? = none := by
  unfold Yielder.bornFields
  generalize instanceFields yielder.decl = fields
  have kept (born : Bindings Value) (plain : ∀ entry ∈ born, entry.2.ref? = none) :
      ∀ entry ∈ fields.foldl bear born, entry.2.ref? = none := by
    induction fields generalizing born with
    | nil => exact plain
    | cons field rest ih =>
      refine ih _ ?_
      unfold bear
      split
      · exact plain
      · exact List.forall_mem_append.mpr ⟨plain, List.forall_mem_singleton.mpr (plain_zero field.type)⟩
  exact kept [] (List.forall_mem_nil _)

/-- The number of a state of an iterable is not the one that says that no iterator was handed out yet. -/
theorem Yielder.number_ne_zero (iterable : yielder.shape.iterable = true) (fits : yielder.numbering.Fits)
    (target : Target) : yielder.numbering.number target ≠ 0 := by
  cases target with
  | done =>
    change (-1 : Int32) ≠ 0
    decide
  | state place =>
    by_cases member : place ∈ yielder.numbering.layout
    · obtain ⟨index, found, number⟩ := Numbering.number_of_mem member
      have inside := (List.getElem?_eq_some_iff.mp found).1
      have first : yielder.numbering.first = 1 := by
        change (if yielder.shape.iterable then 1 else 0) = 1
        rw [iterable, if_pos rfl]
      unfold Numbering.Fits at fits
      rw [number, first]
      intro zero
      have values := congrArg Int32.toInt zero
      rw [Int32.toInt_ofNat_of_lt (by omega)] at values
      have nothing : Int32.toInt 0 = 0 := by decide
      omega
    · rw [Numbering.number_of_not_mem member]
      decide

variable {fuel : Nat}

/-- Whether a number that a field holds is a given one. -/
private theorem outcome_isNumber {perform : Performer} {e : Expression} {number : Int32} {point : Point}
    (read : outcome (eval perform e) point = (.ok (.int number), point)) (other : Int32) :
    outcome (eval perform (.binary .eq e (.int other))) point = (.ok (.bool (number == other)), point) := by
  have literal : outcome (eval perform (.int other)) point = (.ok (.int other), point) :=
    outcome_evalLiteral _ (.int other) _
  have compared : operate perform .eq (.int number) (.int other) =
      (pure (.bool (number == other)) : Run Value) := by
    simp [operate, binaryResult, Value.same_int]
  simp only [eval_equals, outcome_bind, read, proceed_ok, literal, compared]
  rfl

/-- The code of the first call: it opens the object and hands it out. -/
def openFirst : Statement :=
  .whenever (.binary .eq (.name stateName) (.int 0)) (.block [
    assignName stateName (.int 1), .returns (some .self)])

theorem iteratorMethod_body (name : String) (element : JavaType) :
    (iteratorMethod name element).body =
      [openFirst, .returns (some (.callOn (.make (.named name) []) "iterator" []))] := rfl

/-- The call of `iterator` on a yielder. -/
def Yielder.iterating (yielder : Yielder) (id : ClassId) (self : Address) : Request :=
  .invoke id (iteratorMethod yielder.decl.name yielder.shape.element) (some self) []

/-- The first call hands out the object itself. -/
theorem iterator_first (room : world.depth < depthLimit) (unopened : world.field? self stateName = some (.int 0)) :
    performer (fuel + 1) (yielder.iterating id self) world =
      (.ok (.ref self), world.putField self stateName (.int 1)) := by
  have bare := bare_startFrame id (iteratorMethod yielder.decl.name yielder.shape.element) self
  generalize frames : startFrame id (iteratorMethod yielder.decl.name yielder.shape.element) self = frame at bare
  have deeper : (world.atDepth (world.depth + 1)).field? self stateName = some (.int 0) := unopened
  have read : outcome (eval (performer fuel) (.name stateName)) (frame, world.atDepth (world.depth + 1)) =
      (.ok (.int 0), (frame, world.atDepth (world.depth + 1))) := outcome_evalOwn bare.self (bare.locals _) deeper
  have literal : outcome (eval (performer fuel) (.int 1)) (frame.push, world.atDepth (world.depth + 1)) =
      (.ok (.int 1), (frame.push, world.atDepth (world.depth + 1))) := outcome_evalLiteral _ (.int 1) _
  have stored : outcome (exec (.ofPerformer (performer fuel)) fuel none (assignName stateName (.int 1)))
      (frame.push, world.atDepth (world.depth + 1)) =
      (.ok .normal, (frame.push, (world.atDepth (world.depth + 1)).putField self stateName (.int 1))) := by
    rw [assignName, outcome_storeOwn bare.push.self (bare.push.locals _) (by decide) deeper literal, conform_int]
  have itself : outcome (eval (performer fuel) .self)
      (frame.push, (world.atDepth (world.depth + 1)).putField self stateName (.int 1)) =
      (.ok (.ref self), (frame.push, (world.atDepth (world.depth + 1)).putField self stateName (.int 1))) := by
    simp [Expression.self, eval_this, currentObject, bare.push.self]
  have opened : outcome (exec (.ofPerformer (performer fuel)) fuel none openFirst)
      (frame, world.atDepth (world.depth + 1)) =
      (.ok (.returns (.ref self)),
        (frame, (world.atDepth (world.depth + 1)).putField self stateName (.int 1))) := by
    have inner : outcome (execAll (.ofPerformer (performer fuel)) fuel [
        assignName stateName (.int 1), .returns (some .self)]) (frame.push, world.atDepth (world.depth + 1)) =
        (.ok (.returns (.ref self)),
          (frame.push, (world.atDepth (world.depth + 1)).putField self stateName (.int 1))) := by
      rw [outcome_execAll_cons, stored, andThen_normal, outcome_execAll_single, outcome_returns itself]
    rw [openFirst, outcome_whenever_true (outcome_isNumber read 0), exec_block, outcome_inScope]
    exact congrArg (fun ending : Except Unwind Flow × Point => (ending.1, ending.2.pop)) inner
  have ends : outcome (execAll (.ofPerformer (performer fuel)) fuel
      (iteratorMethod yielder.decl.name yielder.shape.element).body)
      (startFrame id (iteratorMethod yielder.decl.name yielder.shape.element) self,
        world.atDepth (world.depth + 1)) =
      (.ok (.returns (.ref self)),
        (frame, (world.atDepth (world.depth + 1)).putField self stateName (.int 1))) := by
    rw [frames, iteratorMethod_body, outcome_execAll_cons, opened]
    rfl
  refine (performer_invoke_bare (profile_iterator _ _).bound rfl room ends).trans ?_
  have level : (world.putField self stateName (.int 1)).atDepth world.depth =
      world.putField self stateName (.int 1) := by
    rw [← World.depth_putField world self stateName (.int 1), World.atDepth_depth]
  rw [World.putField_atDepth, World.depth_atDepth, World.atDepth_atDepth, Nat.add_sub_cancel, level, callResult,
    coerce_ref]
  rfl

/-- The class of a yielder is prepared. -/
private theorem prepare_hosted (hosted : Hosted yielder id world) :
    performer (fuel + 1) (.prepare id) world = (.ok (), world) := by
  have begun : ((world.classes.get id).state.stage != .pending) = true := by
    simpa using hosted.prepared
  change prepare (performer fuel) fuel id world = _
  unfold prepare
  change (if (world.classes.get id).state.stage != .pending then _ else _ : Run Unit) world = _
  rw [if_pos begun]
  rfl

private theorem outcome_evalFields {perform : Performer} {fields : List Field}
    (bare : ∀ field ∈ fields, field.initial = none) (assign : String → Value → Run Unit) (point : Point) :
    outcome (evalFields perform fields assign) point = (.ok (), point) := by
  unfold evalFields
  induction fields with
  | nil => rfl
  | cons field rest ih =>
    have here := bare field List.mem_cons_self
    have skipped := ih fun field member => bare field (List.mem_cons_of_mem _ member)
    rw [List.forM.eq_2, outcome_bind]
    simp only [here, outcome_pure, proceed_ok]
    exact skipped

/-- Nothing is run when a yielder is made. -/
private theorem runConstructor_hosted (hosted : Hosted yielder id world) (address : Address) :
    performer (fuel + 1) (.runConstructor id address []) world = (.ok (), world) := by
  have bare : ∀ field ∈ instanceFields yielder.decl, field.initial = none := by
    intro field member
    rw [instanceFields_eq] at member
    obtain ⟨entry, _, rfl⟩ := List.mem_map.mp member
    rfl
  have initialized : initFields (performer fuel) fuel id yielder.decl address world = (.ok (), world) := by
    rw [initFields, within_eq, outcome_bind, outcome_evalFields bare]
    rfl
  have none : yielder.decl.constructors = [] := rfl
  change runConstructor (performer fuel) fuel id address [] world = _
  simp only [runConstructor, run_bind, run_classInfo, hosted.decl, none, List.find?_nil, List.isEmpty_nil, Bool.true_or,
    Bool.and_self, if_true, hosted.superclass, runSuper, run_pure, initialized]

/-- A yielder that another one makes sees what that one sees. -/
private theorem construct_hosted (hosted : Hosted yielder id world) (outers : List Address)
    (captured : Bindings Value) :
    performer (fuel + 2) (.construct id [] { outers, captured }) world =
      (.ok (.ref world.frontier), world.grown (.ofClass (yielder.newborn id outers captured))) := by
  have plain : yielder.decl.isInterface = false := rfl
  have concrete : yielder.decl.modifiers.has .abstract = false := by
    change (Modifiers.mk 0).has .abstract = false
    decide
  have built := @runConstructor_hosted yielder id
    (world.grown (.ofClass (yielder.newborn id outers captured))) fuel (hosted.of_classes rfl) world.frontier
  change construct (performer (fuel + 1)) id [] { outers, captured } world = _
  simp only [construct, run_bind, run_classInfo, hosted.decl, plain, concrete, Bool.or_self, Bool.false_eq_true, if_false,
    prepare_hosted hosted, run_classes, hosted.initialFields, run_allocateAt]
  rw [Yielder.newborn] at built ⊢
  rw [built]
  rfl

/-- A yielder that was handed out, and of which nothing else was asked yet. -/
def Yielder.beginning (yielder : Yielder) (id : ClassId) (outers : List Address) (captured : Bindings Value) :
    Instance :=
  { yielder.newborn id outers captured with fields := yielder.bornFields.put stateName (.int 1) }

/-- The world in which a new yielder was handed out. -/
def Yielder.opened (yielder : Yielder) (id : ClassId) (outers : List Address) (captured : Bindings Value)
    (world : World) : World :=
  (world.grown (.ofClass (yielder.newborn id outers captured))).putField world.frontier stateName (.int 1)

private theorem outcome_renew {frame : Interpreter.Frame} {state : Instance} (bare : frame.Bare id self)
    (hosted : Hosted yielder id world) (simple : Text.split '.' yielder.decl.name = [yielder.decl.name])
    (there : world.instance? self = some state) (typed : state.type = id) :
    outcome (eval (performer (fuel + 2)) (.make (.named yielder.decl.name) [])) (frame, world) =
      (.ok (.ref world.frontier),
        (frame, world.grown (.ofClass (yielder.newborn id state.outers state.captured)))) := by
  have meant : resolveType world.classes frame yielder.decl.name = some (.user id) := by
    rw [bare.resolveType]
    simp [ClassTable.resolve, ClassTable.lexical, ClassTable.resolveWithin, simple, hosted.decl]
  have creation : creationFor world frame id = { outers := state.outers, captured := state.captured } := by
    obtain ⟨others, objects⟩ := currentObjects_self bare.self there
    simp [creationFor, hosted.nesting, bare.types, objects, typed]
  have made : performer (fuel + 2) (.construct id [] (creationFor world frame id)) world = _ :=
    creation ▸ construct_hosted hosted state.outers state.captured
  have named : (JavaType.named yielder.decl.name).name = yielder.decl.name := rfl
  simp only [Expression.make, eval_create, evalAll_nil, outcome_bind, outcome_pure, proceed_ok, create, outcome_frame,
    outcome_world, named, meant, outcome_liftM]
  rw [made]

theorem Yielder.opened_atDepth (yielder : Yielder) (id : ClassId) (outers : List Address)
    (captured : Bindings Value) (world : World) (depth : Nat) :
    yielder.opened id outers captured (world.atDepth depth) =
      (yielder.opened id outers captured world).atDepth depth :=
  World.putField_atDepth (world.grown (.ofClass (yielder.newborn id outers captured))) _ _ _ _

/-- Of a new object the first call of `iterator` gives the object itself. -/
private theorem dispatch_newborn {outers : List Address} {captured : Bindings Value}
    (room : world.depth < depthLimit) (hosted : Hosted yielder id world)
    (iterable : yielder.shape.iterable = true) (unreserved : yielder.Unreserved) :
    dispatch (performer (fuel + 1)) (.ref world.frontier) "iterator" []
      (world.grown (.ofClass (yielder.newborn id outers captured))) =
      (.ok (.ref world.frontier), yielder.opened id outers captured world) := by
  have born := World.instance?_grown_frontier world (yielder.newborn id outers captured)
  have found : (world.grown (.ofClass (yielder.newborn id outers captured))).classes.method?
      (yielder.newborn id outers captured).type "iterator" 0 =
      some (id, iteratorMethod yielder.decl.name yielder.shape.element) :=
    hosted.method?_of_mem (profile_iterator _ _) (mem_iterator iterable)
  have unopened : (world.grown (.ofClass (yielder.newborn id outers captured))).field? world.frontier stateName =
      some (.int 0) := by
    rw [World.field?, born]
    exact (Yielder.born unreserved).1
  exact (dispatch_own born found).trans (iterator_first room unopened)

/-- A later call hands out a new object, which sees what this one sees. -/
theorem iterator_later {state : Instance} {number : Int32} (room : world.depth + 2 ≤ depthLimit)
    (hosted : Hosted yielder id world) (iterable : yielder.shape.iterable = true)
    (unreserved : yielder.Unreserved) (simple : Text.split '.' yielder.decl.name = [yielder.decl.name])
    (there : world.instance? self = some state) (typed : state.type = id)
    (holds : world.field? self stateName = some (.int number)) (begun : number ≠ 0) :
    performer (fuel + 3) (yielder.iterating id self) world =
      (.ok (.ref world.frontier), yielder.opened id state.outers state.captured world) := by
  have bare := bare_startFrame id (iteratorMethod yielder.decl.name yielder.shape.element) self
  generalize frames : startFrame id (iteratorMethod yielder.decl.name yielder.shape.element) self = frame at bare
  have inside : Hosted yielder id (world.atDepth (world.depth + 1)) := hosted.of_classes rfl
  have read : outcome (eval (performer (fuel + 2)) (.name stateName)) (frame, world.atDepth (world.depth + 1)) =
      (.ok (.int number), (frame, world.atDepth (world.depth + 1))) :=
    outcome_evalOwn bare.self (bare.locals _) holds
  have skipped : outcome (exec (.ofPerformer (performer (fuel + 2))) (fuel + 2) none openFirst)
      (frame, world.atDepth (world.depth + 1)) = (.ok .normal, (frame, world.atDepth (world.depth + 1))) := by
    have other : (number == 0) = false := by simpa using begun
    have tested := outcome_isNumber read 0
    rw [other] at tested
    rw [openFirst, outcome_whenever_false tested]
  have made : outcome (eval (performer (fuel + 2)) (.make (.named yielder.decl.name) []))
      (frame, world.atDepth (world.depth + 1)) = _ := outcome_renew bare inside simple there typed
  have renewed : dispatch (performer (fuel + 2)) (.ref world.frontier) "iterator" []
      ((world.atDepth (world.depth + 1)).grown (.ofClass (yielder.newborn id state.outers state.captured))) =
      (.ok (.ref world.frontier),
        (yielder.opened id state.outers state.captured world).atDepth (world.depth + 1)) := by
    rw [← yielder.opened_atDepth]
    exact dispatch_newborn (by simp; omega) inside iterable unreserved
  have ends : outcome (execAll (.ofPerformer (performer (fuel + 2))) (fuel + 2)
      (iteratorMethod yielder.decl.name yielder.shape.element).body)
      (startFrame id (iteratorMethod yielder.decl.name yielder.shape.element) self,
        world.atDepth (world.depth + 1)) =
      (.ok (.returns (.ref world.frontier)),
        (frame, (yielder.opened id state.outers state.captured world).atDepth (world.depth + 1))) := by
    rw [frames, iteratorMethod_body, outcome_execAll_cons, skipped, andThen_normal, outcome_execAll_single]
    exact outcome_returns (outcome_callOnMade made renewed)
  refine (performer_invoke_bare (profile_iterator _ _).bound rfl (by omega) ends).trans ?_
  rw [callResult, coerce_ref, World.depth_atDepth, World.atDepth_atDepth, Nat.add_sub_cancel,
    ← yielder.opened_atDepth, World.atDepth_depth]
  rfl

end

end JavaWeave.Generator
