import JavaWeave.Proofs.Generator.Iterators

namespace JavaWeave.Generator

open Syntax Interpreter

/-- A generator that yields one number. -/
def seven : Yielder where
  owner := { name := "G" }
  method := {
    name := "seven"
    returnType := (JavaType.named "Iterable").apply [.named "Integer"]
    body := [.expression (.callOwn "yield" [.int 7])] }
  shape := { element := .named "Integer", iterable := true }
  optimize := true

namespace seven

theorem fits : seven.numbering.Fits := by
  unfold Numbering.Fits
  decide

theorem iterable : seven.Iterable := ⟨rfl, fits, fun _ member => absurd member List.not_mem_nil, by decide⟩

theorem stateGroups_eq : stateGroups seven.machine seven.numbering seven.machine.layout =
    [⟨some (.int 1), [assignName elementName (.int 7), assignName stateName (.int (-1)),
      .returns (some (.bool true))]⟩] := rfl

variable {id : ClassId} {address : Address} {world after : World}

/-- The world when the number was found. -/
def yielded (address : Address) (held : Value) (world : World) : World :=
  (world.putField address elementName (conform false held (.int 7))).putField address stateName (.int (-1))

private theorem outcome_code {fuel : Nat} {frame : Interpreter.Frame} {held : Value} (bare : frame.Bare id address)
    (state : world.field? address stateName = some (.int 1))
    (element : world.field? address elementName = some held) :
    outcome (execAll (.ofPerformer (performer fuel)) fuel [assignName elementName (.int 7),
      assignName stateName (.int (-1)), .returns (some (.bool true))]) (frame, world) =
      (.ok (.returns (.bool true)), (frame, yielded address held world)) := by
  have number : outcome (eval (performer fuel) (.int 7)) (frame, world) = (.ok (.int 7), (frame, world)) :=
    outcome_evalLiteral _ (.int 7) _
  have still : (world.putField address elementName (conform false held (.int 7))).field? address stateName =
      some (.int 1) := by
    rw [World.field?_putField, if_neg fun same => absurd same.2 (by decide), state]
  rw [outcome_execAll_cons, assignName, outcome_storeOwn bare.self (bare.locals _) (by decide) element number,
    andThen_normal, yielded]
  generalize world.putField address elementName (conform false held (.int 7)) = middle at still
  have ended : outcome (eval (performer fuel) (.int (-1))) (frame, middle) = (.ok (.int (-1)), (frame, middle)) :=
    outcome_evalLiteral _ (.int (-1)) _
  rw [outcome_execAll_cons, assignName, outcome_storeOwn bare.self (bare.locals _) (by decide) still ended,
    andThen_normal, conform_int, outcome_execAll_single]
  exact outcome_returns (outcome_evalLiteral _ (.bool true) _)

theorem yielded_atDepth (held : Value) (depth : Nat) :
    yielded address held (world.atDepth depth) = (yielded address held world).atDepth depth := by
  rw [yielded, yielded, World.putField_atDepth, World.putField_atDepth]

/-- At the first state the number is found. -/
theorem comes_of_first {held : Value} (room : world.depth < depthLimit)
    (state : world.field? address stateName = some (.int 1))
    (element : world.field? address elementName = some held) :
    Comes (seven.advancing id address) world (.ok (.bool true)) (yielded address held world) := by
  have bare := (bare_startFrame id seven.getNext address).push.push.push.push
  have returns : Ends [stateSwitch seven.machine seven.numbering] (loopFrame seven id address).push.push
      (world.atDepth (world.depth + 1)) (.ok (.returns (.bool true)))
      ((yielded address held world).atDepth (world.depth + 1)) := by
    refine ⟨0, fun fuel _ => ?_⟩
    have selected : outcome ((Meaning.ofPerformer (performer fuel)).eval (.name stateName))
        ((loopFrame seven id address).push.push, world.atDepth (world.depth + 1)) =
        (.ok (.int 1), ((loopFrame seven id address).push.push, world.atDepth (world.depth + 1))) :=
      outcome_evalOwn rfl rfl state
    have runs : outcome (execAll (.ofPerformer (performer fuel)) fuel [assignName elementName (.int 7),
        assignName stateName (.int (-1)), .returns (some (.bool true))])
        (Point.push ((loopFrame seven id address).push.push, world.atDepth (world.depth + 1))) = _ :=
      outcome_code bare state element
    rw [outcome_execAll_single, show stateSwitch seven.machine seven.numbering = .switch (.name stateName)
        (stateGroups seven.machine seven.numbering seven.machine.layout ++ [endGroup]) from rfl,
      outcome_numberSwitch (ofPerformer_readsNumbers _) (isNumbered_stateGroups _ _ _) selected,
      findIdx_stateGroups, stateGroups_eq,
      show seven.machine.layout.findIdx (fun place => seven.numbering.number (.state place) == 1) = 0 from rfl]
    simp only [outcome_inScope, List.cons_append, outcome_execCases_cons]
    rw [runs, yielded_atDepth]
    rfl
  have comes := GoesOn.comes room (.stay _) returns
  rwa [World.depth_atDepth, World.atDepth_atDepth, Nat.add_sub_cancel, ← yielded_atDepth, World.atDepth_depth]
    at comes

theorem field?_yielded {held : Value} (there : ∃ state, world.instance? address = some state) (name : String) :
    (yielded address held world).field? address name =
      if name = stateName then some (.int (-1))
      else if name = elementName then some (conform false held (.int 7)) else world.field? address name := by
  obtain ⟨state, there⟩ := there
  by_cases ended : name = stateName
  · simp [yielded, ended, there]
  · by_cases found : name = elementName <;> simp [yielded, ended, found, there]

theorem embodied_yielded {held : Value} (embodied : Embodied seven id address world) :
    Embodied seven id address (yielded address held world) :=
  (embodied.putField fun same => absurd same (by decide)).putField fun _ => ⟨.done, rfl⟩

theorem finds_first {held : Value} (embodied : Embodied seven id address world)
    (room : world.depth + 2 ≤ depthLimit) (state : world.field? address stateName = some (.int 1))
    (element : world.field? address elementName = some held) :
    Finds seven id address world .element (yielded address held world) := by
  refine .element (comes_of_first (by omega) state element) ⟨by simp [yielded], ?_⟩ (embodied_yielded embodied)
  rw [field?_yielded (embodied.typed.imp fun _ typed => typed.1)]
  rfl

theorem finds_last (embodied : Embodied seven id address world) (room : world.depth + 2 ≤ depthLimit)
    (state : world.field? address stateName = some (.int (-1))) : Finds seven id address world .finished world :=
  .finished (getNext_at_end fits (by omega) state) ⟨rfl, rfl⟩ embodied

/-- The elements. -/
def sequence : Sequence := { element := fun count => if count = 0 then some (.int 7) else none, fails := false }

theorem own_of_flag {name : String} (flagged : name = hasNextName ∨ name = soughtName) :
    name ≠ stateName ∧ name ≠ elementName := by
  rcases flagged with rfl | rfl <;> decide

/-- The positions in the sequence. -/
def Stays (id : ClassId) (address : Address) (count : Nat) (world : World) : Prop :=
  Embodied seven id address world ∧
    (count = 0 ∧ world.field? address stateName = some (.int 1) ∧ world.field? address elementName = some .null ∨
      count = 1 ∧ world.field? address stateName = some (.int (-1)) ∧ world.field? address elementName = some (.int 7))

theorem Stays.unmarked {count : Nat} {name : String} (flag : Bool)
    (flagged : name = hasNextName ∨ name = soughtName) (stays : Stays id address count world) :
    Stays id address count (world.putField address name (.bool flag)) := by
  obtain ⟨embodied, stays⟩ := stays
  obtain ⟨state, element⟩ := own_of_flag flagged
  refine ⟨embodied.putField fun same => absurd same state, ?_⟩
  simpa [state.symm, element.symm] using stays

theorem Stays.finds {count : Nat} (stays : Stays id address count world) (room : world.depth + 2 ≤ depthLimit) :
    ∃ after, Finds seven id address world (sequence.finding count) after ∧
      ∀ value, sequence.element count = some value → Stays id address (count + 1) after := by
  obtain ⟨embodied, ⟨rfl, state, element⟩ | ⟨rfl, state, -⟩⟩ := stays
  · have there := embodied.typed.imp fun _ typed => typed.1
    refine ⟨_, finds_first embodied room state element, fun _ _ => ⟨embodied_yielded embodied, Or.inr ⟨rfl, ?_, ?_⟩⟩⟩
    · rw [field?_yielded there, if_pos rfl]
    · rw [field?_yielded there, if_neg (by decide), if_pos rfl]
      rfl
  · exact ⟨world, finds_last embodied room state, fun _ none => by cases none⟩

/-- Each yielder is a source of the one number. -/
def source (id : ClassId) (address : Address) : Source seven id address sequence fun _ => Eq where
  At := Stays id address
  margin := 2
  deep := Nat.le_refl 2
  embodied stays := stays.1
  level depth stays := ⟨stays.1.atDepth depth, stays.2⟩
  unmarked := Stays.unmarked
  finds := Stays.finds
  held stays there := by
    obtain ⟨_, ⟨last, _⟩ | ⟨last, _, element⟩⟩ := stays
    · cases last
    · cases last
      cases there
      exact ⟨_, element, rfl⟩

/-- The body touches no variable at all. -/
def confined : Confined seven where
  objects := []
  exceptions := []
  plain := List.forall_mem_nil _
  inside := rfl

/-- A program that has called the generator once. -/
def start : World where
  classes := { infos := #[
    { decl := seven.owner, qualifiedName := "G", nesting := .topLevel },
    { decl := seven.decl, qualifiedName := "G$$YielderSeven", nesting := .inCode, enclosing := [⟨0⟩],
      state := { stage := .done } }] }
  heap := ⟨#[.ofClass (seven.newborn ⟨1⟩ [] [])]⟩

theorem hosted : Hosted seven ⟨1⟩ start := ⟨rfl, rfl, rfl, by decide, rfl, rfl⟩

/-- The yielder that the call has given, once it is handed out as an iterator, stands at the beginning. -/
theorem begins : (source ⟨1⟩ ⟨0⟩).At 0 (start.putField ⟨0⟩ stateName (.int 1)) :=
  have embodied : Embodied seven ⟨1⟩ ⟨0⟩ (start.putField ⟨0⟩ stateName (.int 1)) :=
    ⟨hosted.of_classes (World.classes_putField _ _ _ _), ⟨_, rfl, rfl⟩, ⟨.state 0, rfl⟩, ⟨_, rfl⟩, ⟨_, rfl⟩, ⟨_, rfl⟩⟩
  ⟨embodied, Or.inl ⟨rfl, rfl, rfl⟩⟩

end seven

theorem replies_of_call {address : Address} {name : String} {world after : World} {result : Except Unwind Value}
    (comes : ∀ fuel, dispatch (performer (fuel + 14)) (.ref address) name [] world = (result, after)) :
    Replies address name world result after := by
  refine ⟨14, fun fuel sufficient => ?_⟩
  obtain ⟨fuel, rfl⟩ : ∃ less, fuel = less + 14 := ⟨fuel - 14, by omega⟩
  exact comes fuel

/-- A generator that throws an exception of its own. -/
def mute : Yielder where
  owner := { name := "G" }
  method := {
    name := "mute"
    returnType := (JavaType.named "Iterator").apply [.named "Integer"]
    body := [.throws (.make (.named "E") [])] }
  shape := { element := .named "Integer", iterable := false }
  optimize := true

namespace mute

/-- The class of the exception, which has no text: asking for it throws another exception. -/
def exception : TypeDecl where
  name := "E"
  superclass := some (.named "RuntimeException")
  methods := [{
    modifiers := .ofList [.publicAccess]
    returnType := .named "String"
    name := "toString"
    body := [.throws (.make (.named "IllegalStateException") [])] }]

/-- A program that has called the generator. -/
def start : World where
  classes := {
    infos := #[
      { decl := mute.owner, qualifiedName := "G", nesting := .topLevel },
      { decl := exception, qualifiedName := "E", nesting := .topLevel,
        superclass := some (.library "RuntimeException"), state := { stage := .done } },
      { decl := mute.decl, qualifiedName := "G$$YielderMute", nesting := .inCode, enclosing := [⟨0⟩],
        state := { stage := .done } }]
    names := [("G", ⟨0⟩), ("E", ⟨1⟩)] }
  heap := ⟨#[.ofClass (mute.newborn ⟨2⟩ [] [])]⟩

/-- The world when the body has thrown its exception. -/
def left : World := (start.grown (.ofClass { type := ⟨1⟩, base := some { type := "RuntimeException" } })).atDepth 2

set_option maxRecDepth 10000 in
theorem uncaught : ∃ searched, Uncaught mute ⟨2⟩ ⟨0⟩ (start.atDepth 1) (.ref ⟨1⟩) searched := by
  have hosted : Hosted mute ⟨2⟩ start := ⟨rfl, rfl, rfl, by decide, rfl, rfl⟩
  have embodied : Embodied mute ⟨2⟩ ⟨0⟩ start :=
    ⟨hosted, ⟨_, rfl, rfl⟩, ⟨.state 0, rfl⟩, ⟨_, rfl⟩, ⟨_, rfl⟩, ⟨_, rfl⟩⟩
  have throws : Ends [stateSwitch mute.machine mute.numbering] (loopFrame mute ⟨2⟩ ⟨0⟩).push.push (start.atDepth 2)
      (.error (.thrown (.ref ⟨1⟩))) left := by
    refine ⟨12, fun fuel sufficient => ?_⟩
    obtain ⟨fuel, rfl⟩ : ∃ less, fuel = less + 12 := ⟨fuel - 12, by omega⟩
    exact Prod.ext rfl (Prod.ext rfl rfl)
  have intact := (embodied.grown (.ofClass { type := ⟨1⟩, base := some { type := "RuntimeException" } })).atDepth 2
  exact ⟨_, .intro (.stay _) throws rfl rfl intact rfl ⟨0, fun fuel _ => rfl⟩ (intact.atDepth 3)⟩

end mute

/-- A generator that takes its elements from an object that it is given. -/
def counted : Yielder where
  owner := { name := "G" }
  method := {
    name := "counted"
    returnType := (JavaType.named "Iterable").apply [.named "Integer"]
    parameters := [{ modifiers := .ofList [.final], type := .named "Counter", name := "counter" }]
    body := [.expression (.callOwn "yield" [.callOn (.name "counter") "next" []])] }
  shape := { element := .named "Integer", iterable := true }
  optimize := true

namespace counted

/-- The class of the object. -/
def counter : TypeDecl where
  name := "Counter"
  fields := [{ type := .named "int", name := "count" }]
  methods := [{
    returnType := .named "int"
    name := "next"
    body := [.returns (some (.unary .preInc (.name "count")))] }]

/-- A program that has called the generator. -/
def start : World where
  classes := {
    infos := #[
      { decl := counted.owner, qualifiedName := "G", nesting := .topLevel },
      { decl := counter, qualifiedName := "Counter", nesting := .topLevel, state := { stage := .done } },
      { decl := counted.decl, qualifiedName := "G$$YielderCounted", nesting := .inCode, enclosing := [⟨0⟩],
        state := { stage := .done } }]
    names := [("G", ⟨0⟩), ("Counter", ⟨1⟩)] }
  heap := ⟨#[.ofClass (counted.newborn ⟨2⟩ [] [("counter", .ref ⟨1⟩)]),
    .ofClass { type := ⟨1⟩, fields := [("count", .int 0)] }]⟩

/-- What the fields of an iterator hold before it has handed out an element. -/
def fresh : Bindings Value :=
  [(stateName, .int 1), (hasNextName, .bool false), (soughtName, .bool false), (elementName, .null)]

/-- The program with two iterators, when the object has counted so far. -/
def opened (count : Int32) (first second : Bindings Value) : World :=
  let iterator (fields : Bindings Value) : Object :=
    .ofClass { type := ⟨2⟩, fields, captured := [("counter", .ref ⟨1⟩)] }
  { start with
    heap := ⟨#[iterator first, .ofClass { type := ⟨1⟩, fields := [("count", .int count)] }, iterator second]⟩ }

/-- Two iterators are opened, and something is done with them. -/
theorem session {deeds : List Deed} {replies : List (Nat × Reply)}
    (onward : Session counted ⟨2⟩ (fun _ => Eq) ⟨0⟩ (opened 0 fresh fresh) [⟨0⟩, ⟨2⟩] deeds replies) :
    Session counted ⟨2⟩ (fun _ => Eq) ⟨0⟩ start [] (.iterator 0 :: .iterator 0 :: deeds) replies := by
  have opens : Replies ⟨0⟩ "iterator" start (.ok (.ref ⟨0⟩)) (start.putField ⟨0⟩ stateName (.int 1)) :=
    replies_of_call fun _ => rfl
  have another : Replies ⟨0⟩ "iterator" (start.putField ⟨0⟩ stateName (.int 1)) (.ok (.ref ⟨2⟩))
      (opened 0 fresh fresh) := replies_of_call fun _ => rfl
  exact .first opens (.later rfl another rfl onward)

end counted

end JavaWeave.Generator
