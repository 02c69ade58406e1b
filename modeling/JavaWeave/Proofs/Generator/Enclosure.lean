import JavaWeave.Proofs.Generator.Bypass
import JavaWeave.Proofs.Generator.Handling
import JavaWeave.Proofs.Generator.Seclusion
import JavaWeave.Proofs.Generator.Traces

namespace JavaWeave.Generator

open Syntax Interpreter

section

variable {realm : Realm} (f : Target → Target)

theorem Route.Keeps.map {route : Route} (keeps : route.Keeps realm) : (route.map f).Keeps realm := by
  intro continuation member
  obtain ⟨before, inside, rfl⟩ := List.mem_map.mp member
  exact keeps before inside

mutual

/-- Where an operation leads to does not matter to what it touches. -/
theorem keeps_map : (op : Op) → op.Keeps realm → (op.map f).Keeps realm
  | .code _, keeps | .yield _ _, keeps | .endFinalizer _, keeps => keeps
  | .leaving _ exits, keeps => by
    refine ⟨keeps.1, fun route member => ?_⟩
    rw [Op.routes_map] at member
    obtain ⟨before, inside, rfl⟩ := List.mem_map.mp member
    exact (keeps.2 before inside).map f
  | .branch _ ops, keeps => ⟨keeps.1, keeps_mapAll ops keeps.2⟩
  | .jump _, keeps => Route.Keeps.map f keeps
  | .dispatch _ arms, keeps => fun sight some_ => ⟨(keeps sight some_).1, fun arm member => by
      obtain ⟨before, inside, rfl⟩ := List.mem_map.mp member
      exact (keeps sight some_).2 before inside⟩

theorem keeps_mapAll : (ops : List Op) → Op.AllKeep realm ops → Op.AllKeep realm (Op.mapAll f ops)
  | [], _ => trivial
  | op :: rest, keeps => ⟨keeps_map op keeps.1, keeps_mapAll rest keeps.2⟩

end

theorem Machine.Keeps.optimize {machine : Machine} (keeps : machine.Keeps realm) : machine.optimize.Keeps realm where
  ops id := by
    rw [Machine.optimize_state]
    exact keeps_mapAll _ _ (keeps.ops id)
  catches index entry member := by
    rw [Machine.optimize_region] at member
    obtain ⟨before, inside, rfl⟩ := List.mem_map.mp member
    exact keeps.catches index before inside
  finalizers index given := by
    rw [Machine.optimize_region, Option.isSome_map] at given
    exact keeps.finalizers index given

end

section

variable {sight : Sight} (numbering : Numbering) {exits : Exits}

/-- What is written for a leaf declares nothing. -/
private theorem after_leaveFrom {nesting : Nesting} (leaf : Leaf) :
    sight.after (leaveFrom numbering exits nesting leaf) = sight := by
  unfold leaveFrom
  split
  · rfl
  · cases leaf <;> rfl

private theorem after_revise {nesting : Nesting} (s : Statement) :
    sight.after (revise (leaveFrom numbering exits) nesting s) = sight.after s := by
  cases s with
  | throws e => exact after_leaveFrom numbering (.throws e)
  | returns value => exact after_leaveFrom numbering (.returns value)
  | returnsDefault => exact after_leaveFrom numbering .returnsDefault
  | breaks label => exact after_leaveFrom numbering (.breaks label)
  | continues label => exact after_leaveFrom numbering (.continues label)
  | localType type => exact after_leaveFrom numbering (.localType type)
  | verbatim text => exact after_leaveFrom numbering (.verbatim text)
  | ifElse _ _ whenFalse => cases whenFalse <;> rfl
  | tryCatch _ _ finalizer => cases finalizer <;> rfl
  | _ => rfl

private theorem afterAll_revise (exits : Exits) (sight : Sight) (nesting : Nesting) (body : List Statement) :
    sight.afterAll (reviseAll (leaveFrom numbering exits) nesting body) = sight.afterAll body := by
  induction body generalizing sight with
  | nil => rfl
  | cons s rest ih =>
    change Sight.afterAll (sight.after (revise (leaveFrom numbering exits) nesting s)) _ = _
    rw [after_revise, ih]
    rfl

private theorem label_reviseCases {nesting : Nesting} {cases : List SwitchCase} {group : SwitchCase}
    (member : group ∈ reviseCases (leaveFrom numbering exits) nesting cases) :
    ∃ before ∈ cases, group.label = before.label := by
  induction cases with
  | nil => cases member
  | cons first rest ih =>
    obtain ⟨label, body⟩ := first
    rcases List.mem_cons.mp member with rfl | later
    · exact ⟨⟨label, body⟩, List.mem_cons_self, rfl⟩
    · obtain ⟨before, inside, same⟩ := ih later
      exact ⟨before, List.mem_cons_of_mem _ inside, same⟩

end

/-- What the written code of a machine needs besides the variables of the machine: fields for the number of the state
and the element, and the exception that reports a failure. No other variable of its own may hold objects of any kind. -/
structure Coding (realm : Realm) : Prop where
  state : stateName ∈ realm.fields
  element : elementName ∈ realm.fields
  handsOut : realm.loose elementName = true
  goesOn : realm.loose stateName = true
  bound : Reserves realm
  breakdown : "java.util.ConcurrentModificationException" ∈ realm.exceptions
  quiet : realm.yields = false

section

variable {realm : Realm} {sight : Sight}

theorem runs_setNumber {name : String} (undotted : isUndotted name = true) (there : name ∈ realm.fields)
    (numbering : Numbering) (target : Target) : realm.runs sight (assignName name (numbering.literal target)) = true :=
  runs_assignName undotted there rfl

variable (coding : Coding realm) (numbering : Numbering)

include coding

/-- The statements of a transfer. -/
theorem runs_followRoute {route : Route} (keeps : route.Keeps realm) :
    ∀ s ∈ followRoute numbering route, ∀ sight : Sight, realm.runs sight s = true := by
  intro s member sight
  rcases List.mem_append.mp member with continuation | last
  · obtain ⟨⟨region, target⟩, inside, rfl⟩ := List.mem_map.mp continuation
    exact runs_setNumber (undotted_numbered (by decide) region) (keeps _ inside) numbering target
  · obtain rfl := List.mem_singleton.mp last
    exact runs_setNumber (by decide) coding.state numbering route.target

theorem runs_transfer {route : Route} (keeps : route.Keeps realm) (nesting : Nesting) :
    realm.runs sight (transfer numbering nesting route) = true := by
  refine runsAll_of_forall [] (fun s member sight _ _ => ?_) (List.cons_ne_nil _ _) nofun
  rcases List.mem_append.mp member with sets | goes
  · exact runs_followRoute coding numbering keeps s sets sight
  · obtain rfl := List.mem_singleton.mp goes
    rfl

theorem runs_leaveFrom {exits : Exits} (keeps : ∀ route ∈ exits.routes, route.Keeps realm) {nesting : Nesting}
    (leaf : Leaf) (inside : realm.runs sight leaf.statement = true) :
    realm.runs sight (leaveFrom numbering exits nesting leaf) = true := by
  unfold leaveFrom
  split
  · next route leaves => exact runs_transfer coding numbering (keeps route (mem_routes_of_exitRoute? leaves)) nesting
  · exact inside

end

section

variable {realm : Realm} (numbering : Numbering) {exits : Exits}

mutual

/-- Jumps out of a statement may become transfers. -/
theorem runs_revise (coding : Coding realm) (keeps : ∀ route ∈ exits.routes, route.Keeps realm) {sight : Sight}
    (nesting : Nesting) : (s : Statement) → realm.runs sight s = true →
    realm.runs sight (revise (leaveFrom numbering exits) nesting s) = true
  | .block body, inside => runsAll_revise coding keeps nesting body inside
  | .ifElse condition whenTrue none, inside =>
    have both := Bool.and_eq_true_iff.mp inside
    have front := Bool.and_eq_true_iff.mp both.1
    Bool.and_eq_true_iff.mpr ⟨Bool.and_eq_true_iff.mpr ⟨front.1,
      runs_revise coding keeps nesting whenTrue front.2⟩, rfl⟩
  | .ifElse condition whenTrue (some whenFalse), inside =>
    have both := Bool.and_eq_true_iff.mp inside
    have front := Bool.and_eq_true_iff.mp both.1
    Bool.and_eq_true_iff.mpr ⟨Bool.and_eq_true_iff.mpr ⟨front.1, runs_revise coding keeps nesting whenTrue front.2⟩,
      runs_revise coding keeps nesting whenFalse both.2⟩
  | .whileLoop _ body, inside | .doWhile body _, inside =>
    have both := Bool.and_eq_true_iff.mp inside
    Bool.and_eq_true_iff.mpr ⟨both.1, runs_revise coding keeps nesting.inLoop body both.2⟩
  | .forLoop start condition update body, inside => by
    obtain ⟨inside, within⟩ := Bool.and_eq_true_iff.mp inside
    obtain ⟨inside, updates⟩ := Bool.and_eq_true_iff.mp inside
    obtain ⟨begins, test⟩ := Bool.and_eq_true_iff.mp inside
    have same := afterAll_revise numbering exits ([] :: sight) nesting.inLoop start
    change realm.runs sight (.forLoop (reviseAll (leaveFrom numbering exits) nesting.inLoop start) condition update
      (revise (leaveFrom numbering exits) nesting.inLoop body)) = true
    refine Bool.and_eq_true_iff.mpr ⟨Bool.and_eq_true_iff.mpr ⟨Bool.and_eq_true_iff.mpr ⟨?_, ?_⟩, ?_⟩, ?_⟩
    · exact runsAll_revise coding keeps nesting.inLoop start begins
    · rw [same]
      exact test
    · rw [same]
      exact updates
    · rw [same]
      exact runs_revise coding keeps nesting.inLoop body within
  | .switch selector cases, inside => by
    obtain ⟨inside, groups⟩ := Bool.and_eq_true_iff.mp inside
    obtain ⟨selects, labels⟩ := Bool.and_eq_true_iff.mp inside
    refine Bool.and_eq_true_iff.mpr ⟨Bool.and_eq_true_iff.mpr ⟨selects, ?_⟩,
      runsCases_revise coding keeps nesting.inSwitch cases groups⟩
    exact List.all_eq_true.mpr fun group member => by
      obtain ⟨before, inside, same⟩ := label_reviseCases numbering member
      rw [same]
      exact List.all_eq_true.mp labels before inside
  | .tryCatch body catches none, inside =>
    have both := Bool.and_eq_true_iff.mp inside
    have front := Bool.and_eq_true_iff.mp both.1
    Bool.and_eq_true_iff.mpr ⟨Bool.and_eq_true_iff.mpr ⟨runsAll_revise coding keeps nesting body front.1,
      runsCatches_revise coding keeps nesting catches front.2⟩, rfl⟩
  | .tryCatch body catches (some finalizer), inside =>
    have both := Bool.and_eq_true_iff.mp inside
    have front := Bool.and_eq_true_iff.mp both.1
    Bool.and_eq_true_iff.mpr ⟨Bool.and_eq_true_iff.mpr ⟨runsAll_revise coding keeps nesting body front.1,
      runsCatches_revise coding keeps nesting catches front.2⟩, runsAll_revise coding keeps nesting finalizer both.2⟩
  | .synchronized lock body, inside => by
    obtain ⟨inside, within⟩ := Bool.and_eq_true_iff.mp inside
    refine Bool.and_eq_true_iff.mpr ⟨Bool.and_eq_true_iff.mpr ⟨(Bool.and_eq_true_iff.mp inside).1, ?_⟩, ?_⟩
    · rw [coding.quiet]
      rfl
    · exact runsAll_revise coding keeps nesting body within
  | .labeled label body, inside => runs_revise coding keeps (nesting.inLabel label) body inside
  | .expression _, inside | .declare _, inside | .empty, inside => inside
  | .throws e, inside => runs_leaveFrom coding numbering keeps (.throws e) inside
  | .returns value, inside => runs_leaveFrom coding numbering keeps (.returns value) inside
  | .returnsDefault, inside => runs_leaveFrom coding numbering keeps .returnsDefault inside
  | .breaks label, inside => runs_leaveFrom coding numbering keeps (.breaks label) inside
  | .continues label, inside => runs_leaveFrom coding numbering keeps (.continues label) inside
  | .forEach ⟨_, _, _, _, _⟩ _ body, inside =>
    have both := Bool.and_eq_true_iff.mp inside
    Bool.and_eq_true_iff.mpr ⟨both.1, runs_revise coding keeps nesting.inLoop body both.2⟩
  | .localType _, inside | .verbatim _, inside => by cases inside

theorem runsAll_revise (coding : Coding realm) (keeps : ∀ route ∈ exits.routes, route.Keeps realm)
    {sight : Sight} (nesting : Nesting) : (body : List Statement) →
    realm.runsAll sight body = true → realm.runsAll sight (reviseAll (leaveFrom numbering exits) nesting body) = true
  | [], _ => rfl
  | s :: rest, inside => by
    have both := Bool.and_eq_true_iff.mp inside
    refine Bool.and_eq_true_iff.mpr ⟨runs_revise coding keeps nesting s both.1, ?_⟩
    rw [after_revise]
    exact runsAll_revise coding keeps nesting rest both.2

theorem runsCases_revise (coding : Coding realm) (keeps : ∀ route ∈ exits.routes, route.Keeps realm)
    {sight : Sight} (nesting : Nesting) : (cases : List SwitchCase) →
    realm.runsCases sight cases = true →
    realm.runsCases sight (reviseCases (leaveFrom numbering exits) nesting cases) = true
  | [], _ => rfl
  | ⟨_, body⟩ :: rest, inside =>
    have both := Bool.and_eq_true_iff.mp inside
    Bool.and_eq_true_iff.mpr ⟨runsAll_revise coding keeps nesting body both.1,
      runsCases_revise coding keeps nesting rest both.2⟩

theorem runsCatches_revise (coding : Coding realm) (keeps : ∀ route ∈ exits.routes, route.Keeps realm)
    {sight : Sight} (nesting : Nesting) : (catches : List CatchClause) →
    realm.runsCatches sight catches = true →
    realm.runsCatches sight (reviseCatches (leaveFrom numbering exits) nesting catches) = true
  | [], _ => rfl
  | ⟨⟨_, _, _, _⟩, body⟩ :: rest, inside =>
    have both := Bool.and_eq_true_iff.mp inside
    have front := Bool.and_eq_true_iff.mp both.1
    Bool.and_eq_true_iff.mpr ⟨Bool.and_eq_true_iff.mpr ⟨front.1, runsAll_revise coding keeps nesting body front.2⟩,
      runsCatches_revise coding keeps nesting rest both.2⟩

end

end

section

variable {realm : Realm} (coding : Coding realm)

include coding

theorem runs_lowerEndFinalizer {region : Nat} (onward : continuationName region ∈ realm.fields)
    (waiting : pendingName region ∈ realm.fields) (sight : Sight) :
    realm.runsAll sight (lowerEndFinalizer region) = true := by
  have reads : ∀ sight loose, realm.evaluates sight loose (.name (pendingName region)) = true :=
    evaluates_numbered coding.bound rfl rfl (by decide) waiting
  have leads : ∀ sight loose, realm.evaluates sight loose (.name (continuationName region)) = true :=
    evaluates_numbered coding.bound rfl rfl (by decide) onward
  have tight : realm.loose "$t" = false := coding.bound _ rfl (by decide) (by decide)
  have thrown : realm.evaluates ((["$t"] : List String) :: sight) false (.name "$t") = true := by
    simp [Realm.evaluates, Realm.knows, Realm.assigns, Sight.has, tight]
  have throws : realm.runsAll ([] :: sight)
      [.declare (.final (.named "java.lang.Throwable") "$t" (.name (pendingName region))),
        assignName (pendingName region) .null, .throws (.name "$t")] = true := by
    refine Bool.and_eq_true_iff.mpr ⟨Bool.and_eq_true_iff.mpr ⟨by decide, reads _ _⟩, ?_⟩
    refine Bool.and_eq_true_iff.mpr ⟨?_, Bool.and_eq_true_iff.mpr ⟨thrown, rfl⟩⟩
    exact runs_assignName (undotted_numbered (by decide) region) waiting rfl
  refine Bool.and_eq_true_iff.mpr ⟨?_, Bool.and_eq_true_iff.mpr ⟨?_, rfl⟩⟩
  · refine Bool.and_eq_true_iff.mpr ⟨Bool.and_eq_true_iff.mpr ⟨?_, throws⟩, rfl⟩
    exact Bool.and_eq_true_iff.mpr ⟨reads _ _, rfl⟩
  · exact runs_assignName (by decide) coding.state (leads _ _)

end

section

variable {realm : Realm} (numbering : Numbering)

mutual

/-- What is written for an operation. -/
theorem runsAll_writeOp (coding : Coding realm) (next : Option Nat) : (op : Op) → op.Keeps realm →
    ∀ sight : Sight, sight ≠ [] → realm.runsAll sight (writeOp numbering next op) = true
  | .code s, keeps, sight, some_ => Bool.and_eq_true_iff.mpr ⟨keeps sight some_, rfl⟩
  | .leaving s _, keeps, sight, some_ =>
    Bool.and_eq_true_iff.mpr ⟨runs_revise numbering coding keeps.2 {} s (keeps.1 sight some_), rfl⟩
  | .branch condition ops, keeps, sight, some_ => by
    have within := runsAll_writeOps coding none ops keeps.2 ([] :: sight) (List.cons_ne_nil _ _)
    exact Bool.and_eq_true_iff.mpr ⟨Bool.and_eq_true_iff.mpr ⟨Bool.and_eq_true_iff.mpr ⟨keeps.1 sight some_, within⟩,
      rfl⟩, rfl⟩
  | .jump route, keeps, sight, some_ => by
    refine runsAll_of_forall [] (fun s member sight _ _ => ?_) some_ nofun
    rcases List.mem_append.mp member with sets | goes
    · exact runs_followRoute coding numbering keeps s sets sight
    · split at goes
      · cases goes
      · obtain rfl := List.mem_singleton.mp goes
        rfl
  | .yield value resume, keeps, sight, some_ => by
    refine Bool.and_eq_true_iff.mpr ⟨?_, Bool.and_eq_true_iff.mpr ⟨?_, rfl⟩⟩
    · exact runs_assignName (by decide) coding.element (by rw [coding.handsOut]; exact keeps sight some_)
    · exact runs_setNumber (by decide) coding.state numbering resume
  | .dispatch selector arms, keeps, sight, some_ => by
    refine Bool.and_eq_true_iff.mpr ⟨Bool.and_eq_true_iff.mpr ⟨Bool.and_eq_true_iff.mpr ⟨(keeps sight some_).1, ?_⟩, ?_⟩,
      rfl⟩
    · refine List.all_eq_true.mpr fun group member => ?_
      obtain ⟨arm, inside, rfl⟩ := List.mem_map.mp member
      exact (keeps sight some_).2 arm inside
    · refine runsCases_of_forall fun group member => ?_
      obtain ⟨⟨label, target⟩, _, rfl⟩ := List.mem_map.mp member
      exact Bool.and_eq_true_iff.mpr ⟨runs_setNumber (by decide) coding.state numbering target, rfl⟩
  | .endFinalizer _, keeps, sight, _ => runs_lowerEndFinalizer coding keeps.1 keeps.2 sight

theorem runsAll_writeOps (coding : Coding realm) (next : Option Nat) : (ops : List Op) → Op.AllKeep realm ops →
    ∀ sight : Sight, sight ≠ [] → realm.runsAll sight (writeOps numbering next ops) = true
  | [], _, _, _ => rfl
  | op :: rest, keeps, sight, some_ =>
    runsAll_append (runsAll_writeOp coding _ op keeps.1 sight some_)
      (runsAll_writeOps coding next rest keeps.2 _ (Sight.afterAll_ne_nil some_ _))

end

end

section

variable {realm : Realm} {machine : Machine} (coding : Coding realm) (keeps : machine.Keeps realm)
  (numbering : Numbering)

include coding

private theorem evaluates_state (sight : Sight) : realm.evaluates sight true (.name stateName) = true := by
  refine Bool.and_eq_true_iff.mpr ⟨?_, rfl⟩
  exact Bool.or_eq_true_iff.mpr (Or.inl (Bool.or_eq_true_iff.mpr (Or.inr (List.contains_iff_mem.mpr coding.state))))

theorem evaluates_caught {sight : Sight} (there : sight.has caughtName = true) (loose : Bool) :
    realm.evaluates sight loose (.name caughtName) = true := by
  refine Bool.and_eq_true_iff.mpr ⟨?_, by rw [coding.bound caughtName rfl (by decide) (by decide)]; simp⟩
  exact Bool.or_eq_true_iff.mpr (Or.inl (Bool.or_eq_true_iff.mpr (Or.inl there)))

include keeps

/-- The switch over the states of a machine. -/
theorem runs_stateSwitch (sight : Sight) : realm.runs sight (stateSwitch machine numbering) = true := by
  have groups (ids : List Nat) : ∀ group ∈ stateGroups machine numbering ids,
      group.label.all (realm.evaluates sight true) = true ∧ realm.runsAll ([] :: sight) group.body = true := by
    induction ids with
    | nil => exact List.forall_mem_nil _
    | cons id rest ih =>
      refine List.forall_mem_cons.mpr ⟨⟨rfl, ?_⟩, ih⟩
      exact runsAll_writeOps numbering coding _ _ (keeps.ops id) _ (List.cons_ne_nil _ _)
  have all : ∀ group ∈ stateGroups machine numbering machine.layout ++ [⟨none, [.returns (some (.bool false))]⟩],
      group.label.all (realm.evaluates sight true) = true ∧ realm.runsAll ([] :: sight) group.body = true :=
    List.forall_mem_append.mpr ⟨groups _, List.forall_mem_singleton.mpr ⟨rfl, rfl⟩⟩
  refine Bool.and_eq_true_iff.mpr ⟨Bool.and_eq_true_iff.mpr ⟨evaluates_state coding sight, ?_⟩, ?_⟩
  · exact List.all_eq_true.mpr fun group member => (all group member).1
  · exact runsCases_of_forall fun group member => (all group member).2

private theorem runs_offerTo {sight : Sight} (there : sight.has caughtName = true) {index : Nat} {entry : CatchEntry}
    (member : entry ∈ (machine.region index).catches) : realm.runs sight (offerTo numbering entry) = true := by
  obtain ⟨undotted, field⟩ := keeps.catches index entry member
  refine Bool.and_eq_true_iff.mpr ⟨Bool.and_eq_true_iff.mpr ⟨evaluates_caught coding there true, ?_⟩, rfl⟩
  refine Bool.and_eq_true_iff.mpr ⟨runs_assignName undotted field ?_, rfl⟩
  exact evaluates_caught coding (by simpa [Sight.has] using there) _

/-- The search for a handler. -/
theorem runs_handlerSearch (context : Context) : ∀ s ∈ handlerSearch machine numbering context,
    ∀ sight : Sight, sight ≠ [] → (∀ name ∈ [caughtName], sight.has name = true) → realm.runs sight s = true := by
  induction context with
  | nil => exact List.forall_mem_nil _
  | cons around outer ih =>
    obtain ⟨index, part⟩ := around
    have offers : ∀ s ∈ (if part = .body then (machine.region index).catches.map (offerTo numbering) else []),
        ∀ sight : Sight, sight ≠ [] → (∀ name ∈ [caughtName], sight.has name = true) → realm.runs sight s = true := by
      intro s member sight _ there
      split at member
      · obtain ⟨entry, inside, rfl⟩ := List.mem_map.mp member
        exact runs_offerTo coding keeps numbering (there _ List.mem_cons_self) inside
      · cases member
    unfold handlerSearch
    simp only
    split
    · exact List.forall_mem_append.mpr ⟨offers, ih⟩
    · exact List.forall_mem_append.mpr ⟨offers, ih⟩
    · next entry given =>
      have waiting : pendingName index ∈ realm.fields := keeps.finalizers index (by rw [given]; rfl)
      refine List.forall_mem_append.mpr ⟨offers, List.forall_mem_cons.mpr ⟨fun sight _ there => ?_,
        List.forall_mem_singleton.mpr fun sight _ _ => rfl⟩⟩
      exact runs_assignName (undotted_numbered (by decide) index) waiting
        (evaluates_caught coding (there _ List.mem_cons_self) _)

private theorem runs_handlerCases {sight : Sight} (there : sight.has caughtName = true) (context : Context)
    (ids : List Nat) : ∀ group ∈ handlerCases machine numbering context ids,
    group.label.all (realm.evaluates sight true) = true ∧ realm.runsAll ([] :: sight) group.body = true := by
  have searches : ∀ s ∈ searchGroup machine numbering context, ∀ sight : Sight, sight ≠ [] →
      (∀ name ∈ [caughtName], sight.has name = true) → realm.runs sight s = true := by
    unfold searchGroup
    simp only
    split
    · exact runs_handlerSearch coding keeps numbering context.reverse
    · exact List.forall_mem_append.mpr ⟨runs_handlerSearch coding keeps numbering context.reverse,
        List.forall_mem_singleton.mpr fun _ _ _ => rfl⟩
  have body : realm.runsAll ([] :: sight) (searchGroup machine numbering context) = true :=
    runsAll_of_forall [caughtName] searches (List.cons_ne_nil _ _)
      (List.forall_mem_singleton.mpr (by simpa [Sight.has] using there))
  have shared (ids : List Nat) : ∀ group ∈ sharing numbering (searchGroup machine numbering context) ids,
      group.label.all (realm.evaluates sight true) = true ∧ realm.runsAll ([] :: sight) group.body = true := by
    induction ids with
    | nil => exact List.forall_mem_nil _
    | cons id rest ih =>
      cases rest with
      | nil => exact List.forall_mem_singleton.mpr ⟨rfl, body⟩
      | cons other rest => exact List.forall_mem_cons.mpr ⟨⟨rfl, rfl⟩, ih⟩
  rw [handlerCases_eq]
  split
  · exact List.forall_mem_nil _
  · exact shared ids

/-- The body of the method that looks for a handler. -/
theorem runs_handlerMethod {sight : Sight} (some_ : sight ≠ []) (there : sight.has caughtName = true) :
    realm.runsAll sight (handlerMethod machine numbering).body = true := by
  refine runsAll_of_forall [caughtName] ?_ some_ (List.forall_mem_singleton.mpr there)
  refine List.forall_mem_append.mpr ⟨?_, List.forall_mem_cons.mpr ⟨fun sight _ _ => ?_,
    List.forall_mem_singleton.mpr fun sight _ there => ?_⟩⟩
  · split
    · exact List.forall_mem_nil _
    · refine List.forall_mem_singleton.mpr fun sight _ there => ?_
      have all : ∀ group ∈ (groupBy (fun id => (machine.state id).context)
          (machine.layout.filter fun id => !(machine.state id).context.isEmpty)).flatMap
            (fun entry => handlerCases machine numbering entry.1 entry.2),
          group.label.all (realm.evaluates sight true) = true ∧ realm.runsAll ([] :: sight) group.body = true := by
        intro group member
        obtain ⟨⟨context, ids⟩, _, inside⟩ := List.mem_flatMap.mp member
        exact runs_handlerCases coding keeps numbering (there _ List.mem_cons_self) context ids group inside
      refine Bool.and_eq_true_iff.mpr ⟨Bool.and_eq_true_iff.mpr ⟨evaluates_state coding sight, ?_⟩, ?_⟩
      · exact List.all_eq_true.mpr fun group member => (all group member).1
      · exact runsCases_of_forall fun group member => (all group member).2
  · exact runs_assignName (by decide) coding.state rfl
  · refine Bool.and_eq_true_iff.mpr ⟨List.contains_iff_mem.mpr coding.breakdown, ?_⟩
    exact Bool.and_eq_true_iff.mpr ⟨evaluates_caught coding (there _ List.mem_cons_self) false, rfl⟩

end

end JavaWeave.Generator
