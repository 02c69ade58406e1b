import JavaWeave.Proofs.Builder.Enforcement
import JavaWeave.Proofs.Builder.Faithful

namespace JavaWeave.Weave

open Syntax Interpreter

/-- Assigns a field of the object what it starts with, which is its zero value where it has no initial value. -/
def restoring (field : Field) : Statement := .set (.ofSelf field.name) (field.initial.getD field.type.zero)

/-- Assigns all fields of the class what they start with and returns the object. -/
structure Restores (type : TypeDecl) (method : Method) : Prop where
  name : method.name = "reset"
  parameters : method.parameters = []
  body : method.body = type.fields.map restoring ++ [.returns (some .self)]

section Step

variable {plan : BuilderPlan}

namespace BuilderPlan

theorem resetValue_eq (allowed : plan.allowReset = true) (field : BuilderField) :
    plan.resetValue field = (plan.initialValue field).getD field.type.zero := by
  rw [initialValue, allowed, Bool.and_true]
  cases initial : field.initial with
  | none => simp [resetValue, initial]
  | some e => rfl

theorem restores_resetStep (allowed : plan.allowReset = true) (interfaces : List StepInterface) :
    Restores (plan.builderDecl interfaces) plan.resetStep.implementation where
  name := rfl
  parameters := rfl
  body := by
    have each : plan.fields.held.map (fun field => Statement.set (.ofSelf field.name) (plan.resetValue field)) =
        (plan.builderDecl interfaces).fields.map restoring := by
      rw [builderDecl, List.map_map]
      exact List.map_congr_left fun field _ => by rw [resetValue_eq allowed]; rfl
    rw [← each]
    rfl

theorem straight_builderFields (allowed : plan.allowReset = true) (interfaces : List StepInterface) :
    ∀ field ∈ (plan.builderDecl interfaces).fields, ∀ e, field.initial = some e → Straight e := by
  refine List.forall_mem_map.mpr fun field _ e initial => ?_
  change plan.initialValue field = some e at initial
  rw [initialValue, allowed, Bool.and_true] at initial
  split at initial
  · cases initial
    exact straight_resetValue field
  · next none => simp [initial] at none

end BuilderPlan

variable {entry : String} {forwarding : List Step} {type : TypeDecl} {interfaces : List TypeDecl} {builder : TypeDecl}

/-- The class of the builder has its fields as they were planned. -/
theorem Added.fields_builder (added : Added plan entry forwarding type interfaces builder)
    (allowed : plan.allowReset = true) : ∃ stamp : Origin → Origin, builder.fields =
      (plan.builderDecl (plan.allInterfaces forwarding)).fields.map (·.restamp stamp) := by
  obtain ⟨span, lowered⟩ := added.lowered
  obtain ⟨-, -, fields, -⟩ := members_onType lowered
  rw [Reviser.onFields_straight (leaves_lowering ..) _ (BuilderPlan.straight_builderFields allowed _)] at fields
  exact ⟨_, (Except.ok.inj fields).symm⟩

/-- It has the step as well. -/
theorem Added.exists_restores (added : Added plan entry forwarding type interfaces builder)
    (allowed : plan.allowReset = true) : ∃ method ∈ builder.methods, Restores builder method := by
  obtain ⟨span, lowered⟩ := added.lowered
  obtain ⟨-, -, -, methods⟩ := members_onType lowered
  obtain ⟨interface, listed, own⟩ := BuilderPlan.Plain.exists_reset allowed forwarding
  have among : plan.resetStep.implementation ∈ (plan.builderDecl (plan.allInterfaces forwarding)).methods :=
    List.mem_flatMap.mpr ⟨interface, listed, List.mem_map_of_mem own⟩
  obtain ⟨method, member, revised⟩ := exists_of_forall₂ methods.flip among
  rw [Reviser.onMethod_straight (leaves_lowering ..) _ BuilderPlan.PlainStep.reset.body] at revised
  cases revised
  obtain ⟨name, parameters, body⟩ := BuilderPlan.restores_resetStep allowed (plan.allInterfaces forwarding)
  obtain ⟨stamp, fields⟩ := added.fields_builder allowed
  refine ⟨_, member, name, parameters, body.trans ?_⟩
  rw [fields, List.map_map]
  rfl

end Step

/-- A builder that can be reset has a step that assigns each of its fields once, and always what a new builder starts
with. -/
theorem builder_restores {setting : Setting} {target : Target} {type : TypeDecl}
    (applied : ((builderHandler.handle target).perform setting).1 = .ok (.applied type))
    (distinct : (setting.decl.fields.map (·.name)).Nodup) :
    ∃ plan excluded forwarded, Asks setting plan excluded forwarded ∧
      (plan.allowReset = true → ∃ builder ∈ addedTypes setting.decl type, builder.name = plan.builderName ∧
        (builder.fields.map (·.name)).Nodup ∧ ∃ method ∈ builder.methods, Restores builder method) := by
  obtain ⟨-, -, -, plan, excluded, forwarded, asks, -, committed⟩ :=
    (Handling.outcome_builder target type).mp ⟨_, Prod.ext applied rfl⟩
  have held : (plan.fields.held.map (·.name)).Nodup := by
    obtain ⟨_, _, _, _, _, -, -, -, -, -, -, -, rfl⟩ := asks
    exact BuilderFields.nodup_held _ _ _ _ distinct
  rw [← asks.owner] at committed ⊢
  obtain ⟨interfaces, builder, added⟩ := added_of_commit committed
  refine ⟨plan, excluded, forwarded, asks, fun allowed => ⟨builder, ?_, added.builder.name, ?_,
    added.exists_restores allowed⟩⟩
  · rw [added.addedTypes]
    exact List.mem_append_right _ List.mem_cons_self
  · obtain ⟨stamp, fields⟩ := added.fields_builder allowed
    rw [fields, List.map_map, BuilderPlan.builderDecl, List.map_map]
    exact held

/-- A call on a builder behind which it is still one. -/
inductive BuilderCall where
  | give (name : String) (value : Value)
  | reset

namespace BuilderCall

def run (fuel : Nat) (builder : Value) : BuilderCall → Use Value
  | .give name value => callMethod fuel builder name [value]
  | .reset => callMethod fuel builder "reset" []

/-- What a builder holds behind a call. -/
def change (plan : BuilderPlan) (given : String → Value) : BuilderCall → String → Value
  | .give name value => Function.update given name value
  | .reset => plan.startGiven

/-- A field is given a value of its kind. -/
inductive Fits (fields : List BuilderField) : BuilderCall → Prop where
  | give {field : BuilderField} (held : field ∈ fields) {value : Value} (ofKind : OfKind field.type value) :
      Fits fields (.give field.name value)
  | reset : Fits fields .reset

end BuilderCall

/-- Makes an object of a class by its builder, after calls on it. -/
def buildAfter (fuel : Nat) (type : String) (calls : List BuilderCall) : Use Value := do
  let builder ← callStatic fuel type "create" []
  let ready ← calls.foldlM (BuilderCall.run fuel) builder
  callMethod fuel ready "build" []

namespace BuilderPlan

variable {plan : BuilderPlan} {stamp : Origin → Origin} {place : Nat} {outer inner : ClassId} {world : World}

/-- Only what the fields hold counts. -/
theorem Awaits.congr {address : Address} {given given' : String → Value}
    (awaits : plan.Awaits stamp place outer inner world address given)
    (same : ∀ field ∈ plan.fields.held, given' field.name = given field.name) :
    plan.Awaits stamp place outer inner world address given' where
  housed := awaits.housed
  begun := awaits.begun
  depth := awaits.depth
  object := awaits.object
  holds field held := same field held ▸ awaits.holds field held
  kinds field held := same field held ▸ awaits.kinds field held

namespace Sound

variable (sound : plan.Sound)
include sound

/-- The assignments of the step, one after the other. Each field that was assigned holds what it starts with, and the
others hold what they held. -/
theorem outcome_restoreAll {address : Address} {frame : Frame} (bare : frame.Bare inner address)
    (allowed : plan.allowReset = true) {depth : Nat} (room : depth < depthLimit) (fuel : Nat)
    {fields : List BuilderField} (listed : ∀ field ∈ fields, field ∈ plan.fields.held) {given : String → Value}
    (awaits : plan.Awaits stamp place outer inner world address given) :
    ∃ after given', outcome (execAll (.ofPerformer (performer (fuel + 2))) (fuel + 2)
        (fields.map fun field => .set (.ofSelf field.name) (plan.resetValue field))) (frame, world.atDepth depth) =
          (.ok .normal, (frame, after.atDepth depth)) ∧
      plan.Awaits stamp place outer inner after address given' ∧
      ∀ name, given' name = if name ∈ fields.map (·.name) then plan.startGiven name else given name := by
  induction fields generalizing world given with
  | nil => exact ⟨world, given, outcome_execAll_nil .., awaits, fun name => rfl⟩
  | cons field rest inductionHypothesis =>
    obtain ⟨held, others⟩ := List.forall_mem_cons.mp listed
    have ofKind : OfKind field.type (plan.startGiven field.name) := sound.startGiven_eq held ▸ sound.ofKind_start held
    have holding : (world.atDepth depth).field? address field.name = some (given field.name) := awaits.holds field held
    have gives : outcome (eval (performer (fuel + 2)) (plan.resetValue field)) (frame, world.atDepth depth) =
        (.ok (plan.startGiven field.name), (frame, world.atDepth depth)) :=
      sound.outcome_resetValue bare held allowed awaits.housed awaits.begun room awaits.object
    have stored := outcome_storeSelf (performer (fuel + 2)) (fuel + 2) bare.self holding gives
    rw [ofKind.conform (awaits.kinds field held), World.putField_atDepth] at stored
    obtain ⟨after, given', ran, done, holds⟩ := inductionHypothesis others (sound.awaits_put awaits held ofKind)
    refine ⟨after, given', ?_, done, fun name => ?_⟩
    · rw [List.map_cons, outcome_execAll_cons, stored, andThen_normal, ran]
    · rw [holds, List.map_cons, Function.update_apply]
      by_cases own : name = field.name
      · simp [own]
      · simp [own]

/-- A builder that is reset is as it was at first. -/
theorem awaits_reset {address : Address} {given : String → Value}
    (awaits : plan.Awaits stamp place outer inner world address given) (allowed : plan.allowReset = true)
    (fuel : Nat) :
    ∃ after, callMethod (fuel + 3) (.ref address) "reset" [] world = (.ok (.ref address), after) ∧
      plan.Awaits stamp place outer inner after address plan.startGiven := by
  obtain ⟨state, there, builder⟩ := awaits.object
  let method := plan.resetStep.implementation.restamp stamp
  have answered : world.classes.method? state.type "reset" 0 = some (inner, method) := by
    rw [builder.type]
    exact (awaits.housed.last.method? "reset" 0).trans (congrArg (Option.map (inner, ·)) (sound.find_reset allowed))
  have room : world.depth < depthLimit := by rw [awaits.depth]; decide
  have deeper : world.depth + 1 < depthLimit := by rw [awaits.depth]; decide
  obtain ⟨after, given', ran, done, holds⟩ := sound.outcome_restoreAll (bare_startFrame inner method address) allowed
    deeper fuel (fun _ held => held) awaits
  have gives : outcome (eval (performer (fuel + 2)) .self)
      (startFrame inner method address, after.atDepth (world.depth + 1)) = (.ok (.ref address), _) :=
    outcome_evalSelf rfl
  have ends : outcome (execAll (.ofPerformer (performer (fuel + 2))) (fuel + 2) method.body)
      (startFrame inner method address, world.atDepth (world.depth + 1)) =
        (.ok (.returns (.ref address)), (startFrame inner method address, after.atDepth (world.depth + 1))) := by
    change outcome (execAll _ _ (_ ++ [.returns (some .self)])) _ = _
    rw [outcome_execAll_append, ran, andThen_normal, outcome_execAll_single, outcome_returns gives]
  have bound : method.isStatic = false := (bound_implementation .reset).2
  have called := performer_invoke_bare bound rfl room ends
  rw [callResult, coerce_ref] at called
  have still : (after.atDepth (world.depth + 1)).atDepth ((after.atDepth (world.depth + 1)).depth - 1) = after := by
    rw [World.atDepth_atDepth, World.depth_atDepth, Nat.add_sub_cancel, awaits.depth, ← done.depth,
      World.atDepth_depth]
  rw [still] at called
  refine ⟨after, ?_, done.congr fun field held => ?_⟩
  · rw [callMethod]
    exact settle_ok ((dispatch_own there answered).trans called)
  · rw [holds, if_pos (List.mem_map_of_mem held)]

/-- Behind calls a builder holds what each of them changed. -/
theorem awaits_calls {address : Address} {given : String → Value} {calls : List BuilderCall}
    (awaits : plan.Awaits stamp place outer inner world address given) (allowed : plan.allowReset = true)
    (fits : ∀ call ∈ calls, call.Fits plan.fields.held) (fuel : Nat) :
    ∃ after, calls.foldlM (BuilderCall.run (fuel + 3)) (.ref address) world = (.ok (.ref address), after) ∧
      plan.Awaits stamp place outer inner after address (calls.foldl (BuilderCall.change plan) given) := by
  induction calls generalizing world given with
  | nil => exact ⟨world, rfl, awaits⟩
  | cons call rest inductionHypothesis =>
    obtain ⟨own, others⟩ := List.forall_mem_cons.mp fits
    have stepped : ∃ after, call.run (fuel + 3) (.ref address) world = (.ok (.ref address), after) ∧
        plan.Awaits stamp place outer inner after address (call.change plan given) := by
      cases own with
      | give held ofKind => exact sound.awaits_setter awaits held ofKind (fuel + 2)
      | reset => exact sound.awaits_reset awaits allowed fuel
    obtain ⟨after, called, awaits'⟩ := stepped
    obtain ⟨last, ran, done⟩ := inductionHypothesis awaits' others
    refine ⟨last, ?_, done⟩
    rw [List.foldlM_cons, use_bind called]
    exact ran

/-- What is built holds what the calls left. -/
theorem holds_buildAfter {calls : List BuilderCall} (housed : plan.Housed stamp place world.classes outer inner)
    (depth : world.depth = 0) (allowed : plan.allowReset = true) (fits : ∀ call ∈ calls, call.Fits plan.fields.held)
    (fuel : Nat) :
    ∃ built after, buildAfter (fuel + 5) plan.owner.name calls world = (.ok (.ref built), after) ∧
      ∀ field ∈ plan.fields.held,
        after.field? built field.name = some (calls.foldl (BuilderCall.change plan) plan.startGiven field.name) := by
  obtain ⟨address, started, created, awaits⟩ := sound.awaits_create housed depth fuel
  obtain ⟨ready, ran, awaits⟩ := sound.awaits_calls awaits allowed fits (fuel + 2)
  obtain ⟨built, after, ended, -, -, holds⟩ := sound.holds_build awaits (fuel + 2)
  refine ⟨built, after, ?_, holds⟩
  rw [buildAfter, use_bind created, use_bind ran]
  exact ended

end Sound

end BuilderPlan

/-- Whatever was given before a reset, the object that is built in the end is as if only what followed had been given
to a new builder. -/
theorem reset_like_new {units : List CompilationUnit} {decl : TypeDecl} {package : Option String}
    {earlier later : List (Option String × TypeDecl)} {before after : List Annotation} {note : Annotation}
    (there : ClassTable.topLevel units = earlier ++ (package, decl) :: later)
    (alone : ∀ entry ∈ later, entry.2.name ≠ decl.name)
    (unnamed : ∀ unit ∈ units, ∀ type ∈ unit.types, Unnamed kindNames type) (data : DataClass decl)
    (concrete : decl.modifiers.has .abstract = false)
    (only : OnlyBuilder decl before note after (some true)) {fields : List BuilderField}
    (held : fields = heldFields decl .required ++ heldFields decl .optional) {calls continued : List BuilderCall}
    (fits : ∀ call ∈ calls, call.Fits fields) (fits' : ∀ call ∈ continued, call.Fits fields) (fuel : Nat) :
    ∃ built last built' last',
      buildAfter (fuel + 5) decl.name (calls ++ .reset :: continued) (World.load (Project.weaveAll {} units).1) =
        (.ok (.ref built), last) ∧
      buildAfter (fuel + 5) decl.name continued (World.load (Project.weaveAll {} units).1) =
        (.ok (.ref built'), last') ∧
      ∀ field ∈ fields, ∃ value, readField (fuel + 5) (.ref built) field.name last = (.ok value, last) ∧
        readField (fuel + 5) (.ref built') field.name last' = (.ok value, last') := by
  have shapes : ∀ field ∈ decl.fields, fieldShape (TypeTable.ofUnits units) true field = .plain := fun field listed =>
    fieldShape_of_kind unnamed (data.kinds field listed)
  have sound := data.sound concrete shapes (some true)
  obtain ⟨outer, inner, housed⟩ := houses_weaveAll there alone data only shapes
  have loaded : (defaultPlan (TypeTable.ofUnits units) decl (some true)).Housed (stampAt note.origin.span)
      before.length (World.load (Project.weaveAll {} units).1).classes outer inner := housed
  have whole : fields = (defaultPlan (TypeTable.ofUnits units) decl (some true)).fields.held := by
    rw [held, BuilderFields.held, sound.required, sound.optional]
    rfl
  subst whole
  have all : ∀ call ∈ calls ++ .reset :: continued,
      call.Fits (defaultPlan (TypeTable.ofUnits units) decl (some true)).fields.held := by
    intro call listed
    rcases List.mem_append.mp listed with listed | listed
    · exact fits call listed
    · rcases List.mem_cons.mp listed with rfl | listed
      · exact .reset
      · exact fits' call listed
  obtain ⟨built, last, ran, holds⟩ := sound.holds_buildAfter loaded rfl rfl all fuel
  obtain ⟨built', last', ran', holds'⟩ := sound.holds_buildAfter loaded rfl rfl fits' fuel
  rw [List.foldl_append, List.foldl_cons] at holds
  exact ⟨built, last, built', last', ran, ran', fun field listed =>
    ⟨_, settle_ok (run_fieldOf (holds field listed)), settle_ok (run_fieldOf (holds' field listed))⟩⟩

end JavaWeave.Weave
