import JavaWeave.Proofs.Builder.Enforcement
import Mathlib.Data.List.Nodup
import Mathlib.Data.List.Perm.Subperm

/-! Which members of a builder are declared twice. The names of its types and methods are derived from fields,
extensions and forwarded methods, and nothing makes the derived names apart: the builder has each of them once where
they are. -/

namespace JavaWeave.Weave

open Syntax

/-- What tells the methods of a type apart. -/
def signature (method : Method) : String × List JavaType := (method.name, method.parameters.map (·.type))

theorem Alike.signature {method written : Method} (alike : Alike method written) :
    signature written = signature method := by
  rw [Weave.signature, alike.name, alike.parameters]
  rfl

theorem AlikeType.signatures {type written : TypeDecl} (alike : AlikeType type written) :
    written.methods.map signature = type.methods.map signature := by
  rw [← List.forall₂_eq_eq_eq, List.forall₂_map_left_iff, List.forall₂_map_right_iff]
  exact alike.methods.flip.imp fun _ _ same => same.signature

namespace BuilderPlan

variable (plan : BuilderPlan)

/-- No two interfaces get the same name. -/
structure InterfacesApart (plan : BuilderPlan) : Prop where
  required : (plan.fields.required.map fun field => Names.capitalize field.name).Nodup
  optional : "Optional" ∉ plan.fields.required.map fun field => Names.capitalize field.name

theorem stepNames_eq : plan.stepNames =
    ((plan.fields.required.map fun field => Names.capitalize field.name) ++ ["Optional"]).map (· ++ "Def") := by
  simp [stepNames, BuilderFields.stepNames, optionalName]

theorem stepNames_nodup_iff : plan.stepNames.Nodup ↔ plan.InterfacesApart := by
  have inj : Function.Injective (fun name : String => name ++ "Def") := fun _ _ same =>
    (String.append_left_inj _).mp same
  rw [stepNames_eq, List.nodup_map_iff inj, List.nodup_append_comm, List.singleton_append, List.nodup_cons]
  exact ⟨fun ⟨optional, required⟩ => ⟨required, optional⟩, fun apart => ⟨apart.optional, apart.required⟩⟩

theorem builderName_not_mem : plan.builderName ∉ plan.stepNames := by
  rw [stepNames_eq]
  intro member
  obtain ⟨name, -, same⟩ := List.mem_map.mp member
  have letters := congrArg (fun text => text.toList.getLast?) same
  simp [builderName, String.toList_append, List.getLast?_cons, List.getLast?_append] at letters

/-- The names of the setters of a field. -/
def setterNames (field : BuilderField) : List String :=
  match field.shape with
  | .plain => [plan.setterName field.name]
  | .collection | .map => [Names.singular (plan.setterName field.name), plan.setterName field.name]

theorem ne_extending (name : String) (type : JavaType) :
    type ≠ (JavaType.named name).apply [.extending type] := by
  intro same
  have own : type.arguments = [.extending type] := congrArg JavaType.arguments same
  have smaller := List.sizeOf_lt_of_mem (own ▸ List.mem_cons_self : JavaType.extending type ∈ type.arguments)
  obtain ⟨name, arguments, dimensions, wildcard⟩ := type
  simp [JavaType.extending] at smaller
  omega

/-- The setters of one field are told apart. -/
theorem setterSteps_nodup (field : BuilderField) (returns : JavaType) :
    ((plan.setterSteps field returns).map fun step => signature step.signature).Nodup := by
  have pair {first second : String × List JavaType} (apart : first.2 ≠ second.2) : [first, second].Nodup :=
    List.nodup_cons.mpr ⟨fun same => apart (congrArg Prod.snd (List.mem_singleton.mp same)), List.nodup_singleton _⟩
  rw [setterSteps]
  split
  · exact List.nodup_singleton _
  · -- one element has another type than the collection of many
    exact pair fun same => ne_extending _ _ (List.cons.inj same).1
  · -- one entry takes two arguments
    exact pair fun same => List.cons_ne_nil _ _ (List.cons.inj same).2

/-- What tells setters apart does not depend on what they return. -/
theorem signatures_setterSteps (field : BuilderField) (returns : JavaType) :
    (plan.setterSteps field returns).map (fun step => signature step.signature) =
      (plan.setterSteps field .void).map fun step => signature step.signature := by
  rw [setterSteps, setterSteps]
  cases field.shape <;> rfl

theorem names_setterSteps (field : BuilderField) (returns : JavaType) :
    (plan.setterSteps field returns).map (·.signature.name) = plan.setterNames field := by
  rw [setterSteps, setterNames]
  cases field.shape <;> rfl

theorem name_of_mem_setterSteps {field : BuilderField} {returns : JavaType} {step : Step}
    (member : step ∈ plan.setterSteps field returns) : step.signature.name ∈ plan.setterNames field :=
  plan.names_setterSteps field returns ▸ List.mem_map_of_mem member

/-- Nothing that a builder can be asked gets the name of something else. -/
structure CallsApart (plan : BuilderPlan) (forwarded : List String) : Prop where
  setters : plan.fields.held.Pairwise fun field other => (plan.setterNames field).Disjoint (plan.setterNames other)
  extensions : ∀ extension ∈ plan.extensions.usable,
    extension.method.name ≠ "build" ∧ extension.method.name ≠ "reset" ∧
      ∀ field ∈ plan.fields.held, extension.method.name ∉ plan.setterNames field
  distinct : forwarded.Nodup
  others : ∀ name ∈ forwarded, name ≠ "build" ∧ name ≠ "reset" ∧
    ∀ extension ∈ plan.extensions.usable, name ≠ extension.method.name

/-- The setters of all fields. -/
def setters (plan : BuilderPlan) : List (String × List JavaType) :=
  plan.fields.held.flatMap fun field => (plan.setterSteps field .void).map fun step => signature step.signature

/-- The extensions as methods of the builder. -/
def extended (plan : BuilderPlan) : List (String × List JavaType) :=
  plan.extensions.usable.map fun extension => signature extension.method

variable {plan} {forwarded : List String}

theorem of_mem_setters {call : String × List JavaType} (member : call ∈ plan.setters) :
    (∃ field ∈ plan.fields.held, call.1 ∈ plan.setterNames field) ∧ call.2 ≠ [] := by
  obtain ⟨field, held, inside⟩ := List.mem_flatMap.mp member
  obtain ⟨step, listed, rfl⟩ := List.mem_map.mp inside
  exact ⟨⟨field, held, plan.name_of_mem_setterSteps listed⟩,
    fun none => (mem_setterSteps listed).2 (List.map_eq_nil_iff.mp none)⟩

theorem nodup_setters (apart : plan.CallsApart forwarded) : plan.setters.Nodup := by
  refine List.nodup_flatMap.mpr ⟨fun field _ => plan.setterSteps_nodup field .void, apart.setters.imp ?_⟩
  intro field other disjoint call inside again
  obtain ⟨step, listed, rfl⟩ := List.mem_map.mp inside
  obtain ⟨step', listed', same⟩ := List.mem_map.mp again
  refine disjoint (plan.name_of_mem_setterSteps listed) ?_
  rw [show step.signature.name = step'.signature.name from (congrArg Prod.fst same).symm]
  exact plan.name_of_mem_setterSteps listed'

/-- Extensions are told apart as the methods of the class are. -/
theorem nodup_extended (methods : (plan.owner.methods.map signature).Nodup) : plan.extended.Nodup := by
  refine methods.sublist ?_
  rw [← map_indexed signature plan.owner.methods]
  refine sublist_filterMap (fun item extension found => ?_) _
  rw [usable?] at found
  split at found
  · cases found
    rfl
  · cases found

theorem signature_forwardingSteps (plan : BuilderPlan) (forwarded : List String) :
    ((plan.forwardingSteps forwarded).map fun step => signature step.signature).Sublist
      (forwarded.map fun name => (name, [])) := by
  refine sublist_filterMap (fun name step found => ?_) _
  obtain ⟨_, -, rfl⟩ := Option.map_eq_some_iff.mp found
  rfl

/-- All that a builder can be asked, one kind of method after the other. -/
def calls (plan : BuilderPlan) (forwarded : List String) : List (String × List JavaType) :=
  plan.setters ++ plan.extended ++ [("build", []), ("reset", [])] ++ forwarded.map fun name => (name, [])

theorem nodup_calls (methods : (plan.owner.methods.map signature).Nodup) (apart : plan.CallsApart forwarded) :
    (plan.calls forwarded).Nodup := by
  have forwards : (forwarded.map fun name => (name, ([] : List JavaType))).Nodup :=
    apart.distinct.map fun _ _ same => congrArg Prod.fst same
  refine (((nodup_setters apart).append (nodup_extended methods) ?_).append (by decide) ?_).append forwards ?_
  · intro call set extending
    obtain ⟨⟨field, held, named⟩, -⟩ := of_mem_setters set
    obtain ⟨extension, usable, rfl⟩ := List.mem_map.mp extending
    exact (apart.extensions extension usable).2.2 field held named
  · intro call before final
    have bare : call.2 = [] ∧ (call.1 = "build" ∨ call.1 = "reset") := by
      rcases List.mem_cons.mp final with rfl | final
      · exact ⟨rfl, .inl rfl⟩
      · rw [List.mem_singleton.mp final]
        exact ⟨rfl, .inr rfl⟩
    rcases List.mem_append.mp before with set | extending
    · exact (of_mem_setters set).2 bare.1
    · obtain ⟨extension, usable, rfl⟩ := List.mem_map.mp extending
      exact bare.2.elim (apart.extensions extension usable).1 (apart.extensions extension usable).2.1
  · intro call before forwards
    obtain ⟨name, listed, rfl⟩ := List.mem_map.mp forwards
    obtain ⟨build, reset, extensions⟩ := apart.others name listed
    rcases List.mem_append.mp before with before | final
    · rcases List.mem_append.mp before with set | extending
      · exact (of_mem_setters set).2 rfl
      · obtain ⟨extension, usable, same⟩ := List.mem_map.mp extending
        exact extensions extension usable (congrArg Prod.fst same).symm
    · simp [build, reset] at final

theorem signatures_extensionSteps (extensions : List Extension) :
    (extensions.map plan.extensionStep).map (fun step => signature step.signature) =
      extensions.map fun extension => signature extension.method := by
  rw [List.map_map]
  rfl

/-- The interfaces of the required fields declare their setters, and perhaps the extensions that give all of them. -/
theorem count_requiredInterfaces (call : String × List JavaType) :
    ((plan.requiredInterfaces plan.extensions.usable).flatMap fun interface =>
      interface.steps.map fun step => signature step.signature).count call ≤
    ((plan.extensions.usable.filter (·.givesRequired)).map fun extension => signature extension.method).count call +
      (plan.fields.required.flatMap fun field =>
        (plan.setterSteps field .void).map fun step => signature step.signature).count call := by
  have zipped (fields : List BuilderField) : fields.zip (fields.map fun field => Names.capitalize field.name ++ "Def") =
      fields.map fun field => (field, Names.capitalize field.name ++ "Def") := by
    induction fields with
    | nil => rfl
    | cons field rest ih => rw [List.map_cons, List.zip_cons_cons, ih, List.map_cons]
  rw [requiredInterfaces, BuilderFields.stepNames, zipped, indexed_map]
  cases plan.fields.required with
  | nil => exact Nat.zero_le _
  | cons field rest =>
    have plain : rest = (indexed rest).map fun item => item.2 := ((map_indexed id rest).trans (List.map_id rest)).symm
    -- behind the first place there are setters only
    conv => rhs; rw [plain]
    simp only [indexed_cons, List.map_cons, List.flatMap_cons, List.map_append, signatures_setterSteps, if_true,
      List.map_map, List.flatMap_map, Function.comp_def, Nat.succ_ne_zero, if_false, List.map_nil, List.nil_append,
      List.count_append, Nat.add_assoc]
    exact Nat.le_refl _

/-- The interfaces declare nothing else. -/
theorem count_declared_le (call : String × List JavaType) :
    ((plan.allInterfaces (plan.forwardingSteps forwarded)).flatMap fun interface =>
      interface.steps.map fun step => signature step.signature).count call ≤ (plan.calls forwarded).count call := by
  have required := plan.count_requiredInterfaces call
  have parted := (List.filter_append_perm (·.givesRequired) plan.extensions.usable).map
    (fun extension => signature extension.method) |>.count_eq call
  have final : ([plan.buildStep].map fun step => signature step.signature).count call +
      ((if plan.allowReset then [plan.resetStep] else []).map fun step => signature step.signature).count call ≤
        [("build", []), ("reset", [])].count call := by
    rw [← List.count_append]
    cases plan.allowReset
    · exact (List.Sublist.cons_cons _ (.cons _ .slnil)).count_le call
    · exact Nat.le_refl _
  have forwards := (signature_forwardingSteps plan forwarded).count_le call
  simp only [allInterfaces, optionalInterface, List.flatMap_append, List.flatMap_cons, List.flatMap_nil,
    List.append_nil, List.map_append, List.map_flatMap, signatures_setterSteps, signatures_extensionSteps, calls,
    setters, BuilderFields.held, extended, List.count_append] at *
  omega

/-- Where nothing gets the name of something else, no two declared methods are alike. -/
theorem nodup_declared (methods : (plan.owner.methods.map signature).Nodup) (apart : plan.CallsApart forwarded) :
    ((plan.allInterfaces (plan.forwardingSteps forwarded)).flatMap fun interface =>
      interface.steps.map fun step => signature step.signature).Nodup :=
  List.nodup_iff_count_le_one.mpr fun call =>
    Nat.le_trans (count_declared_le call) (List.nodup_iff_count_le_one.mp (nodup_calls methods apart) call)

end BuilderPlan

/-- The names of the types that a builder adds are apart just if those of its required fields are when they start with a
capital, and none of these is `Optional`. Where further no method gets its name from two places, none of the types
declares a method twice. -/
theorem builder_clash_free {setting : Setting} {target : Target} {type : TypeDecl}
    (applied : ((builderHandler.handle target).perform setting).1 = .ok (.applied type))
    (methods : (setting.decl.methods.map signature).Nodup) :
    ∃ plan excluded forwarded, Asks setting plan excluded forwarded ∧
      (((addedTypes setting.decl type).map (·.name)).Nodup ↔ plan.InterfacesApart) ∧
      (plan.CallsApart forwarded → ∀ added ∈ addedTypes setting.decl type, (added.methods.map signature).Nodup) := by
  obtain ⟨-, -, -, plan, excluded, forwarded, asks, -, committed⟩ :=
    (Handling.outcome_builder target type).mp ⟨_, Prod.ext applied rfl⟩
  rw [← asks.owner] at committed methods ⊢
  obtain ⟨interfaces, builder, added⟩ := added_of_commit committed
  refine ⟨plan, excluded, forwarded, asks, ?_, ?_⟩
  · have named : builder.name = plan.builderName := added.builder.name
    rw [added.addedTypes, List.map_append, added.names, List.map_singleton, named, List.nodup_append_comm,
      List.singleton_append, List.nodup_cons, and_iff_right plan.builderName_not_mem, plan.stepNames_nodup_iff]
  · intro apart
    rw [added.addedTypes]
    have declared := BuilderPlan.nodup_declared methods apart
    intro type member
    rcases List.mem_append.mp member with member | member
    · obtain ⟨planned, listed, alike⟩ := exists_of_forall₂ added.interfaces member
      rw [alike.signatures, BuilderPlan.interfaceDecl, List.map_map]
      exact (List.nodup_flatMap.mp declared).1 planned listed
    · rw [List.mem_singleton.mp member, added.builder.signatures, BuilderPlan.builderDecl, List.map_flatMap]
      simp only [List.map_map]
      exact declared

/-- A class with a required field that is named like the interface of the optional ones. -/
def choiceClass : TypeDecl where
  name := "Choice"
  fields := [{ modifiers := .ofList [.final], type := .named "int", name := "optional" }]

example : ∃ type,
    ((builderHandler.handle .type).perform
      { options := {}, types := {}, note := some { type := .named "Builder" }, file := "Choice.java", span := none,
        decl := choiceClass, site := none }).1 = .ok (.applied type) ∧
    (addedTypes choiceClass type).map (·.name) = ["OptionalDef", "OptionalDef", "$ChoiceBuilder"] :=
  ⟨_, rfl, rfl⟩

/-- A class with an extension that is named like the step that starts again. -/
def tallyClass : TypeDecl where
  name := "Tally"
  fields := [{ type := .named "int", name := "count", initial := some (.int 5) }]
  methods := [{ modifiers := .ofList [.privateAccess], annotations := [{ type := .named extensionNote }],
                returnType := .void, name := "reset" }]

example : ∃ type,
    ((builderHandler.handle .type).perform
      { options := { builder := some { allowReset := some true } }, types := {},
        note := some { type := .named "Builder" }, file := "Tally.java", span := none,
        decl := tallyClass, site := none }).1 = .ok (.applied type) ∧
    (addedTypes tallyClass type).map (·.methods.map signature) =
      [[("count", [.named "int"]), ("reset", []), ("build", []), ("reset", [])],
       [("count", [.named "int"]), ("reset", []), ("build", []), ("reset", [])]] :=
  ⟨_, rfl, rfl⟩

end JavaWeave.Weave
