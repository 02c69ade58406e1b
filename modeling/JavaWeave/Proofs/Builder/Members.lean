import JavaWeave.Proofs.Builder.Weaving
import JavaWeave.Proofs.Interpreter.Making

/-! Which fields a builder has, and which methods calls on it and on its class find: the setter of each field, the step
that builds, the entry, and the methods that give initial values. -/

namespace JavaWeave.Weave

open Syntax Interpreter

/-- A plan for a class whose fields are numbers, truth values and texts, with names that do not get in each
other's way. -/
structure BuilderPlan.Sound (plan : BuilderPlan) : Prop extends plan.Plain where
  leading : plan.leading = ""
  concrete : plan.owner.modifiers.has .abstract = false
  simple : '.' ∉ plan.owner.name.toList
  ordinary : plan.owner.name ≠ "super"
  distinct : (plan.owner.fields.map (·.name)).Nodup
  apart : ∀ field ∈ plan.owner.fields, field.name ≠ plan.owner.name
  kinds : ∀ field ∈ plan.owner.fields, OfKind field.type (.zero field.type)
  literals : ∀ field ∈ plan.owner.fields, ∀ value, field.initial = some (.literal value) →
    OfKind field.type (.ofLiteral value)

namespace BuilderPlan

variable {plan : BuilderPlan}

/-- The builder as it is written into the class. -/
def builder (plan : BuilderPlan) (stamp : Origin → Origin) : TypeDecl :=
  (plan.builderDecl (plan.allInterfaces [])).restamp stamp

namespace Sound

variable (sound : plan.Sound)
include sound

/-- A field that is held is one of the class. -/
theorem declared {field : BuilderField} (held : field ∈ plan.fields.held) :
    ∃ declared, plan.owner.fields[field.index]? = some declared ∧
      field = { index := field.index, name := declared.name, type := declared.type, initial := declared.initial,
                shape := .plain } := by
  rw [BuilderFields.held, sound.required, sound.optional] at held
  rcases List.mem_append.mp held with held | held
  · obtain ⟨declared, there, -, whole⟩ := Plain.mem_heldFields held
    exact ⟨declared, there, whole⟩
  · obtain ⟨declared, there, -, whole⟩ := Plain.mem_heldFields held
    exact ⟨declared, there, whole⟩

/-- No two of them have one name. -/
theorem held_ext {first second : BuilderField} (held : first ∈ plan.fields.held) (held' : second ∈ plan.fields.held)
    (same : first.name = second.name) : first = second := by
  obtain ⟨declared, there, whole⟩ := sound.declared held
  obtain ⟨declared', there', whole'⟩ := sound.declared held'
  obtain ⟨inside, -⟩ := List.getElem?_eq_some_iff.mp there
  have names : (plan.owner.fields.map (·.name))[first.index]? = (plan.owner.fields.map (·.name))[second.index]? := by
    rw [List.getElem?_map, List.getElem?_map, there, there']
    rw [whole, whole'] at same
    exact congrArg some same
  have place := (List.getElem?_inj (by rwa [List.length_map]) sound.distinct).mp names
  rw [whole, whole', ← place]
  rw [← place, there] at there'
  cases there'
  rfl

theorem ofKind_zero {field : BuilderField} (held : field ∈ plan.fields.held) : OfKind field.type (.zero field.type) := by
  obtain ⟨declared, there, whole⟩ := sound.declared held
  rw [whole]
  exact sound.kinds declared (List.mem_of_getElem? there)

theorem name_ne {field : BuilderField} (held : field ∈ plan.fields.held) : field.name ≠ plan.owner.name := by
  obtain ⟨declared, there, whole⟩ := sound.declared held
  rw [whole]
  exact sound.apart declared (List.mem_of_getElem? there)

/-- An initial value is a literal of the kind of its field. -/
theorem initial_literal {field : BuilderField} (held : field ∈ plan.fields.held) {e : Expression}
    (initial : field.initial = some e) : ∃ value, e = .literal value ∧ OfKind field.type (.ofLiteral value) := by
  obtain ⟨declared, there, whole⟩ := sound.declared held
  have listed := List.mem_of_getElem? there
  rw [whole] at initial ⊢
  obtain ⟨value, rfl⟩ := sound.owner.literal declared listed e initial
  exact ⟨value, rfl, sound.literals declared listed value initial⟩

theorem distinct_held : (plan.fields.held.map (·.name)).Nodup := by
  rw [BuilderFields.held, sound.required, sound.optional]
  exact nodup_by_role (fieldRole [] .plain)
    (fun item =>
      { index := item.1, name := item.2.name, type := item.2.type, initial := item.2.initial, shape := .plain })
    (fun _ => rfl) sound.distinct

variable {stamp : Origin → Origin}

/-- A call on the builder runs one of its steps. -/
theorem mem_methods {method : Method} (member : method ∈ (plan.builder stamp).methods) :
    ∃ step, plan.PlainStep step ∧ method = step.implementation.restamp stamp := by
  obtain ⟨written, among, rfl⟩ := List.mem_map.mp member
  obtain ⟨interface, listed, among⟩ := List.mem_flatMap.mp among
  obtain ⟨step, own, rfl⟩ := List.mem_map.mp among
  exact ⟨step, sound.plainStep listed own, rfl⟩

omit sound in
theorem mem_methods_of {interface : StepInterface} (listed : interface ∈ plan.allInterfaces []) {step : Step}
    (own : step ∈ interface.steps) : step.implementation.restamp stamp ∈ (plan.builder stamp).methods :=
  List.mem_map_of_mem (List.mem_flatMap.mpr ⟨interface, listed, List.mem_map_of_mem own⟩)

omit sound in
/-- A step has a body and is run on a builder. -/
theorem bound_implementation {step : Step} (plainStep : plan.PlainStep step) :
    (step.implementation.restamp stamp).isAbstract = false ∧ (step.implementation.restamp stamp).isStatic = false := by
  have modifiers : (({} : Modifiers).withAccess .publicAccess).has .abstract = false ∧
      (({} : Modifiers).withAccess .publicAccess).has .static = false := by decide
  cases plainStep <;> exact modifiers

theorem setterName_eq (name : String) : plan.setterName name = name := by
  rw [setterName, sound.leading]
  rfl

/-- The setter of a field is found by the name of the field. -/
theorem find_setter {field : BuilderField} (held : field ∈ plan.fields.held) : ∃ method,
    (plan.builder stamp).methods.find? (fun method =>
      method.name == field.name && method.arity == 1 && !method.isAbstract) = some method ∧
        AssignsParameter method field.type field.name := by
  obtain ⟨interface, listed, returns, own⟩ := sound.exists_setter held
  cases found : (plan.builder stamp).methods.find? fun method =>
      method.name == field.name && method.arity == 1 && !method.isAbstract with
  | none =>
    have refused := List.find?_eq_none.mp found _ (mem_methods_of listed own)
    have fits : (((plan.setter field returns).implementation.restamp stamp).name == field.name &&
        ((plan.setter field returns).implementation.restamp stamp).arity == 1 &&
        !((plan.setter field returns).implementation.restamp stamp).isAbstract) = true := by
      have name : ((plan.setter field returns).implementation.restamp stamp).name = field.name :=
        sound.setterName_eq field.name
      rw [name, beq_self_eq_true, (bound_implementation (.setter held returns)).1]
      rfl
    exact absurd fits refused
  | some method =>
    refine ⟨method, rfl, ?_⟩
    obtain ⟨step, plainStep, rfl⟩ := sound.mem_methods (List.mem_of_find?_eq_some found)
    have fits := List.find?_some found
    simp only [Bool.and_eq_true, beq_iff_eq] at fits
    cases plainStep with
    | @setter other held' returns =>
      have same : other.name = field.name := (sound.setterName_eq other.name).symm.trans fits.1.1
      obtain rfl := sound.held_ext held' held same
      exact ⟨(bound_implementation (.setter held returns)).2, rfl, rfl⟩
    | build => cases fits.1.2
    | reset => cases fits.1.2

/-- A step that takes nothing is found by its name, which no other such step has. -/
theorem find_bare {step : Step} (plainStep : plan.PlainStep step) (bare : step.signature.parameters = [])
    {interface : StepInterface} (listed : interface ∈ plan.allInterfaces []) (own : step ∈ interface.steps) :
    (plan.builder stamp).methods.find? (fun method =>
      method.name == step.signature.name && method.arity == 0 && !method.isAbstract) =
        some (step.implementation.restamp stamp) := by
  cases found : (plan.builder stamp).methods.find? fun method =>
      method.name == step.signature.name && method.arity == 0 && !method.isAbstract with
  | none =>
    have refused := List.find?_eq_none.mp found _ (mem_methods_of listed own)
    have arity : (step.implementation.restamp stamp).arity = 0 := congrArg List.length bare
    have name : (step.implementation.restamp stamp).name = step.signature.name := rfl
    rw [(bound_implementation plainStep).1, arity, name, beq_self_eq_true] at refused
    exact absurd rfl refused
  | some method =>
    obtain ⟨other, plainOther, rfl⟩ := sound.mem_methods (List.mem_of_find?_eq_some found)
    have fits := List.find?_some found
    simp only [Bool.and_eq_true, beq_iff_eq] at fits
    obtain ⟨⟨name, arity⟩, -⟩ := fits
    cases plainOther with
    | setter held returns => cases arity
    | build =>
      cases plainStep with
      | setter held returns => cases bare
      | build => rfl
      | reset => exact absurd name (by decide : "build" ≠ "reset")
    | reset =>
      cases plainStep with
      | setter held returns => cases bare
      | build => exact absurd name (by decide : "reset" ≠ "build")
      | reset => rfl

/-- The step that builds is found by its name. -/
theorem find_build : (plan.builder stamp).methods.find? (fun method =>
    method.name == "build" && method.arity == 0 && !method.isAbstract) =
      some (plan.buildStep.implementation.restamp stamp) := by
  obtain ⟨interface, listed, own⟩ := Plain.exists_build
  exact sound.find_bare .build rfl listed own

/-- So is the one that starts again. -/
theorem find_reset (allowed : plan.allowReset = true) : (plan.builder stamp).methods.find? (fun method =>
    method.name == "reset" && method.arity == 0 && !method.isAbstract) =
      some (plan.resetStep.implementation.restamp stamp) := by
  obtain ⟨interface, listed, own⟩ := Plain.exists_reset allowed []
  exact sound.find_bare .reset rfl listed own

omit sound in
/-- The entry comes first among the methods of the class. -/
theorem find_entry (place : Nat) : (plan.product "create" stamp place).methods.find? (fun method =>
    method.name == "create" && method.arity == 0 && !method.isAbstract) =
      some ((plan.entryMethod "create").restamp stamp) := by
  have concrete : ((Modifiers.withAccess {} plan.access).insert .static).has .abstract = false := by
    cases plan.access <;> decide
  have whole : ((plan.entryMethod "create").restamp stamp).isAbstract = false := concrete
  refine List.find?_cons_of_pos ?_
  rw [whole]
  rfl

omit sound in
theorem static_entry : ((plan.entryMethod "create").restamp stamp).isStatic = true := by
  have static : ((Modifiers.withAccess {} plan.access).insert .static).has .static = true := by
    cases plan.access <;> decide
  exact static

/-- A method that gives a literal. -/
structure GivesInitial (method : Method) (type : JavaType) (e : Expression) : Prop where
  static : method.isStatic = true
  parameters : method.parameters = []
  returnType : method.returnType = type
  body : method.body = [.returns (some e)]

/-- The method that gives the initial value of a field is found by its name. -/
theorem find_default {field : BuilderField} (optional : field ∈ plan.fields.optional) {e : Expression}
    (initial : field.initial = some e) (allowed : plan.allowReset = true) (place : Nat) : ∃ method,
    (plan.product "create" stamp place).methods.find? (fun method =>
      method.name == defaultMethodName field.name && method.arity == 0 && !method.isAbstract) = some method ∧
        GivesInitial method field.type e := by
  have modifiers : (Modifiers.ofList [.privateAccess, .static]).has .abstract = false ∧
      (Modifiers.ofList [.privateAccess, .static]).has .static = true := by decide
  have other : ¬ "create" = defaultMethodName field.name := by
    intro same
    have first := congrArg (fun text => text.toList.head?) same
    simp [defaultMethodName] at first
  rw [product, List.map_cons, List.find?_cons_of_neg (by
    intro fits
    simp only [Bool.and_eq_true, beq_iff_eq] at fits
    exact other fits.1.1)]
  cases found : (plan.defaultMethods.map (·.restamp stamp)).find? fun method =>
      method.name == defaultMethodName field.name && method.arity == 0 && !method.isAbstract with
  | none =>
    have listed : plan.defaultMethod field e ∈ plan.defaultMethods := by
      rw [defaultMethods, if_pos allowed]
      exact List.mem_filterMap.mpr ⟨field, optional, by rw [initial]; rfl⟩
    have refused := List.find?_eq_none.mp found _ (List.mem_map_of_mem listed)
    have whole : ((plan.defaultMethod field e).restamp stamp).isAbstract = false := modifiers.1
    have name : ((plan.defaultMethod field e).restamp stamp).name = defaultMethodName field.name := rfl
    rw [whole, name, beq_self_eq_true] at refused
    exact absurd rfl refused
  | some method =>
    obtain ⟨written, among, rfl⟩ := List.mem_map.mp (List.mem_of_find?_eq_some found)
    rw [defaultMethods, if_pos allowed] at among
    obtain ⟨field', optional', given⟩ := List.mem_filterMap.mp among
    obtain ⟨e', initial', rfl⟩ := Option.map_eq_some_iff.mp given
    have fits := List.find?_some found
    simp only [Bool.and_eq_true, beq_iff_eq] at fits
    have same : field'.name = field.name := by
      have whole : defaultMethodName field'.name = defaultMethodName field.name := fits.1.1
      simpa [defaultMethodName] using whole
    obtain rfl := sound.held_ext (List.mem_append_right _ optional') (List.mem_append_right _ optional) same
    cases initial.symm.trans initial'
    exact ⟨_, rfl, modifiers.2, rfl, rfl, rfl⟩

end Sound

end BuilderPlan

end JavaWeave.Weave
