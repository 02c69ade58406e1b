import JavaWeave.Proofs.Builder.Assignments
import JavaWeave.Proofs.Weave.Standing
import Mathlib.Data.List.Nodup

/-! The types of a builder enforce its protocol. Whoever calls nothing but the methods of its interfaces, each on
what the call before returned, gives all required fields before building, and again after each reset. -/

namespace JavaWeave.Weave

open Syntax

/-- The types that a class has gained. -/
def addedTypes (before after : TypeDecl) : List TypeDecl := after.memberTypes.drop before.memberTypes.length

def addedInterfaces (before after : TypeDecl) : List TypeDecl := (addedTypes before after).filter (·.isInterface)

/-- Whether a method is the one that builds. -/
def IsBuild (method : Method) : Prop := method.name = "build" ∧ method.parameters = []

/-- Whether a method is the one that starts again. -/
def isReset (method : Method) : Bool := method.name == "reset" && method.parameters.isEmpty

/-- Calls of interface methods from a value of a type on, each on what the call before returned, up to a call that
builds. -/
inductive Chain (interfaces : List TypeDecl) : JavaType → List Method → Prop where
  | built {type : JavaType} {interface : TypeDecl} {method : Method} (declared : interface ∈ interfaces)
      (reached : interface.name = type.name) (optional : interface.name = "OptionalDef")
      (member : method ∈ interface.methods) (builds : IsBuild method) : Chain interfaces type [method]
  | called {type : JavaType} {interface : TypeDecl} {method : Method} {calls : List Method}
      (declared : interface ∈ interfaces) (reached : interface.name = type.name)
      (member : method ∈ interface.methods) (rest : Chain interfaces method.returnType calls) :
      Chain interfaces type (method :: calls)

/-- The calls behind the last reset, all of them if there is none. -/
def sinceReset : List Method → List Method
  | [] => []
  | method :: rest =>
    if rest.any isReset then sinceReset rest else if isReset method then rest else method :: rest

/-- A field that has to be given: it is no excluded one, has no initial value, and is final or must not be
null. -/
def isRequired (excluded : List String) (field : Field) : Bool :=
  !(field.isStatic || Text.startsWith field.name "$" || excluded.contains field.name)
    && field.initial.isNone && (field.isFinal || nonNullAnnotations.any (annotated field.annotations))

def requiredFields (excluded : List String) (type : TypeDecl) : List Field :=
  type.fields.filter (isRequired excluded)

/-- A setter of a field. -/
def Sets (leading : String) (field : Field) (method : Method) : Prop :=
  method.name = Names.camelCase leading field.name ∧ method.parameters.map (·.type) = [field.type]

/-- No parameter of a method and no variable in its body has the name. -/
def Unhidden (method : Method) (name : String) : Prop :=
  name ∉ method.parameters.map (·.name) ∧ ∀ part, Holds (.block method.body) part → ¬ IsVariable name part

/-- A call of an extension of the class whose body has an assignment to each field, or at least to a variable that has
the name of the field. -/
def GivesAll (type : TypeDecl) (fields : List Field) (method : Method) : Prop :=
  ∃ extension ∈ type.methods, annotated extension.annotations extensionNote = true ∧
    method.name = extension.name ∧ method.parameters = extension.parameters ∧
    (∀ field ∈ fields, Assigns extension.body field.name) ∧
    ∀ field ∈ fields, Unhidden extension field.name →
      AssignsField (extension.parameters.map (·.name)) (.block extension.body) field.name

/-- The calls have the setters of the fields among them, in their order, or an extension that assigns all
of the class's required ones. -/
def Gives (leading : String) (type : TypeDecl) (required fields : List Field) (calls : List Method) : Prop :=
  List.SublistForall₂ (Sets leading) fields calls ∨ ∃ method ∈ calls, GivesAll type required method

theorem fieldRole_eq_required {excluded : List String} {shape : FieldShape} {field : Field} :
    fieldRole excluded shape field = .required ↔ isRequired excluded field = true := by
  simp only [fieldRole, isRequired]
  grind

theorem filterMap_indexed {α β : Type} (f : α → Option β) (items : List α) :
    (indexed items).filterMap (fun item => f item.2) = items.filterMap f := by
  have whole := congrArg (List.filterMap f) (map_indexed id items)
  rwa [List.filterMap_map, List.map_id] at whole

theorem sublist_filterMap {α β γ : Type} {part? : α → Option β} {view : β → γ} {view' : α → γ}
    (same : ∀ item part, part? item = some part → view part = view' item) (items : List α) :
    ((items.filterMap part?).map view).Sublist (items.map view') := by
  induction items with
  | nil => exact .slnil
  | cons item rest inductionHypothesis =>
    rw [List.filterMap_cons]
    cases found : part? item with
    | none => exact inductionHypothesis.cons _
    | some part =>
      rw [List.map_cons, List.map_cons, same item part found]
      exact inductionHypothesis.cons_cons _

/-- Fields that are held for their role are told apart as the fields of the class are. -/
theorem nodup_by_role {fields : List Field} (role : Field → FieldRole) (make : Nat × Field → BuilderField)
    (named : ∀ item, (make item).name = item.2.name) (distinct : (fields.map (·.name)).Nodup) :
    (((indexed fields).filterMap (fun item => if role item.2 = .required then some (make item) else none) ++
      (indexed fields).filterMap fun item => if role item.2 = .optional then some (make item) else none).map
        (·.name)).Nodup := by
  rw [← map_indexed (fun field : Field => field.name) fields] at distinct
  have same (wanted : FieldRole) (item : Nat × Field) (held : BuilderField)
      (found : (if role item.2 = wanted then some (make item) else none) = some held) : held.name = item.2.name := by
    simp only [Option.ite_none_right_eq_some, Option.some.injEq] at found
    rw [← found.2, named]
  rw [List.map_append, List.nodup_append]
  refine ⟨distinct.sublist (sublist_filterMap (same .required) _),
    distinct.sublist (sublist_filterMap (same .optional) _), ?_⟩
  rintro name taken _ taken' rfl
  obtain ⟨held, member, rfl⟩ := List.mem_map.mp taken
  obtain ⟨held', member', agree⟩ := List.mem_map.mp taken'
  obtain ⟨item, listed, found⟩ := List.mem_filterMap.mp member
  obtain ⟨item', listed', found'⟩ := List.mem_filterMap.mp member'
  rw [same .required item held found, same .optional item' held' found'] at agree
  obtain rfl := List.inj_on_of_nodup_map distinct listed' listed agree
  -- one field does not have both roles
  rw [Option.ite_none_right_eq_some] at found found'
  exact nomatch found.1.symm.trans found'.1

namespace BuilderFields

variable (types : TypeTable) (excluded : List String) (convenient : Bool) (type : TypeDecl)

/-- The required fields of a builder are those of its class. -/
theorem classify_required :
    (classify types excluded convenient type).required.map (fun field => (field.name, field.type)) =
      (requiredFields excluded type).map fun field => (field.name, field.type) := by
  have each (field : Nat × Field) : Option.map (fun held : BuilderField => (held.name, held.type))
      (if fieldRole excluded (fieldShape types convenient field.2) field.2 = .required then
        some { index := field.1, name := field.2.name, type := field.2.type, initial := field.2.initial,
               shape := fieldShape types convenient field.2 }
      else none) =
        if isRequired excluded field.2 then some (field.2.name, field.2.type) else none := by
    simp only [fieldRole_eq_required]
    split <;> rfl
  simp only [classify, List.map_filterMap, each]
  rw [filterMap_indexed fun field => if isRequired excluded field then some (field.name, field.type) else none,
    requiredFields, ← List.filterMap_eq_map', List.filterMap_filter]

/-- Required fields have no value to fill bit by bit. -/
theorem classify_shape {field : BuilderField}
    (member : field ∈ (classify types excluded convenient type).required) : field.shape = .plain := by
  obtain ⟨⟨index, declared⟩, -, made⟩ := List.mem_filterMap.mp member
  simp only [fieldRole_eq_required, Option.ite_none_right_eq_some, Option.some.injEq] at made
  obtain ⟨required, rfl⟩ := made
  simp only [isRequired, Bool.and_eq_true, Option.isNone_iff_eq_none] at required
  simp [fieldShape, required.1.2]

theorem nodup_held (distinct : (type.fields.map (·.name)).Nodup) :
    ((classify types excluded convenient type).held.map (·.name)).Nodup :=
  nodup_by_role (fun field => fieldRole excluded (fieldShape types convenient field) field)
    (fun item => { index := item.1, name := item.2.name, type := item.2.type, initial := item.2.initial,
                   shape := fieldShape types convenient item.2 })
    (fun _ => rfl) distinct

end BuilderFields

namespace BuilderPlan

variable (plan : BuilderPlan)

/-- The place of the interface of the optional fields. -/
def lastPlace : Nat := plan.fields.required.length

theorem stepNames_length : plan.stepNames.length = plan.lastPlace + 1 := by
  simp [stepNames, BuilderFields.stepNames, lastPlace]

theorem getElem?_stepNames_lastPlace : plan.stepNames[plan.lastPlace]? = some optionalName := by
  simp [stepNames, BuilderFields.stepNames, lastPlace]

theorem stepType_name {place : Nat} (inside : place ≤ plan.lastPlace) :
    plan.stepNames[place]? = some (plan.stepType place).name := by
  have : place < plan.stepNames.length := by rw [stepNames_length]; omega
  simp [stepType, generic, List.getElem?_eq_getElem this]

theorem getElem?_indexed {α : Type} (items : List α) (index : Nat) :
    (indexed items)[index]? = items[index]?.map fun item => (index, item) := by
  rw [indexed, List.getElem?_map, List.getElem?_zipIdx, Option.map_map]
  cases items[index]? <;> simp

theorem getElem?_requiredInterfaces (extensions : List Extension) (place : Nat) :
    (plan.requiredInterfaces extensions)[place]? = plan.fields.required[place]?.map fun field =>
      ⟨Names.capitalize field.name ++ "Def",
        (if place = 0 then extensions.filter (·.givesRequired) else []).map plan.extensionStep
          ++ plan.setterSteps field (plan.stepType (place + 1))⟩ := by
  rw [requiredInterfaces, List.getElem?_map, getElem?_indexed, BuilderFields.stepNames, List.zip,
    List.getElem?_zipWith, List.getElem?_map]
  cases plan.fields.required[place]? <;> rfl

theorem allInterfaces_names (forwarding : List Step) :
    (plan.allInterfaces forwarding).map (·.name) = plan.stepNames := by
  rw [allInterfaces, List.map_append, stepNames, BuilderFields.stepNames]
  refine congrArg₂ (· ++ ·) (List.ext_getElem? fun place => ?_) rfl
  rw [List.getElem?_map, getElem?_requiredInterfaces, List.getElem?_map, Option.map_map]
  rfl

/-- What a call on the interface at a place can be, and the place it leads to; none for what has been built. -/
inductive Moves (plan : BuilderPlan) : Nat → Method → Option Nat → Prop where
  | given {place : Nat} {field : BuilderField} {method : Method} (next : plan.fields.required[place]? = some field)
      (name : method.name = plan.setterName field.name) (parameters : method.parameters.map (·.type) = [field.type]) :
      Moves plan place method (some (place + 1))
  | replaced {extension : Extension} {method : Method} (usable : extension ∈ plan.extensions.usable)
      (gives : extension.givesRequired = true) (name : method.name = extension.method.name)
      (parameters : method.parameters = extension.method.parameters) :
      Moves plan 0 method (some plan.lastPlace)
  | kept {method : Method} (stays : isReset method = false) (unbuilt : ¬ IsBuild method) :
      Moves plan plan.lastPlace method (some plan.lastPlace)
  | restarted {method : Method} (again : isReset method = true) : Moves plan plan.lastPlace method (some 0)
  | built {method : Method} (builds : IsBuild method) : Moves plan plan.lastPlace method none

/-- The type at a place, or that of what has been built. -/
def arrival (plan : BuilderPlan) : Option Nat → JavaType
  | some place => plan.stepType place
  | none => plan.owner.selfType

theorem Moves.of_alike {place : Nat} {next : Option Nat} {method written : Method}
    (moves : plan.Moves place method next) (alike : Alike method written) : plan.Moves place written next := by
  cases moves with
  | given next name parameters => exact .given next (alike.name.trans name) (by rw [alike.parameters, parameters])
  | replaced usable gives name parameters =>
    exact .replaced usable gives (alike.name.trans name) (alike.parameters.trans parameters)
  | kept stays unbuilt =>
    exact .kept (by rwa [isReset, alike.name, alike.parameters]) (by rwa [IsBuild, alike.name, alike.parameters])
  | restarted again => exact .restarted (by rwa [isReset, alike.name, alike.parameters])
  | built builds => exact .built (by rwa [IsBuild, alike.name, alike.parameters])

variable {plan}

theorem Moves.inside {place next : Nat} {method : Method} (moves : plan.Moves place method (some next)) :
    next ≤ plan.lastPlace := by
  cases moves with
  | given found => exact (List.getElem?_eq_some_iff.mp found).1
  | replaced | kept => exact Nat.le_refl _
  | restarted => exact Nat.zero_le _

/-- The setters of a field take something and return what they are asked to return. -/
theorem mem_setterSteps {field : BuilderField} {returns : JavaType} {step : Step}
    (member : step ∈ plan.setterSteps field returns) :
    step.signature.returnType = returns ∧ step.signature.parameters ≠ [] := by
  rw [setterSteps] at member
  split at member
  · cases List.mem_singleton.mp member
    exact ⟨rfl, List.cons_ne_nil _ _⟩
  all_goals
    -- one element, or many
    rcases List.mem_cons.mp member with rfl | member
    · exact ⟨rfl, List.cons_ne_nil _ _⟩
    · cases List.mem_singleton.mp member
      exact ⟨rfl, List.cons_ne_nil _ _⟩

theorem mem_extensions {extension : Extension} (usable : extension ∈ plan.extensions.usable) :
    extension.method ∈ plan.owner.methods ∧ annotated extension.method.annotations extensionNote = true ∧
      judgeExtension plan.owner plan.fields.requiredNames extension.method = .usable extension.givesRequired := by
  obtain ⟨⟨index, method⟩, listed, made⟩ := List.mem_filterMap.mp usable
  simp only [usable?, verdict?] at made
  split at made
  · rename_i judged
    cases made
    simp only [Option.ite_none_right_eq_some, Option.some.injEq] at judged
    exact ⟨List.mem_of_getElem? (mem_indexed.mp listed), judged⟩
  · cases made

/-- Whatever an interface declares leads to the place that its type names. -/
theorem moves_of_step (plain : ∀ field ∈ plan.fields.required, field.shape = .plain)
    (proper : ∀ method ∈ plan.owner.methods, annotated method.annotations extensionNote = true →
      method.name ≠ "build" ∧ method.name ≠ "reset")
    {place : Nat} {interface : StepInterface} (listed : (plan.allInterfaces [])[place]? = some interface) {step : Step}
    (member : step ∈ interface.steps) :
    ∃ next, plan.Moves place step.declaration next ∧ step.signature.returnType = plan.arrival next := by
  have extended {extension : Extension} (usable : extension ∈ plan.extensions.usable) :
      isReset extension.method = false ∧ ¬ IsBuild extension.method := by
    obtain ⟨own, noted, -⟩ := mem_extensions usable
    obtain ⟨noBuild, noReset⟩ := proper _ own noted
    exact ⟨by simp [isReset, noReset], fun builds => noBuild builds.1⟩
  have optional : plan.optionalType = plan.stepType plan.lastPlace := by
    rw [stepType, getElem?_stepNames_lastPlace]
    rfl
  rw [allInterfaces, List.getElem?_append] at listed
  have length : (plan.requiredInterfaces plan.extensions.usable).length = plan.lastPlace := by
    simp [requiredInterfaces, indexed, BuilderFields.stepNames, lastPlace]
  rw [length] at listed
  split at listed
  · rename_i before
    rw [getElem?_requiredInterfaces] at listed
    obtain ⟨field, found, rfl⟩ := Option.map_eq_some_iff.mp listed
    rcases List.mem_append.mp member with member | member
    · obtain ⟨extension, chosen, rfl⟩ := List.mem_map.mp member
      split at chosen
      · subst place
        obtain ⟨usable, gives⟩ := List.mem_filter.mp chosen
        exact ⟨_, .replaced usable gives rfl rfl, optional⟩
      · cases chosen
    · rw [setterSteps, plain field (List.mem_of_getElem? found)] at member
      cases List.mem_singleton.mp member
      exact ⟨_, .given found rfl rfl, rfl⟩
  · rename_i behind
    obtain ⟨inside, rfl⟩ := List.getElem?_eq_some_iff.mp listed
    have last : place = plan.lastPlace := by
      rw [List.length_singleton] at inside
      omega
    subst last
    simp only [List.getElem_singleton, optionalInterface, List.append_nil] at member
    rcases List.mem_append.mp member with member | again
    · rcases List.mem_append.mp member with member | building
      · rcases List.mem_append.mp member with setting | extending
        · obtain ⟨field, -, setting⟩ := List.mem_flatMap.mp setting
          obtain ⟨returns, filled⟩ := mem_setterSteps setting
          refine ⟨_, .kept ?_ fun builds => filled builds.2, returns.trans optional⟩
          simp [isReset, Step.declaration, filled]
        · obtain ⟨extension, chosen, rfl⟩ := List.mem_map.mp extending
          obtain ⟨noReset, noBuild⟩ := extended (List.mem_filter.mp chosen).1
          exact ⟨_, .kept noReset noBuild, optional⟩
      · cases List.mem_singleton.mp building
        exact ⟨none, .built ⟨rfl, rfl⟩, rfl⟩
    · split at again
      · cases List.mem_singleton.mp again
        exact ⟨_, .restarted rfl, rfl⟩
      · cases again

end BuilderPlan

end JavaWeave.Weave
