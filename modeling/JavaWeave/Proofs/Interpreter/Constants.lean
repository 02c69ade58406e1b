import JavaWeave.Proofs.Interpreter.Keeping
import JavaWeave.Proofs.Interpreter.Loading

namespace JavaWeave.Interpreter

open Syntax

namespace ClassTable

/-- Classes are added, none of which is begun, and those that are there stay as they are declared. -/
structure Extends (before after : ClassTable) : Prop where
  size : before.infos.size ≤ after.infos.size
  state : ∀ id, (after.get id).state = (before.get id).state
  decl : ∀ id : ClassId, id.index < before.infos.size → (after.get id).decl = (before.get id).decl

namespace Extends

variable {before middle after : ClassTable}

theorem refl (table : ClassTable) : Extends table table := ⟨Nat.le_refl _, fun _ => rfl, fun _ _ => rfl⟩

theorem trans (first : Extends before middle) (second : Extends middle after) : Extends before after where
  size := Nat.le_trans first.size second.size
  state id := (second.state id).trans (first.state id)
  decl id there := (second.decl id (Nat.lt_of_lt_of_le there first.size)).trans (first.decl id there)

theorem modify (table : ClassTable) (id : ClassId) {change : ClassInfo → ClassInfo}
    (same : (change (table.get id)).state = (table.get id).state ∧
      (change (table.get id)).decl = (table.get id).decl) : Extends table (table.modify id change) := by
  have each (other : ClassId) : ((table.modify id change).get other).state = (table.get other).state ∧
      ((table.modify id change).get other).decl = (table.get other).decl := by
    rw [get_modify_cases]
    split
    · next equal => exact equal.1 ▸ same
    · exact ⟨rfl, rfl⟩
  exact ⟨by simp, fun other => (each other).1, fun other _ => (each other).2⟩

theorem add (table : ClassTable) {info : ClassInfo} (new : info.state = {}) : Extends table (table.add info) where
  size := by simp
  state id := by
    rw [get_add]
    split
    · next last => simp [get, Array.getElem?_eq_none (show table.infos.size ≤ id.index by omega), new]; rfl
    · rfl
  decl id there := by rw [get_add, if_neg (by omega)]

end Extends

mutual

theorem extends_register (table : ClassTable) (qualifiedName : String) (nesting : Nesting) (enclosing : List ClassId) :
    (type : TypeDecl) → Extends table (table.register qualifiedName nesting enclosing type)
  | ⟨_, _, _, _, _, _, _, _, _, _, _, _, _, memberTypes, _, _⟩ => by
    rw [register]
    exact (Extends.add table rfl).trans (extends_registerMembers _ _ _ _ memberTypes)

theorem extends_registerMembers (table : ClassTable) (owner : ClassId) (qualifiedName : String)
    (enclosing : List ClassId) :
    (types : List TypeDecl) → Extends table (table.registerMembers owner qualifiedName enclosing types)
  | [] => .refl table
  | type :: rest => by
    rw [registerMembers]
    refine (extends_register table (qualifiedName ++ "." ++ type.name) .member enclosing type).trans ?_
    exact (Extends.modify _ owner ⟨rfl, rfl⟩).trans (extends_registerMembers _ owner qualifiedName enclosing rest)

end

theorem withBase_same (table : ClassTable) (context : ClassId) (base : JavaType) (info : ClassInfo) :
    (table.withBase context base info).state = info.state ∧ (table.withBase context base info).decl = info.decl := by
  unfold withBase
  split
  · exact ⟨rfl, rfl⟩
  · split <;> exact ⟨rfl, rfl⟩
  · split <;> exact ⟨rfl, rfl⟩

theorem extends_nested (table : ClassTable) (decl : TypeDecl) (outer : ClassId) (base : Option JavaType) :
    Extends table (table.nested decl outer base).2 := by
  simp only [nested]
  split
  · exact .refl table
  · have placed {after : ClassTable} (extended : Extends table after) (places : List (Nat × ClassId)) :
        Extends table { after with places } := ⟨extended.size, extended.state, extended.decl⟩
    refine placed ((extends_register ..).trans (.modify _ _ ?_)) _
    cases base with
    | none => exact ⟨rfl, rfl⟩
    | some base => exact withBase_same ..

theorem extends_load (units : List CompilationUnit) : Extends {} (load units) := by
  obtain ⟨entries, _, loaded⟩ := load_eq units
  rw [loaded]
  have enrolled : Extends {} (entries.foldl enroll {}) := by
    refine List.foldlRecOn (motive := Extends {}) _ _ (.refl _) fun table extended entry _ => ?_
    exact extended.trans (extends_register ..)
  refine List.foldlRecOn (motive := Extends {}) _ _ enrolled fun table extended id _ => ?_
  exact extended.trans (.modify table id ⟨rfl, rfl⟩)

end ClassTable

namespace World

/-- What each object stays, from the first address on. -/
def identities (world : World) : List (Option (ClassId × Option (String × Int32))) :=
  world.heap.objects.toList.map Object.identity

/-- The name and ordinal of an object that is a constant of a class. -/
def constantOf? (id : ClassId) (identity : Option (ClassId × Option (String × Int32))) : Option (String × Int32) :=
  identity.bind fun (type, constant) => if type = id then constant else none

/-- The objects that were made as constants of a class, in the order in which they were made, each with its name and
ordinal. -/
def made (world : World) (id : ClassId) : List (Address × String × Int32) :=
  world.identities.zipIdx.filterMap fun (identity, index) => (constantOf? id identity).map (⟨index⟩, ·)

/-- The constants that a class declares, each with its ordinal. -/
def declared (world : World) (id : ClassId) : List (String × Int32) :=
  (world.classes.get id).decl.constants.zipIdx.map fun (constant, ordinal) => (constant.name, Int32.ofNat ordinal)

/-- How far the static part of a class is initialized. -/
def stage (world : World) (id : ClassId) : Stage := (world.classes.get id).state.stage

/-- The constants of a class that exist so far. -/
def constants (world : World) (id : ClassId) : List Value := (world.classes.get id).state.constants

/-- All constants of a class are made and listed. -/
structure Complete (world : World) (id : ClassId) : Prop where
  made : (world.made id).map (·.2) = world.declared id
  listed : world.constants id = (world.made id).map fun entry => .ref entry.1

/-- The constants of a class are the first of the objects that were made for it, which are made in the order in which
they are declared: none before the class is begun, and all when it is done. -/
structure OrderlyAt (world : World) (id : ClassId) : Prop where
  made : (world.made id).map (·.2) <+: world.declared id
  listed : world.constants id <+: (world.made id).map fun entry => .ref entry.1
  untouched : world.stage id = .pending → world.made id = []
  complete : world.stage id = .done → world.Complete id

def Orderly (world : World) : Prop := ∀ id, world.OrderlyAt id

/-- Nothing has happened to the static part of a class. -/
structure Rests (id : ClassId) (before after : World) : Prop where
  stage : after.stage id = before.stage id
  constants : after.constants id = before.constants id
  made : after.made id = before.made id
  declared : after.declared id = before.declared id

theorem Rests.refl (id : ClassId) (world : World) : Rests id world world := ⟨rfl, rfl, rfl, rfl⟩

theorem Rests.trans {id : ClassId} {before middle after : World} (first : Rests id before middle)
    (second : Rests id middle after) : Rests id before after where
  stage := second.stage.trans first.stage
  constants := second.constants.trans first.constants
  made := second.made.trans first.made
  declared := second.declared.trans first.declared

theorem Rests.orderlyAt {id : ClassId} {before after : World} (rests : before.Rests id after)
    (orderly : before.OrderlyAt id) : after.OrderlyAt id where
  made := by rw [rests.made, rests.declared]; exact orderly.made
  listed := by rw [rests.constants, rests.made]; exact orderly.listed
  untouched pending := by rw [rests.made]; exact orderly.untouched (rests.stage ▸ pending)
  complete done := by
    obtain ⟨made, listed⟩ := orderly.complete (rests.stage ▸ done)
    exact ⟨by rw [rests.made, rests.declared, made], by rw [rests.constants, rests.made, listed]⟩

/-- For a class that is not begun, nothing was made. -/
theorem orderlyAt_of_pending {id : ClassId} {world : World} (pending : world.stage id = .pending)
    (unmade : world.made id = []) (unlisted : world.constants id = []) : world.OrderlyAt id where
  made := unmade ▸ List.nil_prefix
  listed := unlisted ▸ List.nil_prefix
  untouched _ := unmade
  complete done := nomatch pending.symm.trans done

theorem OrderlyAt.constants_of_pending {id : ClassId} {world : World} (orderly : world.OrderlyAt id)
    (pending : world.stage id = .pending) : world.constants id = [] := by
  have listed := orderly.listed
  rw [orderly.untouched pending] at listed
  exact List.prefix_nil.mp listed

/-- Only one class has to be looked at when nothing has happened to the others. -/
theorem Orderly.update {id : ClassId} {before after : World} (orderly : before.Orderly)
    (others : ∀ other, other ≠ id → before.Rests other after) (own : after.OrderlyAt id) : after.Orderly := by
  intro other
  by_cases same : other = id
  · exact same ▸ own
  · exact (others other same).orderlyAt (orderly other)

/-- A class that is not there is not begun. -/
theorem stage_absent {id : ClassId} {world : World} (absent : ¬ id.index < world.classes.infos.size) :
    world.stage id = .pending := by
  rw [stage, ClassTable.get_absent absent]
  rfl

theorem there_of_begun {id : ClassId} {world : World} (begun : world.stage id ≠ .pending) :
    id.index < world.classes.infos.size := by
  by_contra absent
  exact begun (stage_absent absent)

theorem made_eq {before after : World} (same : after.identities = before.identities) (id : ClassId) :
    after.made id = before.made id := by
  rw [made, made, same]

theorem identities_grown (world : World) (object : Object) :
    (world.grown object).identities = world.identities ++ [object.identity] := by
  simp [identities, grown, Heap.allocate]

theorem made_grown (world : World) (object : Object) (id : ClassId) :
    (world.grown object).made id =
      world.made id ++ ((constantOf? id object.identity).map (world.frontier, ·)).toList := by
  have length : world.identities.length = world.heap.objects.size := by simp [identities]
  rw [made, made, identities_grown, List.zipIdx_append, List.filterMap_append, length]
  cases found : constantOf? id object.identity <;> simp [found, frontier]

theorem identities_stored {world : World} {address : Address} {old : Object}
    (there : world.heap.get? address = some old) {new : Object} (same : new.identity = old.identity) :
    ({ world with heap := world.heap.set address new } : World).identities = world.identities := by
  apply List.ext_getElem?
  intro index
  have was : world.heap.objects[address.index]? = some old := there
  simp only [identities, Heap.set, Array.toList_setIfInBounds, List.map_set, List.getElem?_set, List.getElem?_map,
    Array.getElem?_toList]
  split
  · next equal =>
    subst equal
    obtain ⟨within, found⟩ := Array.getElem?_eq_some_iff.mp was
    simp [same, within, found]
  · rfl

end World

/-- A run that starts in an orderly world ends in one, and leaves the classes alone that are begun. -/
def Advances (before after : World) : Prop :=
  before.Orderly → after.Orderly ∧ ∀ id, before.stage id ≠ .pending → before.Rests id after

theorem advances_of_rests {before after : World} (rests : ∀ id, before.Rests id after) : Advances before after :=
  fun orderly => ⟨fun id => (rests id).orderlyAt (orderly id), fun id _ => rests id⟩

theorem advances_grown (world : World) (object : Object)
    (plain : ∀ id, World.constantOf? id object.identity = none) : Advances world (world.grown object) :=
  advances_of_rests fun id => ⟨rfl, rfl, by simp [World.made_grown, plain], rfl⟩

theorem advances_atDepth (world : World) (depth : Nat) : Advances world (world.atDepth depth) :=
  advances_of_rests fun _ => ⟨rfl, rfl, rfl, rfl⟩

/-- Classes that are added are not begun, and nothing was made for them. -/
theorem advances_entered (world : World) {classes : ClassTable} (extended : world.classes.Extends classes) :
    Advances world { world with classes } := by
  have stage (id : ClassId) : ({ world with classes } : World).stage id = world.stage id :=
    congrArg ClassState.stage (extended.state id)
  have constants (id : ClassId) : ({ world with classes } : World).constants id = world.constants id :=
    congrArg ClassState.constants (extended.state id)
  have rests (id : ClassId) (there : id.index < world.classes.infos.size) :
      world.Rests id { world with classes } :=
    ⟨stage id, constants id, rfl, by simp [World.declared, extended.decl id there]⟩
  refine fun orderly => ⟨fun id => ?_, fun id begun => rests id (World.there_of_begun begun)⟩
  by_cases there : id.index < world.classes.infos.size
  · exact (rests id there).orderlyAt (orderly id)
  · have pending := World.stage_absent there
    refine World.orderlyAt_of_pending ((stage id).trans pending) ((orderly id).untouched pending) ?_
    exact (constants id).trans ((orderly id).constants_of_pending pending)

namespace World

variable {world : World}

/-- The world in which the state of one class is another. -/
def withState (world : World) (owner : ClassId) (change : ClassState → ClassState) : World :=
  { world with classes := world.classes.modifyState owner change }

theorem made_withState (owner id : ClassId) (change : ClassState → ClassState) :
    (world.withState owner change).made id = world.made id := rfl

theorem declared_withState (owner id : ClassId) (change : ClassState → ClassState) :
    (world.withState owner change).declared id = world.declared id := by
  simp only [declared, withState, ClassTable.modifyState, ClassTable.get_modify_cases]
  split
  · next equal => rw [equal.1]
  · rfl

theorem state_withState (owner id : ClassId) (change : ClassState → ClassState) :
    ((world.withState owner change).classes.get id).state =
      if id = owner ∧ owner.index < world.classes.infos.size then change (world.classes.get id).state
      else (world.classes.get id).state := by
  simp only [withState, ClassTable.modifyState, ClassTable.get_modify_cases]
  split
  · next equal => rw [equal.1]
  · rfl

end World

theorem advances_withState (world : World) (owner : ClassId) {change : ClassState → ClassState}
    (same : ∀ state, (change state).stage = state.stage ∧ (change state).constants = state.constants) :
    Advances world (world.withState owner change) := by
  have state (id : ClassId) : (world.withState owner change).stage id = world.stage id ∧
      (world.withState owner change).constants id = world.constants id := by
    simp only [World.stage, World.constants, World.state_withState]
    split
    · exact same _
    · exact ⟨rfl, rfl⟩
  exact advances_of_rests fun id => ⟨(state id).1, (state id).2, rfl, World.declared_withState owner id change⟩

instance : Tolerant Advances where
  refl _ orderly := ⟨orderly, fun id _ => .refl id _⟩
  trans first second orderly := by
    obtain ⟨between, rests⟩ := first orderly
    obtain ⟨final, rests'⟩ := second between
    refine ⟨final, fun id begun => (rests id begun).trans (rests' id ?_)⟩
    rwa [(rests id begun).stage]
  grown world object plain := advances_grown world object fun id => by rw [plain]; rfl
  stored there new same :=
    advances_of_rests fun id => ⟨rfl, rfl, World.made_eq (World.identities_stored there same) id, rfl⟩
  printed _ _ := advances_of_rests fun _ => ⟨rfl, rfl, rfl, rfl⟩
  assigned world owner name value := advances_withState world owner fun _ => ⟨rfl, rfl⟩
  entered world decl outer base := advances_entered world (world.classes.extends_nested decl outer base)

end JavaWeave.Interpreter
