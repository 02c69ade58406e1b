import JavaWeave.Proofs.Interpreter.Image
import JavaWeave.Proofs.Interpreter.Realm
import Mathlib.Data.List.Forall2

/-! Two worlds in which code that keeps to itself does the same on two objects. The second world follows the first:
what the object of the first makes, its copy makes too, at another place. -/

namespace JavaWeave.Interpreter

open Syntax

/-- How many objects have been made. -/
def World.size (world : World) : Nat := world.heap.objects.size

/-- Objects that code cannot tell apart at first sight: the same object, exceptions of one class with one message, or
two arrays. -/
inductive Object.Alike : Object → Object → Prop
  | same (object : Object) : Alike object object
  | exception {state state' : Throwable} (type : state'.type = state.type) (message : state'.message = state.message) :
      Alike (.throwable state) (.throwable state')
  | array (items items' : List Value) : Alike (.array items) (.array items')

/-- Values of two worlds that are the same or lead to the same object, to exceptions that are alike or to arrays with
items that are. -/
inductive Likens (world other : World) (like : Value → Value → Prop) : Value → Value → Prop
  | plain {value : Value} (plain : value.ref? = none) : Likens world other like value value
  | same {address : Address} {object : Object} (there : world.heap.get? address = some object)
      (there' : other.heap.get? address = some object) : Likens world other like (.ref address) (.ref address)
  | exception {address address' : Address} {state state' : Throwable}
      (there : world.heap.get? address = some (.throwable state))
      (there' : other.heap.get? address' = some (.throwable state')) (type : state'.type = state.type)
      (message : state'.message = state.message) (cause : like state.cause state'.cause) :
      Likens world other like (.ref address) (.ref address')
  | array {address address' : Address} {items items' : List Value}
      (there : world.heap.get? address = some (.array items))
      (there' : other.heap.get? address' = some (.array items')) (items : List.Forall₂ like items items') :
      Likens world other like (.ref address) (.ref address')

/-- Values of two worlds that code cannot tell apart when it follows so many references. -/
def ResemblesTo (world other : World) : Nat → Value → Value → Prop
  | 0 => fun _ _ => True
  | depth + 1 => Likens world other (ResemblesTo world other depth)

/-- Values of two worlds that code cannot tell apart, however far it looks. -/
def Resembles (world other : World) (value value' : Value) : Prop := ∀ depth, ResemblesTo world other depth value value'

/-- An object in one world and its copy in another, where code begins to run on both. -/
structure Mirror where
  realm : Realm
  /-- The object as it was made. Only what its fields hold may change. -/
  origin : Instance
  self : Address
  copy : Address
  /-- How many objects there are in the world of the first. -/
  begun : Nat
  /-- The world of the copy. -/
  far : World
  /-- Where the objects that the first object knows are in the world of the copy. -/
  move : Address → Address
  /-- The exceptions and arrays that the first object has made, and arrays of plain values that it was given. -/
  own : Address → Prop
  /-- The objects that are in both worlds. -/
  shared : Address → Prop

namespace Mirror

variable (mirror : Mirror)

def type : ClassId := mirror.origin.type

/-- Where an object of the first world is in the second. -/
def place (address : Address) : Address :=
  if address.index < mirror.begun then mirror.move address
  else ⟨mirror.far.size + (address.index - mirror.begun)⟩

/-- The object's own objects when so many have been made. -/
def Made (count : Nat) (address : Address) : Prop :=
  mirror.own address ∨ (mirror.begun ≤ address.index ∧ address.index < count)

/-- A value that variables may hold when so many objects have been made. -/
def Held (count : Nat) (loose : Bool) (value : Value) : Prop :=
  ∀ address, value = .ref address → mirror.Made count address ∨ (loose = true ∧ mirror.shared address)

/-- One of the object's own objects and its copy. -/
inductive Copied (count : Nat) : Object → Object → Prop
  | exception (state : Throwable) (held : mirror.Held count false state.cause) :
      Copied count (.throwable state) (.throwable { state with cause := state.cause.image mirror.place })
  | array (items : List Value) (held : ∀ item ∈ items, mirror.Held count false item) :
      Copied count (.array items) (.array (items.map (Value.image mirror.place)))

/-- What is known of the two worlds where the code begins. -/
structure Lawful : Prop where
  quiet : mirror.realm.yields = false
  own : ∀ {address}, mirror.own address → address.index < mirror.begun
  shared : ∀ {address}, mirror.shared address → address.index < mirror.begun ∧ address ≠ mirror.self ∧
    address ≠ mirror.copy ∧ mirror.move address = address
  lands : ∀ {address}, mirror.own address ∨ mirror.shared address → (mirror.move address).index < mirror.far.size
  apart : ∀ {address other}, mirror.own address ∨ mirror.shared address → mirror.own other ∨ mirror.shared other →
    mirror.move address = mirror.move other → address = other
  inside : mirror.copy.index < mirror.far.size
  captured : ∀ name ∈ mirror.realm.captured, ∃ value, mirror.origin.captured.lookup name = some value ∧
    mirror.Held mirror.begun (mirror.realm.loose name) value ∧ value.image mirror.place = value
  exceptions : ∀ name ∈ mirror.realm.exceptions, ∃ type,
    mirror.far.classes.resolve (some mirror.type) name = some (.library type) ∧ Library.isThrowable type = true

/-- The state of an object that has the variables of the realm. -/
structure Carries (count : Nat) (state : Instance) : Prop where
  same : state = { mirror.origin with fields := state.fields }
  fields : ∀ name ∈ mirror.realm.fields, state.fields.has name = true
  heldFields : ∀ entry ∈ state.fields, mirror.Held count (mirror.realm.loose entry.1) entry.2

/-- The second world is where the copy has come to when the first object has come to the first world. -/
structure Reflects (a b : World) : Prop where
  classes : a.classes = mirror.far.classes ∧ b.classes = mirror.far.classes
  depth : b.depth = a.depth
  output : b.output = mirror.far.output
  begun : mirror.begun ≤ a.size
  size : b.size = mirror.far.size + (a.size - mirror.begun)
  stands : ∃ state, a.instance? mirror.self = some state ∧
    b.instance? mirror.copy = some { state with fields := state.fields.image mirror.place } ∧
    mirror.Carries a.size state
  old : ∀ {address}, address ≠ mirror.copy → address.index < mirror.far.size →
    b.heap.get? address = mirror.far.heap.get? address
  made : ∀ {address}, mirror.Made a.size address → ∃ object object', a.heap.get? address = some object ∧
    b.heap.get? (mirror.place address) = some object' ∧ mirror.Copied a.size object object'
  shared : ∀ {address}, mirror.shared address → ∃ object, a.heap.get? address = some object ∧
    b.heap.get? address = some object

end Mirror

namespace World

variable (world : World)

@[simp] theorem size_grown (object : Object) : (world.grown object).size = world.size + 1 :=
  Array.size_push object

@[simp] theorem size_atDepth (depth : Nat) : (world.atDepth depth).size = world.size := rfl

@[simp] theorem size_putField (address : Address) (name : String) (value : Value) :
    (world.putField address name value).size = world.size := by
  unfold putField
  split
  · exact Array.size_setIfInBounds
  · rfl

@[simp] theorem output_putField (address : Address) (name : String) (value : Value) :
    (world.putField address name value).output = world.output := by
  unfold putField
  split <;> rfl

theorem index_frontier : world.frontier.index = world.size := rfl

variable {world}

theorem index_lt_size {address : Address} {object : Object} (there : world.heap.get? address = some object) :
    address.index < world.size := (Array.getElem?_eq_some_iff.mp there).1

/-- A world is known when the rest and the objects are. -/
theorem ext_of_get? {other : World} (classes : world.classes = other.classes) (output : world.output = other.output)
    (depth : world.depth = other.depth) (objects : ∀ address, world.heap.get? address = other.heap.get? address) :
    world = other := by
  obtain ⟨_, ⟨first⟩, _, _⟩ := world
  obtain ⟨_, ⟨second⟩, _, _⟩ := other
  obtain rfl : first = second := Array.ext_getElem? fun index => objects ⟨index⟩
  cases classes
  cases output
  cases depth
  rfl

end World

namespace Mirror

variable {mirror : Mirror} {count more : Nat} {loose : Bool} {value other : Value} {a b : World}

theorem held_of_plain (plain : value.ref? = none) : mirror.Held count loose value := by
  rintro address rfl
  cases plain

theorem Made.mono {address : Address} (made : mirror.Made count address) (later : count ≤ more) :
    mirror.Made more address := made.imp_right fun inside => ⟨inside.1, Nat.lt_of_lt_of_le inside.2 later⟩

theorem Held.mono (held : mirror.Held count loose value) (later : count ≤ more) : mirror.Held more loose value :=
  fun address same => (held address same).imp_left (·.mono later)

theorem Held.imp {loose' : Bool} (held : mirror.Held count loose value) (looser : loose = true → loose' = true) :
    mirror.Held count loose' value :=
  fun address same => (held address same).imp_right fun shared => ⟨looser shared.1, shared.2⟩

/-- What was held when the code began to run is held whatever has been made. -/
theorem Held.of_begun (held : mirror.Held mirror.begun loose value) : mirror.Held count loose value := by
  intro address same
  rcases held address same with (own | new) | shared
  · exact Or.inl (Or.inl own)
  · exact absurd new.2 (Nat.not_lt.mpr new.1)
  · exact Or.inr shared

section

variable {object object' : Object} (copied : mirror.Copied count object object')

include copied

theorem Copied.mono (later : count ≤ more) : mirror.Copied more object object' := by
  cases copied with
  | exception state held => exact .exception state (held.mono later)
  | array items held => exact .array items fun item member => (held item member).mono later

theorem Copied.alike : object.Alike object' := by
  cases copied with
  | exception state held => exact .exception rfl rfl
  | array items held => exact .array _ _

/-- No such object is of a class of the program. -/
theorem Copied.instance? : object.instance? = none ∧ object'.instance? = none := by
  cases copied <;> exact ⟨rfl, rfl⟩

/-- The copy of an object is known. -/
theorem Copied.unique {other : Object} (copied' : mirror.Copied count object other) : object' = other := by
  cases copied with
  | exception => cases copied'; rfl
  | array => cases copied'; rfl

end

/-- An array that leads to no objects is its own copy. -/
theorem Copied.of_plain {items : List Value} (plain : ∀ item ∈ items, item.ref? = none) :
    mirror.Copied count (.array items) (.array items) := by
  have same : items.map (Value.image mirror.place) = items :=
    (List.map_congr_left fun item member => Value.image_of_plain (plain item member)).trans (List.map_id' items)
  have copied : mirror.Copied count (.array items) (.array (items.map (Value.image mirror.place))) :=
    .array items fun item member => held_of_plain (plain item member)
  rwa [same] at copied

theorem Held.loosen (held : mirror.Held count false value) : mirror.Held count loose value :=
  held.imp fun strange => absurd strange Bool.false_ne_true

theorem Held.coerce (held : mirror.Held count loose value) (type : JavaType) :
    mirror.Held count loose (coerce type value) := by
  rcases value.plain_or_ref with plain | ⟨address, rfl⟩
  · exact held_of_plain (plain_coerce type plain)
  · rwa [coerce_ref]

theorem Held.conform (held : mirror.Held count loose value) (compound : Bool) (current : Value) :
    mirror.Held count loose (conform compound current value) := by
  rcases value.plain_or_ref with plain | ⟨address, rfl⟩
  · exact held_of_plain (plain_conform current plain)
  · rwa [conform_of_not_number rfl]

theorem Carries.mono {state : Instance} (carries : mirror.Carries count state) (later : count ≤ more) :
    mirror.Carries more state where
  same := carries.same
  fields := carries.fields
  heldFields entry member := (carries.heldFields entry member).mono later

theorem Carries.heldField {state : Instance} {name : String} (carries : mirror.Carries count state)
    (found : state.fields.lookup name = some value) : mirror.Held count (mirror.realm.loose name) value := by
  obtain ⟨front, back, same, _⟩ := List.lookup_eq_some_iff.mp found
  exact carries.heldFields (name, value) (same ▸ List.mem_append_right front List.mem_cons_self)

theorem Carries.type {state : Instance} (carries : mirror.Carries count state) : state.type = mirror.type :=
  (congrArg Instance.type carries.same :)

theorem place_of_lt {address : Address} (old : address.index < mirror.begun) :
    mirror.place address = mirror.move address := if_pos old

theorem place_of_ge {address : Address} (new : mirror.begun ≤ address.index) :
    mirror.place address = ⟨mirror.far.size + (address.index - mirror.begun)⟩ := if_neg (by omega)

/-- The next object is put at the place of the next object. -/
theorem Reflects.place_frontier (reflects : mirror.Reflects a b) : mirror.place a.frontier = b.frontier :=
  (place_of_ge reflects.begun : mirror.place a.frontier = _).trans (congrArg Address.mk reflects.size.symm)

section

variable (lawful : mirror.Lawful)

include lawful

theorem Lawful.place_of_old {address : Address} (known : mirror.own address ∨ mirror.shared address) :
    mirror.place address = mirror.move address :=
  place_of_lt (known.elim lawful.own fun shared => (lawful.shared shared).1)

/-- What a name stands for in the state of the object and in that of its copy. -/
theorem Carries.holds {state : Instance} {name : String} (carries : mirror.Carries count state)
    (known : name ∈ mirror.realm.fields ∨ name ∈ mirror.realm.captured) :
    ∃ value, (state.fields.lookup name).or (state.captured.lookup name) = some value ∧
      (List.lookup name (state.fields.image mirror.place)).or (state.captured.lookup name) =
        some (value.image mirror.place) ∧ mirror.Held count (mirror.realm.loose name) value := by
  cases found : state.fields.lookup name with
  | some value => exact ⟨value, rfl, by simp [found], carries.heldField found⟩
  | none =>
    have captured := known.resolve_left fun field => by
      have has := carries.fields name field
      rw [Bindings.has, found] at has
      cases has
    obtain ⟨value, found', held, fixed⟩ := lawful.captured name captured
    have same : state.captured = mirror.origin.captured := (congrArg Instance.captured carries.same :)
    rw [← same] at found'
    exact ⟨value, found', by simp [found, found', fixed], held.of_begun⟩

/-- The objects that values refer to have places of their own. -/
theorem Lawful.place_injective {address other : Address}
    (held : mirror.Held count loose (.ref address)) (held' : mirror.Held count loose (.ref other))
    (same : mirror.place address = mirror.place other) : address = other := by
  have sorted {address : Address} (held : mirror.Held count loose (.ref address)) :
      (mirror.own address ∨ mirror.shared address) ∨ mirror.begun ≤ address.index := by
    rcases held address rfl with (own | new) | shared
    · exact Or.inl (Or.inl own)
    · exact Or.inr new.1
    · exact Or.inl (Or.inr shared.2)
  have crossed {address other : Address} (old : mirror.own address ∨ mirror.shared address)
      (new : mirror.begun ≤ other.index) : mirror.place address ≠ mirror.place other := by
    intro same
    have inside := lawful.lands old
    rw [lawful.place_of_old old, place_of_ge new] at same
    have index : (mirror.move address).index = mirror.far.size + (other.index - mirror.begun) :=
      congrArg Address.index same
    omega
  rcases sorted held with old | new <;> rcases sorted held' with old' | new'
  · rw [lawful.place_of_old old, lawful.place_of_old old'] at same
    exact lawful.apart old old' same
  · exact absurd same (crossed old new')
  · exact absurd same.symm (crossed old' new)
  · rw [place_of_ge new, place_of_ge new'] at same
    have index := congrArg Address.index same
    simp only at index
    obtain ⟨first⟩ := address
    obtain ⟨second⟩ := other
    exact congrArg Address.mk (by simp only at *; omega)

theorem Lawful.same_image (held : mirror.Held count loose value) (held' : mirror.Held count loose other) :
    (value.image mirror.place).same (other.image mirror.place) = value.same other := by
  rcases value.plain_or_ref with plain | ⟨address, rfl⟩
  · rw [Value.image_of_plain plain]
    cases other with
    | ref address => cases value <;> first | rfl | cases plain
    | _ => rfl
  · cases other with
    | ref address' =>
      change (mirror.place address == mirror.place address') = (address == address')
      rw [Bool.eq_iff_iff, beq_iff_eq, beq_iff_eq]
      exact ⟨lawful.place_injective held held', congrArg _⟩
    | _ => rfl

end

section

variable (lawful : mirror.Lawful) (reflects : mirror.Reflects a b)

include lawful reflects

omit lawful in
/-- The code's own objects have copies in the other world. -/
theorem Reflects.copied? (held : mirror.Held count false value) (within : count ≤ a.size) :
    value.ref? = none ∨ ∃ address object object', value = .ref address ∧ a.heap.get? address = some object ∧
      b.heap.get? (mirror.place address) = some object' ∧ mirror.Copied a.size object object' := by
  rcases value.plain_or_ref with plain | ⟨address, rfl⟩
  · exact Or.inl plain
  rcases held address rfl with made | shared
  · obtain ⟨object, object', there, there', copied⟩ := reflects.made (made.mono within)
    exact Or.inr ⟨_, _, _, rfl, there, there', copied⟩
  · exact absurd shared.1 Bool.false_ne_true

/-- Values that variables may hold lead to the same object or to a copy. -/
theorem Reflects.leads (held : mirror.Held count loose value) (within : count ≤ a.size) :
    value.ref? = none ∨
    (∃ address object, value = .ref address ∧ mirror.place address = address ∧ a.heap.get? address = some object ∧
      b.heap.get? address = some object) ∨
    ∃ address object object', value = .ref address ∧ a.heap.get? address = some object ∧
      b.heap.get? (mirror.place address) = some object' ∧ mirror.Copied a.size object object' := by
  by_cases shared : ∃ address, value = .ref address ∧ mirror.shared address
  · obtain ⟨address, rfl, shared⟩ := shared
    obtain ⟨object, there, there'⟩ := reflects.shared shared
    have fixed := (lawful.place_of_old (Or.inr shared)).trans (lawful.shared shared).2.2.2
    exact Or.inr (Or.inl ⟨address, object, rfl, fixed, there, there'⟩)
  · have tight : mirror.Held count false value := fun address same =>
      (held address same).imp_right fun outer => absurd ⟨address, same, outer.2⟩ shared
    exact (reflects.copied? tight within).imp_right Or.inr

/-- The values that variables may hold on the two sides resemble each other. -/
theorem Reflects.resembles (held : mirror.Held count loose value) (within : count ≤ a.size) :
    Resembles a b value (value.image mirror.place) := by
  intro depth
  induction depth generalizing count loose value with
  | zero => trivial
  | succ depth ih =>
    rcases reflects.leads lawful held within with
      plain | ⟨address, object, rfl, fixed, there, there'⟩ | ⟨address, object, object', rfl, there, there', copied⟩
    · rw [Value.image_of_plain plain]
      exact Likens.plain plain
    · rw [Value.image, fixed]
      exact Likens.same there there'
    · cases copied with
      | exception state held => exact Likens.exception there there' rfl rfl (ih held (Nat.le_refl _))
      | array items held =>
        refine Likens.array there there' (List.forall₂_map_right_iff.mpr ?_)
        exact List.forall₂_same.mpr fun item member => ih (held item member) (Nat.le_refl _)

/-- Values that variables may hold lead to objects that are alike. -/
theorem Reflects.object? (held : mirror.Held count loose value) (within : count ≤ a.size) :
    value.ref? = none ∨ ∃ address object object', value = .ref address ∧ a.heap.get? address = some object ∧
      b.heap.get? (mirror.place address) = some object' ∧ object.Alike object' := by
  rcases reflects.leads lawful held within with
    plain | ⟨address, object, rfl, fixed, there, there'⟩ | ⟨address, object, object', rfl, there, there', copied⟩
  · exact Or.inl plain
  · exact Or.inr ⟨address, object, object, rfl, there, fixed.symm ▸ there', .same object⟩
  · exact Or.inr ⟨address, object, object', rfl, there, there', copied.alike⟩

/-- What is asked of the object of a value has the same answer in both worlds. -/
theorem Reflects.answer {α : Type} (asked : World → Value → α) (held : mirror.Held count loose value)
    (within : count ≤ a.size) (plain : value.ref? = none → asked b value = asked a value)
    (alike : ∀ address address' object object', a.heap.get? address = some object →
      b.heap.get? address' = some object' → object.Alike object' →
      asked b (.ref address') = asked a (.ref address)) :
    asked b (value.image mirror.place) = asked a value := by
  rcases reflects.object? lawful held within with same | ⟨address, object, object', rfl, there, there', like⟩
  · rw [Value.image_of_plain same, plain same]
  · exact alike _ _ _ _ there there' like

variable (held : mirror.Held count loose value) (within : count ≤ a.size)

include held within

theorem Reflects.kind : b.heap.kind (value.image mirror.place) = a.heap.kind value := by
  refine reflects.answer lawful (fun world => world.heap.kind) held within (fun plain => ?_) ?_
  · cases value <;> first | rfl | cases plain
  · intro address address' object object' there there' alike
    cases alike <;> simp [Heap.kind, there, there', Object.kind]

theorem Reflects.constant? : b.heap.constant? (value.image mirror.place) = a.heap.constant? value := by
  refine reflects.answer lawful (fun world => world.heap.constant?) held within (fun plain => ?_) ?_
  · cases value <;> first | rfl | cases plain
  · intro address address' object object' there there' alike
    cases alike <;>
      simp [Heap.constant?, Heap.instance?, Heap.object?, Value.ref?, there, there', Object.instance?]

theorem Reflects.typeName : b.typeName (value.image mirror.place) = a.typeName value := by
  have same : b.classes = a.classes := reflects.classes.2.trans reflects.classes.1.symm
  refine reflects.answer lawful World.typeName held within (fun plain => ?_) ?_
  · cases value <;> first | rfl | cases plain
  · intro address address' object object' there there' alike
    cases alike with
    | same object => cases object <;> simp [World.typeName, Heap.object?, Value.ref?, there, there', same]
    | exception type message => simp [World.typeName, Heap.object?, Value.ref?, there, there', type]
    | array items items' => simp [World.typeName, Heap.object?, Value.ref?, there, there', Object.kind]

theorem Reflects.isNamed (target : String) :
    b.isNamed (value.image mirror.place) target = a.isNamed value target := by
  have same : b.classes = a.classes := reflects.classes.2.trans reflects.classes.1.symm
  refine reflects.answer lawful (fun world value => world.isNamed value target) held within (fun plain => ?_) ?_
  · cases value <;> first | rfl | cases plain
  · intro address address' object object' there there' alike
    cases alike with
    | same object => cases object <;> simp [World.isNamed, Heap.object?, Value.ref?, there, there', same]
    | exception type message => simp [World.isNamed, Heap.object?, Value.ref?, there, there', type]
    | array items items' => simp [World.isNamed, Heap.object?, Value.ref?, there, there']

theorem Reflects.isInstance (type : JavaType) :
    b.isInstance (value.image mirror.place) type = a.isInstance value type := by
  have array : b.isArray (value.image mirror.place) = a.isArray value := by
    refine reflects.answer lawful World.isArray held within (fun plain => ?_) ?_
    · cases value <;> first | rfl | cases plain
    · intro address address' object object' there there' alike
      cases alike <;> simp [World.isArray, Heap.object?, Value.ref?, there, there']
  rw [World.isInstance, World.isInstance, array, reflects.isNamed lawful held within]

theorem Reflects.catches (type : JavaType) :
    b.catches type (value.image mirror.place) = a.catches type value := by
  simp only [World.catches, reflects.isNamed lawful held within]

end

section

variable (reflects : mirror.Reflects a b)

include reflects

theorem Reflects.atDepth (depth : Nat) : mirror.Reflects (a.atDepth depth) (b.atDepth depth) :=
  { reflects with depth := rfl }

/-- Calls are as deeply nested in both worlds. -/
theorem Reflects.level (change : Nat → Nat) :
    mirror.Reflects (a.atDepth (change a.depth)) (b.atDepth (change b.depth)) := by
  rw [reflects.depth]
  exact reflects.atDepth _

/-- The fields of the copy hold the copies of what those of the object hold. -/
theorem Reflects.field? (name : String) :
    b.field? mirror.copy name = (a.field? mirror.self name).map (Value.image mirror.place) := by
  obtain ⟨state, there, there', _⟩ := reflects.stands
  rw [World.field?, World.field?, there, there']
  exact Bindings.lookup_image _ _

/-- An object and its copy are made. -/
theorem Reflects.grown {object object' : Object} (copied : mirror.Copied a.size object object') :
    mirror.Reflects (a.grown object) (b.grown object') where
  classes := reflects.classes
  depth := reflects.depth
  output := reflects.output
  begun := by
    have := reflects.begun
    simp only [World.size_grown]
    omega
  size := by
    have := reflects.begun
    simp only [World.size_grown, reflects.size]
    omega
  stands := by
    obtain ⟨state, there, there', carries⟩ := reflects.stands
    exact ⟨state, World.instance?_grown_of_some there _, World.instance?_grown_of_some there' _,
      carries.mono (by simp)⟩
  old other inside := by
    have before : ∀ address, address ≠ b.frontier →
        (b.grown object').heap.get? address = b.heap.get? address :=
      fun address different => by rw [World.get?_grown, if_neg different]
    rw [before, reflects.old other inside]
    rintro rfl
    rw [World.index_frontier, reflects.size] at inside
    omega
  made {address} made := by
    have later : a.size ≤ (a.grown object).size := by simp
    have old (made : mirror.Made a.size address) : ∃ known known', (a.grown object).heap.get? address = some known ∧
        (b.grown object').heap.get? (mirror.place address) = some known' ∧
        mirror.Copied (a.grown object).size known known' := by
      obtain ⟨_, _, there, there', copied⟩ := reflects.made made
      exact ⟨_, _, World.get?_grown_of_some there _, World.get?_grown_of_some there' _, copied.mono later⟩
    rcases made with own | ⟨begun, inside⟩
    · exact old (Or.inl own)
    rcases Nat.lt_or_ge address.index a.size with before | here
    · exact old (Or.inr ⟨begun, before⟩)
    · obtain rfl : address = a.frontier := by
        rw [World.size_grown] at inside
        exact congrArg Address.mk (by omega : address.index = a.size)
      refine ⟨object, object', by rw [World.get?_grown, if_pos rfl], ?_, copied.mono later⟩
      rw [reflects.place_frontier, World.get?_grown, if_pos rfl]
  shared shared := by
    obtain ⟨_, there, there'⟩ := reflects.shared shared
    exact ⟨_, World.get?_grown_of_some there _, World.get?_grown_of_some there' _⟩

/-- The two objects are no objects of their own. -/
theorem Reflects.ne_self {address : Address} {object object' : Object} (there : a.heap.get? address = some object)
    (copied : mirror.Copied count object object') : address ≠ mirror.self := by
  rintro rfl
  obtain ⟨_, here, _⟩ := reflects.stands
  obtain rfl := Option.some.inj (there.symm.trans (World.instance?_eq_some.mp here))
  cases copied

theorem Reflects.ne_copy {address : Address} {object object' : Object} (there : b.heap.get? address = some object')
    (copied : mirror.Copied count object object') : address ≠ mirror.copy := by
  rintro rfl
  obtain ⟨_, _, here, _⟩ := reflects.stands
  obtain rfl := Option.some.inj (there.symm.trans (World.instance?_eq_some.mp here))
  cases copied

/-- A field is assigned in both worlds. -/
theorem Reflects.putField {name : String} (held : mirror.Held a.size (mirror.realm.loose name) value)
    (lawful : mirror.Lawful) :
    mirror.Reflects (a.putField mirror.self name value)
      (b.putField mirror.copy name (value.image mirror.place)) where
  classes := by simpa using reflects.classes
  depth := by simpa using reflects.depth
  output := by simpa using reflects.output
  begun := by simpa using reflects.begun
  size := by simpa using reflects.size
  stands := by
    obtain ⟨state, there, there', carries⟩ := reflects.stands
    refine ⟨{ state with fields := state.fields.put name value }, by simp [there], ?_, ?_⟩
    · simp [there', Bindings.put_image]
    · exact {
        same := (congrArg (fun origin : Instance => { origin with fields := state.fields.put name value })
          carries.same :)
        fields := fun other member => Bindings.has_put (carries.fields other member) name value
        heldFields := fun entry member => by
          rw [World.size_putField]
          rcases Bindings.mem_put member with old | rfl
          · exact carries.heldFields entry old
          · exact held }
  old other inside := by rw [World.get?_putField, if_neg other, reflects.old other inside]
  made {address} made := by
    rw [World.size_putField] at made ⊢
    obtain ⟨_, _, there, there', copied⟩ := reflects.made made
    refine ⟨_, _, ?_, ?_, copied⟩
    · rw [World.get?_putField, if_neg (reflects.ne_self there copied), there]
    · rw [World.get?_putField, if_neg (reflects.ne_copy there' copied), there']
  shared {address} shared := by
    obtain ⟨_, there, there'⟩ := reflects.shared shared
    obtain ⟨-, other, other', -⟩ := lawful.shared shared
    exact ⟨_, by rw [World.get?_putField, if_neg other, there], by rw [World.get?_putField, if_neg other', there']⟩

/-- The second world is all there is to know about it. -/
theorem Reflects.unique {b' : World} (reflects' : mirror.Reflects a b') : b = b' := by
  refine World.ext_of_get? (reflects.classes.2.trans reflects'.classes.2.symm)
    (reflects.output.trans reflects'.output.symm) (reflects.depth.trans reflects'.depth.symm) fun address => ?_
  have sizes : b.size = b'.size := reflects.size.trans reflects'.size.symm
  by_cases copy : address = mirror.copy
  · obtain ⟨state, there, here, _⟩ := reflects.stands
    obtain ⟨state', there', here', _⟩ := reflects'.stands
    obtain rfl := Option.some.inj (there.symm.trans there')
    rw [copy, World.instance?_eq_some.mp here, World.instance?_eq_some.mp here']
  rcases Nat.lt_or_ge address.index mirror.far.size with old | new
  · rw [reflects.old copy old, reflects'.old copy old]
  rcases Nat.lt_or_ge address.index b.size with inside | outside
  · obtain ⟨original, index⟩ : ∃ original : Address,
        original.index = mirror.begun + (address.index - mirror.far.size) := ⟨⟨_⟩, rfl⟩
    have begun : mirror.begun ≤ original.index := by omega
    have made : original.index < a.size := by
      have := reflects.size
      omega
    have same : mirror.place original = address := by
      rw [place_of_ge begun]
      exact congrArg Address.mk (by omega : mirror.far.size + (original.index - mirror.begun) = address.index)
    obtain ⟨_, _, there, here, copied⟩ := reflects.made (Or.inr ⟨begun, made⟩)
    obtain ⟨_, _, there', here', copied'⟩ := reflects'.made (Or.inr ⟨begun, made⟩)
    obtain rfl := Option.some.inj (there.symm.trans there')
    rw [← same, here, here', copied.unique copied']
  · exact (Array.getElem?_eq_none outside).trans (Array.getElem?_eq_none (by omega : b'.size ≤ address.index)).symm

end

section

variable {c : World}

/-- The two worlds where the code goes on: what the object has made since it knows, and the world of the copy may have
changed elsewhere. -/
def rebased (mirror : Mirror) (a c : World) : Mirror :=
  { mirror with
    begun := a.size
    far := c
    move := mirror.place
    own := mirror.Made a.size }

theorem place_rebased {address : Address} (known : address.index < a.size) :
    (mirror.rebased a c).place address = mirror.place address := if_pos known

theorem Held.rebased (held : mirror.Held count loose value) (within : count ≤ a.size) :
    (mirror.rebased a c).Held more loose value := by
  intro address same
  exact (held address same).imp_left fun made => Or.inl (made.mono within)

theorem Carries.rebased {state : Instance} (carries : mirror.Carries a.size state) :
    (mirror.rebased a c).Carries a.size state where
  same := carries.same
  fields := carries.fields
  heldFields entry member := (carries.heldFields entry member).rebased (Nat.le_refl _)

variable (lawful : mirror.Lawful) (reflects : mirror.Reflects a b)

include lawful reflects

theorem image_rebased (held : mirror.Held count loose value) (within : count ≤ a.size) :
    value.image (mirror.rebased a c).place = value.image mirror.place := by
  rcases value.plain_or_ref with plain | ⟨address, rfl⟩
  · rw [Value.image_of_plain plain, Value.image_of_plain plain]
  · have begun := reflects.begun
    refine congrArg Value.ref (place_rebased ?_)
    rcases held address rfl with (own | new) | shared
    · exact Nat.lt_of_lt_of_le (lawful.own own) begun
    · exact Nat.lt_of_lt_of_le new.2 within
    · exact Nat.lt_of_lt_of_le (lawful.shared shared.2).1 begun

theorem Copied.rebased {object object' : Object} (copied : mirror.Copied a.size object object') :
    (mirror.rebased a c).Copied a.size object object' := by
  cases copied with
  | exception state held =>
    rw [← image_rebased lawful reflects held (Nat.le_refl _)]
    exact .exception state (held.rebased (Nat.le_refl _))
  | array items held =>
    have same : items.map (Value.image mirror.place) = items.map (Value.image (mirror.rebased a c).place) :=
      List.map_congr_left fun item member => (image_rebased lawful reflects (held item member) (Nat.le_refl _)).symm
    rw [same]
    exact .array items fun item member => (held item member).rebased (Nat.le_refl _)

variable (classes : c.classes = b.classes)

include classes

theorem Lawful.rebased (larger : b.size ≤ c.size) : (mirror.rebased a c).Lawful := by
  have begun := reflects.begun
  have known {address : Address} (known : mirror.Made a.size address ∨ mirror.shared address) :
      mirror.Held a.size true (.ref address) := by
    rintro _ ⟨rfl⟩
    exact known.imp_right fun shared => ⟨rfl, shared⟩
  exact {
    quiet := lawful.quiet
    own := fun own => own.elim (fun old => Nat.lt_of_lt_of_le (lawful.own old) begun) And.right
    shared := fun {address} shared => by
      obtain ⟨old, self, copy, fixed⟩ := lawful.shared shared
      exact ⟨Nat.lt_of_lt_of_le old begun, self, copy, (lawful.place_of_old (Or.inr shared)).trans fixed⟩
    lands := fun {address} there => by
      rcases reflects.object? lawful (known there) (Nat.le_refl _) with plain | ⟨_, _, _, same, _, lands, _⟩
      · cases plain
      · cases same
        exact Nat.lt_of_lt_of_le (World.index_lt_size lands) larger
    apart := fun first second => lawful.place_injective (known first) (known second)
    inside := by
      obtain ⟨_, _, there, _⟩ := reflects.stands
      exact Nat.lt_of_lt_of_le (World.index_lt_size (World.instance?_eq_some.mp there)) larger
    captured := fun name member => by
      obtain ⟨value, found, held, fixed⟩ := lawful.captured name member
      exact ⟨value, found, held.rebased begun, (image_rebased lawful reflects held begun).trans fixed⟩
    exceptions := fun name member => by
      change ∃ type, c.classes.resolve _ _ = _ ∧ _
      rw [classes, reflects.classes.2]
      exact lawful.exceptions name member }

/-- Code may go on where others have run in the world of the copy. -/
theorem Reflects.rebased (depth : c.depth = b.depth) (copy : c.heap.get? mirror.copy = b.heap.get? mirror.copy)
    (others : ∀ {address object}, object.instance? = none → b.heap.get? address = some object →
      c.heap.get? address = some object)
    (shared : ∀ {address}, mirror.shared address → c.heap.get? address = b.heap.get? address) :
    (mirror.rebased a c).Reflects a c where
  classes := ⟨reflects.classes.1.trans (reflects.classes.2.symm.trans classes.symm), rfl⟩
  depth := depth.trans reflects.depth
  output := rfl
  begun := Nat.le_refl _
  size := by
    change c.size = c.size + (a.size - a.size)
    omega
  stands := by
    obtain ⟨state, there, there', carries⟩ := reflects.stands
    refine ⟨state, there, ?_, carries.rebased⟩
    have same : state.fields.image (mirror.rebased a c).place = state.fields.image mirror.place :=
      List.map_congr_left fun entry member =>
        congrArg (Prod.mk entry.1)
          (image_rebased lawful reflects (carries.heldFields entry member) (Nat.le_refl _))
    rw [same]
    exact World.instance?_eq_some.mpr (copy.trans (World.instance?_eq_some.mp there'))
  old _ _ := rfl
  made {address} made := by
    have before : mirror.Made a.size address := made.elim id fun new => absurd new.2 (Nat.not_lt.mpr new.1)
    have known : address.index < a.size :=
      before.elim (fun own => Nat.lt_of_lt_of_le (lawful.own own) reflects.begun) And.right
    obtain ⟨object, object', there, there', copied⟩ := reflects.made before
    rw [place_rebased known]
    exact ⟨object, object', there, others copied.instance?.2 there', copied.rebased lawful reflects⟩
  shared {address} known := by
    obtain ⟨object, there, there'⟩ := reflects.shared known
    exact ⟨object, there, (shared known).trans there'⟩

end

end Mirror

end JavaWeave.Interpreter
