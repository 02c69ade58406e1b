import JavaWeave.Proofs.Generator.Iterables
import JavaWeave.Proofs.Generator.Prepared
import JavaWeave.Proofs.Generator.Twins

/-! The yielders of one generator whose body keeps to its own variables and the parameters of its method. What one of
them finds each of them finds, whatever the others have done before. -/

namespace JavaWeave.Generator

open Syntax Interpreter

/-- What the body of a generator may touch that keeps to its own variables and the parameters of its method. -/
def Yielder.bodyRealm (yielder : Yielder) (objects exceptions : List String) : Realm where
  fields := []
  captured := yielder.method.parameters.map (·.name)
  loose name := name == elementName || name == stateName || objects.contains name
  exceptions := "java.util.ConcurrentModificationException" :: exceptions
  yields := true

/-- The body of a generator touches only its own variables and the parameters of its method. It makes no objects but
arrays and exceptions of the library. It looks into those that it has made and into arrays of plain values that it was
given, and leaves all else alone. -/
structure Confined (yielder : Yielder) where
  /-- The variables that may hold objects of any kind. -/
  objects : List String
  /-- The exceptions that the body may make. -/
  exceptions : List String
  plain : ∀ name ∈ objects, name.toList.head? ≠ some '$'
  inside : (yielder.bodyRealm objects exceptions).runsAll [[]] (preparedBody yielder.owner yielder.method) = true

/-- A body that goes through an array that it was given, and makes and catches exceptions. -/
example (yielder : Yielder)
    (given : yielder.method.parameters = [{ type := (JavaType.named "String").arrayOf, name := "words" }]) :
    (yielder.bodyRealm [] ["IllegalArgumentException"]).runsAll [[]] [
      .declare { type := .named "int", name := "longest", initial := some (.int 0) },
      .forEach { type := .named "String", name := "word" } (.name "words") (.block [
        .tryCatch
          [.ifElse (.binary .gt (.callOn (.name "word") "length" []) (.name "longest"))
              (.expression (.assign none (.name "longest") (.callOn (.name "word") "length" [])))
              (some (.throws (.make (.named "IllegalArgumentException") [.name "word"]))),
            .expression (.callOwn "yield" [.name "word"])]
          [⟨{ type := .named "RuntimeException", name := "e" },
            [.expression (.callOwn "yield" [.callOn (.name "e") "getMessage" []])]⟩]
          none])] = true := by
  rw [Yielder.bodyRealm, given]
  rfl

/-- Only objects of classes of the program have fields. -/
theorem World.get?_putField_of_strange {world : World} {address other : Address} {name : String} {value : Value}
    {object : Object} (strange : object.instance? = none) (there : world.heap.get? other = some object) :
    (world.putField address name value).heap.get? other = some object := by
  rw [World.get?_putField]
  split
  · next same =>
    subst same
    cases here : world.instance? other with
    | some state =>
      obtain rfl := Option.some.inj (there.symm.trans (World.instance?_eq_some.mp here))
      cases strange
    | none => exact there
  · exact there

/-- An array that leads to no objects. -/
def IsPlainArray (world : World) (address : Address) : Prop :=
  ∃ items, world.heap.get? address = some (.array items) ∧ ∀ item ∈ items, item.ref? = none

/-- A program in which a yielder was made: the exceptions are those of the library, and the parameters of the method
were captured. -/
structure Confined.Suits {yielder : Yielder} (confined : Confined yielder) (id : ClassId) (first : Address)
    (captured : Bindings Value) (world : World) : Prop where
  library : ∀ name ∈ confined.exceptions, ∃ type,
    world.classes.resolve (some id) name = some (.library type) ∧ Library.isThrowable type = true
  parameters : ∀ parameter ∈ yielder.method.parameters, ∃ value, captured.lookup parameter.name = some value ∧
    ∀ address, value = .ref address → IsPlainArray world address ∨
      parameter.name ∈ confined.objects ∧ address ≠ first ∧ ∃ object, world.heap.get? address = some object

theorem Confined.Suits.putField {yielder : Yielder} {confined : Confined yielder} {id : ClassId} {first : Address}
    {captured : Bindings Value} {world : World} (suits : confined.Suits id first captured world) (name : String)
    (value : Value) : confined.Suits id first captured (world.putField first name value) where
  library made member := by
    rw [World.classes_putField]
    exact suits.library made member
  parameters parameter member := by
    obtain ⟨held, found, shares⟩ := suits.parameters parameter member
    refine ⟨held, found, fun address same => (shares address same).imp ?_ ?_⟩
    · exact fun ⟨items, there, plain⟩ => ⟨items, World.get?_putField_of_strange rfl there, plain⟩
    · rintro ⟨loose, different, object, there⟩
      exact ⟨loose, different, object, by rw [World.get?_putField, if_neg different, there]⟩

namespace Confined

variable {yielder : Yielder} (confined : Confined yielder)

/-- What the code of the yielder may touch. -/
def realm : Realm :=
  (yielder.bodyRealm confined.objects confined.exceptions).coded
    (yielder.machine.lifted.map (·.1) ++ [stateName, elementName])

theorem reserves : Reserves (yielder.bodyRealm confined.objects confined.exceptions) := by
  intro name first element state
  have absent : name ∉ confined.objects := fun member => confined.plain name member first
  simp [Yielder.bodyRealm, element, state, absent]

theorem coding : Coding confined.realm where
  state := by simp [realm, Realm.coded]
  element := by simp [realm, Realm.coded]
  handsOut := rfl
  goesOn := rfl
  bound := confined.reserves
  breakdown := List.mem_cons_self
  quiet := rfl

/-- The machine of the body touches no more than the body. -/
theorem keeps : yielder.machine.Keeps confined.realm := by
  obtain ⟨surroundings, same⟩ := machineOf_eq yielder.owner yielder.optimize yielder.method
  change yielder.machine = _ at same
  have covered : Covered (yielder.bodyRealm confined.objects confined.exceptions)
      (yielder.machine.lifted.map (·.1) ++ [stateName, elementName]) [[]] := fun name assigned => by
    simp [Realm.assigns, Sight.has, Yielder.bodyRealm] at assigned
  have lifted : (compileBody surroundings (preparedBody yielder.owner yielder.method)).lifted =
      yielder.machine.lifted := by
    rw [same]
    split <;> rfl
  have whole : (compileBody surroundings (preparedBody yielder.owner yielder.method)).Keeps confined.realm := by
    refine compileBody_keeps surroundings rfl confined.reserves confined.inside covered fun name declared => ?_
    rw [lifted] at declared
    obtain ⟨type, found⟩ := Option.isSome_iff_exists.mp declared
    obtain ⟨front, back, same, _⟩ := List.lookup_eq_some_iff.mp found
    refine List.mem_append_left _ (List.mem_map.mpr ⟨(name, type), ?_, rfl⟩)
    rw [same]
    exact List.mem_append_right front List.mem_cons_self
  rw [same]
  split
  · exact whole.optimize
  · exact whole

/-- The first yielder and another one that was just handed out. -/
def mirror (id : ClassId) (first copy : Address) (outers : List Address) (captured : Bindings Value)
    (near far : World) : Mirror where
  realm := confined.realm
  origin := yielder.beginning id outers captured
  self := first
  copy
  begun := near.size
  far
  move := fun address => address
  own := IsPlainArray near
  shared := fun address => address ≠ first ∧ ∃ object, near.heap.get? address = some object

end Confined

/-- Of the objects there are, at most the one at the given address was changed, and of that one only what its
fields hold. -/
structure Apart (address : Address) (world after : World) : Prop where
  classes : after.classes = world.classes
  larger : world.size ≤ after.size
  others : ∀ {other object}, other ≠ address → world.heap.get? other = some object →
    after.heap.get? other = some object
  own : ∀ {state}, world.instance? address = some state →
    ∃ fields, after.instance? address = some { state with fields }

section

variable {yielder : Yielder} {id : ClassId} {address : Address} {world after : World}

theorem Apart.of_heap (classes : after.classes = world.classes) (larger : world.size ≤ after.size)
    (others : ∀ {other object}, world.heap.get? other = some object → after.heap.get? other = some object) :
    Apart address world after where
  classes
  larger
  others _ there := others there
  own {state} there := ⟨state.fields, World.instance?_eq_some.mpr (others (World.instance?_eq_some.mp there))⟩

theorem Apart.trans {last : World} (first : Apart address world after)
    (second : Apart address after last) : Apart address world last where
  classes := second.classes.trans first.classes
  larger := Nat.le_trans first.larger second.larger
  others different there := second.others different (first.others different there)
  own there := by
    obtain ⟨_, between⟩ := first.own there
    obtain ⟨fields, there⟩ := second.own between
    exact ⟨fields, there⟩

theorem apart_atDepth (world : World) (depth : Nat) : Apart address world (world.atDepth depth) :=
  .of_heap rfl (Nat.le_refl _) fun there => there

theorem apart_grown (world : World) (object : Object) : Apart address world (world.grown object) :=
  .of_heap rfl (by simp) fun there => World.get?_grown_of_some there object

theorem apart_putField (world : World) (name : String) (value : Value) :
    Apart address world (world.putField address name value) where
  classes := by simp
  larger := by simp
  others different there := by rw [World.get?_putField, if_neg different, there]
  own {state} there := ⟨state.fields.put name value, by simp [there]⟩

/-- An object is seen as it was when only others have changed. -/
theorem Apart.instance?_of_ne {other : Address} {state : Instance} (apart : Apart address world after)
    (different : other ≠ address) (there : world.instance? other = some state) :
    after.instance? other = some state :=
  World.instance?_eq_some.mpr (apart.others different (World.instance?_eq_some.mp there))

theorem Apart.field?_of_ne {other : Address} {name : String} {value : Value}
    (apart : Apart address world after) (different : other ≠ address)
    (holds : world.field? other name = some value) : after.field? other name = some value := by
  obtain ⟨state, there, found⟩ := World.exists_instance holds
  simp [World.field?, apart.instance?_of_ne different there, found]

theorem Apart.embodied {other : Address} (apart : Apart address world after)
    (different : other ≠ address) (embodied : Embodied yielder id other world) :
    Embodied yielder id other after where
  hosted := embodied.hosted.of_classes apart.classes
  typed := embodied.typed.imp fun _ typed => ⟨apart.instance?_of_ne different typed.1, typed.2⟩
  state := embodied.state.imp fun _ holds => apart.field?_of_ne different holds
  found := embodied.found.imp fun _ holds => apart.field?_of_ne different holds
  sought := embodied.sought.imp fun _ holds => apart.field?_of_ne different holds
  element := embodied.element.imp fun _ holds => apart.field?_of_ne different holds

end

/-- A world in which only yielders were changed that are not older than the first one. -/
structure Since (first : Address) (start world : World) : Prop where
  classes : world.classes = start.classes
  larger : start.size ≤ world.size
  old : ∀ {address object}, address ≠ first → start.heap.get? address = some object →
    world.heap.get? address = some object

/-- An address of the first yielder or of a later object. -/
def Recent (first : Address) (start : World) (address : Address) : Prop := address = first ∨ start.size ≤ address.index

theorem Recent.ne {first address other : Address} {start : World} {object : Object}
    (recent : Recent first start address) (different : other ≠ first) (there : start.heap.get? other = some object) :
    other ≠ address := by
  rintro rfl
  exact recent.elim different fun beyond => absurd (World.index_lt_size there) (Nat.not_lt.mpr beyond)

theorem Since.step {first address : Address} {start world after : World} (since : Since first start world)
    (apart : Apart address world after) (recent : Recent first start address) : Since first start after where
  classes := apart.classes.trans since.classes
  larger := Nat.le_trans since.larger apart.larger
  old different there := apart.others (recent.ne different there) (since.old different there)

section

variable {yielder : Yielder} {confined : Confined yielder} {id : ClassId} {first copy : Address} {outers : List Address}
  {captured : Bindings Value} {start world : World}

theorem twins_of_born (hosted : Hosted yielder id start) (suits : confined.Suits id first captured start)
    (since : Since first start world) (recent : Recent first start copy)
    (born : world.instance? copy = some (yielder.beginning id outers captured)) :
    Twins yielder (confined.mirror id first copy outers captured (start.atDepth world.depth) world) where
  coding := confined.coding
  keeps := confined.keeps
  hosted := hosted.of_classes since.classes
  lawful := {
    quiet := rfl
    own := fun ⟨_, there, _⟩ => World.index_lt_size there
    shared := fun ⟨different, _, there⟩ =>
      ⟨World.index_lt_size there, different, recent.ne different there, rfl⟩
    lands := fun {address} known => by
      obtain ⟨_, there, _⟩ | ⟨_, _, there⟩ := known
      · exact Nat.lt_of_lt_of_le (World.index_lt_size there) since.larger
      · exact Nat.lt_of_lt_of_le (World.index_lt_size there) since.larger
    apart := fun _ _ same => same
    inside := World.index_lt_size (World.instance?_eq_some.mp born)
    captured := fun name member => by
      obtain ⟨parameter, inside, rfl⟩ := List.mem_map.mp member
      obtain ⟨value, found, shares⟩ := suits.parameters parameter inside
      refine ⟨value, found, fun address same => ?_, ?_⟩
      · rcases shares address same with plain | ⟨loose, shared⟩
        · exact Or.inl (Or.inl plain)
        · exact Or.inr ⟨Bool.or_eq_true_iff.mpr (Or.inr (List.contains_iff_mem.mpr loose)), shared⟩
      · rcases value.plain_or_ref with plain | ⟨address, rfl⟩
        · exact Value.image_of_plain plain
        · refine congrArg Value.ref (Mirror.place_of_lt ?_)
          obtain ⟨_, there, _⟩ | ⟨_, _, _, there⟩ := shares address rfl
          · exact World.index_lt_size there
          · exact World.index_lt_size there
    exceptions := fun name member => by
      change ∃ type, world.classes.resolve (some id) name = _ ∧ _
      rw [since.classes]
      rcases List.mem_cons.mp member with rfl | made
      · exact ⟨_, hosted.broken, rfl⟩
      · exact suits.library name made }

theorem reflects_of_born (since : Since first start world)
    (known : start.instance? first = some (yielder.beginning id outers captured))
    (born : world.instance? copy = some (yielder.beginning id outers captured)) :
    (confined.mirror id first copy outers captured (start.atDepth world.depth) world).Reflects
      (start.atDepth world.depth) world where
  classes := ⟨since.classes.symm, rfl⟩
  depth := rfl
  output := rfl
  begun := Nat.le_refl _
  size := by
    change world.size = world.size + (start.size - start.size)
    omega
  stands := by
    have plain : ∀ entry ∈ (yielder.beginning id outers captured).fields, entry.2.ref? = none := fun entry member => by
      rcases Bindings.mem_put member with before | rfl
      · exact yielder.plain_born entry before
      · rfl
    refine ⟨_, known, ?_, {
      same := rfl
      fields := fun name member => Bindings.has_put (yielder.has_born member) stateName (.int 1)
      heldFields := fun entry member => Mirror.held_of_plain (plain entry member) }⟩
    rw [Bindings.image_of_plain plain]
    exact born
  old _ _ := rfl
  made {address} made := by
    obtain ⟨items, there, plain⟩ := made.resolve_right fun new => absurd new.2 (Nat.not_lt.mpr new.1)
    have other : address ≠ first := by
      rintro rfl
      rw [World.instance?_eq_some] at known
      cases known.symm.trans there
    refine ⟨_, _, there, ?_, .of_plain plain⟩
    rw [Mirror.place_of_lt (World.index_lt_size there : address.index < start.size)]
    exact since.old other there
  shared := fun ⟨other, object, there⟩ => ⟨object, there, since.old other there⟩

end

theorem Twins.rebased {yielder : Yielder} {mirror : Mirror} {near world after : World} (twins : Twins yielder mirror)
    (reflects : mirror.Reflects near world) (classes : after.classes = world.classes)
    (larger : world.size ≤ after.size) : Twins yielder (mirror.rebased near after) where
  lawful := twins.lawful.rebased reflects classes larger
  coding := twins.coding
  keeps := twins.keeps
  hosted := twins.hosted.of_classes (classes.trans reflects.classes.2)

/-- An object has come as far as the first yielder when that one has found so many elements. -/
inductive Reached {yielder : Yielder} {id : ClassId} {first : Address} {sequence : Sequence}
    (source : Source yielder id first sequence fun _ => Eq) (start : World) (address : Address) (count : Nat)
    (world : World) : Prop
  | intro {near : World} {mirror : Mirror} (stands : source.At count near) (twins : Twins yielder mirror)
      (reflects : mirror.Reflects near world) (type : mirror.type = id) (self : mirror.self = first)
      (copy : mirror.copy = address)
      (shares : ∀ {other}, mirror.shared other → other ≠ first ∧ ∃ object, start.heap.get? other = some object)

/-- What is like an element that the first yielder has found. -/
def Source.Resembles {yielder : Yielder} {id : ClassId} {first : Address} {sequence : Sequence}
    (source : Source yielder id first sequence fun _ => Eq) (world : World) (value actual : Value) : Prop :=
  ∃ count near, source.At (count + 1) near ∧ sequence.element count = some value ∧
    Interpreter.Resembles near world value actual

section

variable {yielder : Yielder} {id : ClassId} {first : Address} {sequence : Sequence}
  {source : Source yielder id first sequence fun _ => Eq} {start : World} {address third : Address} {count : Nat}
  {world after : World}

/-- What looking for an element has changed: it has made arrays and exceptions, and the fields of the copy hold
something else. -/
theorem Mirror.apart {mirror : Mirror} {near found : World} (before : mirror.Reflects near mirror.far)
    (reflects : mirror.Reflects found after) : Apart mirror.copy mirror.far after where
  classes := reflects.classes.2
  larger := by
    rw [reflects.size]
    exact Nat.le_add_right _ _
  others different there := (reflects.old different (World.index_lt_size there)).trans there
  own {state} there := by
    obtain ⟨origin, _, here, carries⟩ := before.stands
    obtain ⟨origin', _, here', carries'⟩ := reflects.stands
    obtain rfl := Option.some.inj (there.symm.trans here)
    rw [carries'.same] at here'
    rw [carries.same]
    exact ⟨_, here'⟩

/-- A yielder finds the next element as the first one does. -/
theorem Reached.finds (reached : Reached source start address count world)
    (room : world.depth + source.margin ≤ depthLimit) :
    ∃ after, Finds yielder id address world (sequence.finding count) after ∧ Apart address world after ∧
      ∀ value, sequence.element count = some value → Reached source start address (count + 1) after := by
  obtain ⟨stands, twins, reflects, rfl, rfl, rfl, shares⟩ := reached
  rename_i near mirror
  obtain ⟨found, finds, onward⟩ := source.finds stands (by rwa [← reflects.depth])
  have twins' := twins.rebased reflects rfl (Nat.le_refl _)
  have reflects' := reflects.rebased twins.lawful rfl rfl rfl (fun _ there => there) fun _ => rfl
  obtain ⟨after, finds', still⟩ := twins'.finds finds reflects'
  exact ⟨after, finds', Mirror.apart reflects' still, fun value there =>
    .intro (onward value there) twins' still rfl rfl rfl shares⟩

/-- What is done with another yielder does not matter. -/
theorem Reached.of_apart (reached : Reached source start address count world) (apart : Apart third world after)
    (different : third ≠ address) (recent : Recent first start third)
    (object : ∀ other, world.heap.get? third = some other → other.instance? ≠ none) :
    Reached source start address count after := by
  obtain ⟨stands, twins, reflects, rfl, rfl, rfl, shares⟩ := reached
  rename_i near mirror
  have reflects' := reflects.atDepth after.depth
  obtain ⟨_, _, there, _⟩ := reflects'.stands
  refine .intro (source.level after.depth stands) (twins.rebased reflects' apart.classes apart.larger)
    (reflects'.rebased twins.lawful apart.classes rfl ?_ ?_ ?_) rfl rfl rfl shares
  · rw [World.instance?_eq_some.mp there]
    exact apart.others different.symm (World.instance?_eq_some.mp there)
  · intro other known strange there
    refine apart.others ?_ there
    rintro rfl
    exact object known there strange
  · intro other shared
    obtain ⟨different, _, before⟩ := shares shared
    obtain ⟨_, _, there⟩ := reflects'.shared shared
    exact (apart.others (recent.ne different before) there).trans there.symm

/-- A yielder that was just handed out. -/
theorem reached_of_born {confined : Confined yielder} {outers : List Address} {captured : Bindings Value}
    (hosted : Hosted yielder id start) (suits : confined.Suits id first captured start)
    (known : start.instance? first = some (yielder.beginning id outers captured)) (begins : source.At 0 start)
    (since : Since first start world) (recent : Recent first start address)
    (born : world.instance? address = some (yielder.beginning id outers captured)) :
    Reached source start address 0 world :=
  .intro (source.level world.depth begins) (twins_of_born hosted suits since recent born)
    (reflects_of_born since known born) rfl rfl rfl fun shared => shared

variable (source start address)

/-- Every yielder is a source of elements like those of the first one. -/
def sourceAt : Source yielder id address sequence source.Resembles where
  At := Reached source start address
  margin := source.margin
  deep := source.deep
  embodied := fun ⟨stands, twins, reflects, type, self, copy, _⟩ => by
    subst type self copy
    exact twins.embodied reflects (source.embodied stands)
  level depth := fun ⟨stands, twins, reflects, type, self, copy, shares⟩ =>
    .intro (source.level depth stands) twins (reflects.atDepth depth) type self copy shares
  unmarked flag flagged := fun ⟨stands, twins, reflects, type, self, copy, shares⟩ => by
    subst type self copy
    exact .intro (source.unmarked flag flagged stands) twins
      (reflects.putField (Mirror.held_of_plain rfl) twins.lawful) rfl rfl rfl shares
  finds reached room :=
    let ⟨after, finds, _, onward⟩ := reached.finds room
    ⟨after, finds, onward⟩
  held := fun ⟨stands, twins, reflects, type, self, copy, _⟩ there => by
    subst type self copy
    obtain ⟨_, holds, rfl⟩ := source.held stands there
    obtain ⟨state, here, _, carries⟩ := reflects.stands
    refine ⟨_, by rw [reflects.field?, holds]; rfl, _, _, stands, there, ?_⟩
    rw [World.field?, here] at holds
    exact reflects.resembles twins.lawful (carries.heldField holds) (Nat.le_refl _)

/-- Looking for an element leaves the other objects alone. -/
theorem spares : Spares (sourceAt source start address) (Apart address) where
  refl _ := .of_heap rfl (Nat.le_refl _) fun there => there
  trans := Apart.trans
  level := apart_atDepth
  grown := apart_grown
  put world value _ := apart_putField world _ value
  advance reached room := reached.finds room

variable {source start address}

/-- What is done with another yielder leaves an iterator where it stands. -/
theorem Stands.of_apart {progress : Progress} (stands : Stands (sourceAt source start address) progress world)
    (apart : Apart third world after) (different : third ≠ address) (recent : Recent first start third)
    (object : ∀ other, world.heap.get? third = some other → other.instance? ≠ none) :
    Stands (sourceAt source start address) progress after := by
  have same {name : String} {value : Value} (holds : world.field? address name = some value) :
      after.field? address name = some value := apart.field?_of_ne different.symm holds
  have onward {count : Nat} (reached : Reached source start address count world) :
      Reached source start address count after := reached.of_apart apart different recent object
  cases stands with
  | ready sought unknown reached => exact .ready (same sought) unknown (onward reached)
  | ahead sought found unknown there reached => exact .ahead (same sought) (same found) unknown there (onward reached)
  | exhausted sought found absent known embodied =>
    exact .exhausted (same sought) (same found) absent known (apart.embodied different.symm embodied)
  | broken sought absent known ended embodied =>
    exact .broken (same sought) absent known (same ended) (apart.embodied different.symm embodied)

end

end JavaWeave.Generator
