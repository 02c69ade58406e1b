import JavaWeave.Proofs.Generator.Copies

/-! The iterators of one iterable. Where the body of the generator touches nothing but its own variables and the
parameters of its method, each of them goes through the whole sequence, whatever is done with the others. -/

namespace JavaWeave.Generator

open Syntax Interpreter

/-- What a program does with an iterable. Objects are numbered in the order in which `iterator` handed them out. -/
inductive Deed where
  /-- Asks one of them for an iterator; before there is one, the iterable itself is asked. -/
  | iterator (index : Nat)
  | ask (index : Nat) (ask : Ask)

/-- Elements are only asked for from objects that were handed out, of which there are so many at first. -/
def allowed : Nat → List Deed → Bool
  | _, [] => true
  | count, .iterator index :: rest => (count == 0 || index < count) && allowed (count + 1) rest
  | count, .ask index _ :: rest => index < count && allowed count rest

/-- What one of the objects is asked for. -/
def asksOf (index : Nat) (deeds : List Deed) : List Ask :=
  deeds.filterMap fun deed =>
    match deed with
    | .iterator _ => none
    | .ask asked ask => if asked = index then some ask else none

/-- What one of the objects replies. -/
def repliesOf (index : Nat) (replies : List (Nat × Reply)) : List Reply :=
  replies.filterMap fun reply => if reply.1 = index then some reply.2 else none

/-- Deeds one after the other, which all come to an end. The first iterator is the iterable itself, each later one
is a new object, and each call on one of them shows what is given. -/
inductive Session (yielder : Yielder) (id : ClassId) (like : World → Value → Value → Prop) (first : Address) :
    World → List Address → List Deed → List (Nat × Reply) → Prop
  | done (world : World) (handed : List Address) : Session yielder id like first world handed [] []
  | first {world after : World} {index : Nat} {rest : List Deed} {replies : List (Nat × Reply)}
      (opens : Replies first "iterator" world (.ok (.ref first)) after)
      (onward : Session yielder id like first after [first] rest replies) :
      Session yielder id like first world [] (.iterator index :: rest) replies
  | later {world after : World} {handed : List Address} {index : Nat} {holder fresh : Address} {rest : List Deed}
      {replies : List (Nat × Reply)} (asked : handed[index]? = some holder)
      (opens : Replies holder "iterator" world (.ok (.ref fresh)) after) (new : world.heap.get? fresh = none)
      (onward : Session yielder id like first after (handed ++ [fresh]) rest replies) :
      Session yielder id like first world handed (.iterator index :: rest) replies
  | ask {world after : World} {handed : List Address} {index : Nat} {address : Address} {ask : Ask}
      {result : Except Unwind Value} {reply : Reply} {rest : List Deed} {replies : List (Nat × Reply)}
      (asked : handed[index]? = some address) (comes : Replies address ask.name world result after)
      (shows : Shows yielder id like address world reply result after)
      (onward : Session yielder id like first after handed rest replies) :
      Session yielder id like first world handed (.ask index ask :: rest) ((index, reply) :: replies)

section

variable {yielder : Yielder} {id : ClassId} {first : Address} {sequence : Sequence}
  (source : Source yielder id first sequence fun _ => Eq) (start : World) (outers : List Address)
  (captured : Bindings Value)

/-- The iterators that were handed out stand where their users have come to, and see the same. -/
structure Shared (handed : List Address) (progress : Nat → Progress) (world : World) : Prop where
  since : Since first start world
  distinct : handed.Nodup
  recent : ∀ {address}, address ∈ handed → Recent first start address
  stands : ∀ {index address}, handed[index]? = some address →
    Stands (sourceAt source start address) (progress index) world
  kin : ∀ {address}, address ∈ handed →
    ∃ state, world.instance? address = some state ∧ state.outers = outers ∧ state.captured = captured
  unused : ∀ {index}, handed.length ≤ index → progress index = {}

variable {source start outers captured} {handed : List Address} {progress : Nat → Progress} {world after : World}

/-- A call on one of the iterators moves this one on and leaves the others where they stand. -/
theorem Shared.ask {index : Nat} {address : Address} {moved : Progress}
    (shared : Shared source start outers captured handed progress world)
    (asked : handed[index]? = some address) (apart : Apart address world after)
    (stands : Stands (sourceAt source start address) moved after) :
    Shared source start outers captured handed (Function.update progress index moved) after where
  distinct := shared.distinct
  since := shared.since.step apart (shared.recent (List.mem_of_getElem? asked))
  recent := shared.recent
  stands {other address'} there := by
    by_cases same : other = index
    · subst same
      obtain rfl : address' = address := Option.some.inj (there.symm.trans asked)
      rwa [Function.update_self]
    · have different : address ≠ address' := by
        rintro rfl
        have inside := (List.getElem?_eq_some_iff.mp there).1
        exact same ((List.getElem?_inj inside shared.distinct).mp (there.trans asked.symm))
      rw [Function.update_of_ne same]
      obtain ⟨state, here, _⟩ := shared.kin (List.mem_of_getElem? asked)
      have recent := shared.recent (List.mem_of_getElem? asked)
      refine (shared.stands there).of_apart apart different recent fun other known => ?_
      obtain rfl := Option.some.inj ((World.instance?_eq_some.mp here).symm.trans known)
      exact Option.some_ne_none _
  kin {other} member := by
    obtain ⟨state, there, sees⟩ := shared.kin member
    by_cases same : other = address
    · subst same
      obtain ⟨fields, there⟩ := apart.own there
      exact ⟨_, there, sees⟩
    · exact ⟨state, apart.instance?_of_ne same there, sees⟩
  unused {other} beyond := by
    have inside := (List.getElem?_eq_some_iff.mp asked).1
    rw [Function.update_of_ne (by omega)]
    exact shared.unused beyond

/-- One more iterator stands at the beginning. -/
theorem Shared.grow {fresh : Address} (shared : Shared source start outers captured handed progress world)
    (new : world.heap.get? fresh = none) (recent : Recent first start fresh) (apart : Apart fresh world after)
    (born : after.instance? fresh = some (yielder.beginning id outers captured))
    (stands : Stands (sourceAt source start fresh) {} after) :
    Shared source start outers captured (handed ++ [fresh]) progress after := by
  have absent : ∀ address ∈ handed, address ≠ fresh := by
    rintro address member rfl
    obtain ⟨state, there, _⟩ := shared.kin member
    rw [World.instance?_eq_some, new] at there
    cases there
  refine ⟨shared.since.step apart recent, ?_, ?_, ?_, ?_, ?_⟩
  · simp only [List.nodup_append, shared.distinct, List.nodup_singleton, List.mem_singleton, true_and]
    rintro address member _ rfl
    exact absent address member
  · intro address member
    rcases List.mem_append.mp member with member | member
    · exact shared.recent member
    · obtain rfl := List.mem_singleton.mp member
      exact recent
  · intro index address there
    rcases Nat.lt_or_ge index handed.length with inside | beyond
    · rw [List.getElem?_append_left inside] at there
      have different := (absent address (List.mem_of_getElem? there)).symm
      refine (shared.stands there).of_apart apart different recent fun other known => ?_
      rw [new] at known
      cases known
    · rw [List.getElem?_append_right beyond, List.getElem?_singleton] at there
      split at there
      · obtain rfl := Option.some.inj there
        rwa [shared.unused beyond]
      · cases there
  · intro address member
    rcases List.mem_append.mp member with member | member
    · obtain ⟨state, there, sees⟩ := shared.kin member
      exact ⟨state, apart.instance?_of_ne (absent address member) there, sees⟩
    · obtain rfl := List.mem_singleton.mp member
      exact ⟨_, born, rfl, rfl⟩
  · intro index beyond
    rw [List.length_append] at beyond
    exact shared.unused (by omega)

end

section

variable {yielder : Yielder} {id : ClassId} {first address : Address} {sequence : Sequence}
  {confined : Confined yielder} {source : Source yielder id first sequence fun _ => Eq} {outers : List Address}
  {captured : Bindings Value} {world start : World}

/-- A yielder that was just handed out stands at the beginning, like the one of which the sequence is known. -/
theorem stands_beginning (unreserved : yielder.Unreserved) (hosted : Hosted yielder id start)
    (suits : confined.Suits id first captured start)
    (known : start.instance? first = some (yielder.beginning id outers captured)) (begins : source.At 0 start)
    (since : Since first start world) (recent : Recent first start address)
    (born : world.instance? address = some (yielder.beginning id outers captured)) :
    Stands (sourceAt source start address) {} world := by
  obtain ⟨_, _, sought, _⟩ := Yielder.born unreserved
  have unsought : world.field? address soughtName = some (.bool false) := by
    rw [World.field?, born]
    simpa [Yielder.beginning, stateName, soughtName] using sought
  exact .ready unsought rfl (reached_of_born hosted suits known begins since recent born)

/-- What a generator needs besides a body so that its iterators can be told apart: it is iterable, its states can
be numbered, and neither its variables nor its class have names that stand for something else. -/
structure Yielder.Iterable (yielder : Yielder) : Prop where
  iterable : yielder.shape.iterable = true
  fits : yielder.numbering.Fits
  unreserved : yielder.Unreserved
  simple : Text.split '.' yielder.decl.name = [yielder.decl.name]

variable (iterable : yielder.Iterable)

include iterable

/-- An iterator that was handed out hands out a new one. -/
theorem Stands.iterator {progress : Progress} {state : Instance}
    (stands : Stands (sourceAt source start address) progress world) (room : world.depth + 2 ≤ depthLimit)
    (there : world.instance? address = some state) :
    Replies address "iterator" world (.ok (.ref world.frontier))
      (yielder.opened id state.outers state.captured world) := by
  have embodied := stands.embodied
  obtain ⟨_, found, typed⟩ := embodied.typed
  obtain rfl := Option.some.inj (there.symm.trans found)
  obtain ⟨target, holds⟩ := embodied.state
  refine embodied.replies (profile_iterator _ _) (mem_iterator iterable.iterable) ⟨3, fun fuel sufficient => ?_⟩
  obtain ⟨fuel, rfl⟩ : ∃ less, fuel = less + 3 := ⟨fuel - 3, by omega⟩
  exact iterator_later room embodied.hosted iterable.iterable iterable.unreserved iterable.simple there typed holds
    (Yielder.number_ne_zero iterable.iterable iterable.fits target)

/-- What is done with the iterators ends, and each of them replies as the sequence says. -/
theorem Shared.session {handed : List Address} {progress : Nat → Progress} {deeds : List Deed}
    (hosted : Hosted yielder id start) (suits : confined.Suits id first captured start)
    (known : start.instance? first = some (yielder.beginning id outers captured)) (begins : source.At 0 start)
    (shared : Shared source start outers captured handed progress world) (some_ : handed ≠ [])
    (room : world.depth + 2 + source.margin ≤ depthLimit) (fine : allowed handed.length deeds = true) :
    ∃ replies, Session yielder id source.Resembles first world handed deeds replies ∧
      ∀ index, repliesOf index replies = sequence.replies (progress index) (asksOf index deeds) := by
  have deep := source.deep
  induction deeds generalizing handed progress world with
  | nil => exact ⟨[], .done world handed, fun _ => rfl⟩
  | cons deed rest ih =>
    cases deed with
    | iterator index =>
      simp only [allowed, Bool.and_eq_true, Bool.or_eq_true, beq_iff_eq, List.length_eq_zero_iff, some_, false_or,
        decide_eq_true_eq] at fine
      have asked := List.getElem?_eq_getElem fine.1
      have stands := shared.stands asked
      obtain ⟨state, there, rfl, rfl⟩ := shared.kin (List.mem_of_getElem? asked)
      have opens := stands.iterator iterable (by omega) there
      have born : (yielder.opened id state.outers state.captured world).instance? world.frontier =
          some (yielder.beginning id state.outers state.captured) := by
        simp [Yielder.opened, Yielder.beginning, Yielder.newborn]
      have apart : Apart world.frontier world (yielder.opened id state.outers state.captured world) :=
        (apart_grown _ _).trans (apart_putField _ _ _)
      have depth : (yielder.opened id state.outers state.captured world).depth = world.depth :=
        World.depth_putField _ _ _ _
      have recent : Recent first start world.frontier := Or.inr shared.since.larger
      have grown := shared.grow world.get?_frontier recent apart born
        (stands_beginning iterable.unreserved hosted suits known begins (shared.since.step apart recent) recent born)
      obtain ⟨replies, session, heard⟩ := ih grown (by simp) (by omega) (by simpa using fine.2)
      exact ⟨replies, .later asked opens world.get?_frontier session, heard⟩
    | ask index ask =>
      simp only [allowed, Bool.and_eq_true, decide_eq_true_eq] at fine
      have asked := List.getElem?_eq_getElem fine.1
      obtain ⟨result, after, comes, shown, onward, depth, apart⟩ :=
        (shared.stands asked).reply (spares source start _) iterable.fits room ask
      obtain ⟨replies, session, heard⟩ := ih (shared.ask asked apart onward) some_ (by omega) fine.2
      refine ⟨_, .ask asked comes shown session, fun other => ?_⟩
      have rest := heard other
      by_cases same : index = other
      · subst same
        simp only [repliesOf, asksOf, List.filterMap_cons, if_true, Sequence.replies, List.cons.injEq, true_and]
        rwa [Function.update_self] at rest
      · simp only [repliesOf, asksOf, List.filterMap_cons, same, if_false]
        rwa [Function.update_of_ne (Ne.symm same)] at rest

end

end JavaWeave.Generator
