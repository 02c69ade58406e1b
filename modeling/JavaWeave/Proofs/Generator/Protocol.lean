import JavaWeave.Proofs.Generator.Breakdown

/-! The protocol of an iterator over the elements of a generator. What calls reply follows from the sequence of the
elements and from how many have been handed out; that elements are looked for ahead of time cannot be seen. -/

namespace JavaWeave.Generator

open Syntax Interpreter

/-- The elements of a generator in their order; behind the last there is none. -/
structure Sequence where
  element : Nat → Option Value
  /-- Whether the body ends in an exception that none of its try statements takes. -/
  fails : Bool

/-- A call on an iterator. -/
inductive Ask where
  | hasNext
  | next
  deriving DecidableEq

def Ask.name : Ask → String
  | .hasNext => "hasNext"
  | .next => "next"

/-- What a call replies. -/
inductive Reply where
  | more (there : Bool)
  | element (value : Value)
  | noElement
  | breakdown

/-- How far an iterator has come, as its user knows. -/
structure Progress where
  delivered : Nat := 0
  failed : Bool := false

/-- What a call replies and how far the iterator has then come. The exception of the body comes out once. -/
def Sequence.reply (sequence : Sequence) (progress : Progress) (ask : Ask) : Reply × Progress :=
  match sequence.element progress.delivered, ask with
  | some _, .hasNext => (.more true, progress)
  | some value, .next => (.element value, { progress with delivered := progress.delivered + 1 })
  | none, ask =>
    if sequence.fails && !progress.failed then (.breakdown, { progress with failed := true })
    else match ask with
      | .hasNext => (.more false, progress)
      | .next => (.noElement, progress)

/-- What calls reply one after the other. -/
def Sequence.replies (sequence : Sequence) : Progress → List Ask → List Reply
  | _, [] => []
  | progress, ask :: rest =>
    (sequence.reply progress ask).1 :: sequence.replies (sequence.reply progress ask).2 rest

/-- How far the iterator has come after calls. -/
def Sequence.progress (sequence : Sequence) : Progress → List Ask → Progress
  | progress, [] => progress
  | progress, ask :: rest => sequence.progress (sequence.reply progress ask).2 rest

/-- What a call replies when it is known that there is no further element. -/
def Ask.atEnd : Ask → Reply
  | .hasNext => .more false
  | .next => .noElement

/-- The element that a call hands out. -/
def Reply.value? : Reply → Option Value
  | .element value => some value
  | _ => none

/-- Whether a reply shows that there is no further element. -/
def Reply.ends : Reply → Bool
  | .more there => !there
  | .element _ => false
  | .noElement | .breakdown => true

namespace Sequence

variable {sequence : Sequence} {progress : Progress}

theorem reply_of_some {value : Value} (found : sequence.element progress.delivered = some value) (ask : Ask) :
    sequence.reply progress ask =
      match ask with
      | .hasNext => (.more true, progress)
      | .next => (.element value, { progress with delivered := progress.delivered + 1 }) := by
  cases ask <;> simp [reply, found]

theorem reply_of_failing (absent : sequence.element progress.delivered = none) (fails : sequence.fails = true)
    (unknown : progress.failed = false) (ask : Ask) :
    sequence.reply progress ask = (.breakdown, { progress with failed := true }) := by
  simp [reply, absent, fails, unknown]

theorem reply_of_none (absent : sequence.element progress.delivered = none)
    (known : sequence.fails = true → progress.failed = true) (ask : Ask) :
    sequence.reply progress ask = (ask.atEnd, progress) := by
  have told : (sequence.fails && !progress.failed) = false := by
    cases fails : sequence.fails with
    | false => rfl
    | true => simp [known fails]
  cases ask <;> simp [reply, absent, told, Ask.atEnd]

end Sequence

/-- What a call that looks for an element comes to. -/
inductive Finding where
  | element
  | finished
  | breakdown

/-- What looking for one more element comes to when so many have been found. -/
def Sequence.finding (sequence : Sequence) (count : Nat) : Finding :=
  match sequence.element count with
  | some _ => .element
  | none => if sequence.fails then .breakdown else .finished

/-- Looking for an element leaves the depth of calls as it was, and does not say of itself that it was done. -/
structure Steady (address : Address) (world after : World) : Prop where
  depth : after.depth = world.depth
  sought : after.field? address soughtName = world.field? address soughtName

/-- What looking for an element does, by what it comes to. -/
inductive Finds (yielder : Yielder) (id : ClassId) (address : Address) (world : World) : Finding → World → Prop
  /-- An element is found. -/
  | element {after : World} (comes : Comes (yielder.advancing id address) world (.ok (.bool true)) after)
      (steady : Steady address world after) (embodied : Embodied yielder id address after) :
      Finds yielder id address world .element after
  /-- The body comes to its end. -/
  | finished {after : World} (comes : Comes (yielder.advancing id address) world (.ok (.bool false)) after)
      (steady : Steady address world after) (embodied : Embodied yielder id address after) :
      Finds yielder id address world .finished after
  /-- The body throws an exception that none of its try statements takes. Asking the exception for its text leaves
  the yielder alone. -/
  | breakdown {thrown : Value} {searched told : World} {said : Except Unwind String}
      (uncaught : Uncaught yielder id address world thrown searched)
      (tells : Comes (.text thrown) (searched.putField address stateName (.int (-1))) said told)
      (depth : told.depth = world.depth + 2)
      (sought : told.field? address soughtName = world.field? address soughtName)
      (ended : told.field? address stateName = some (.int (-1))) (embodied : Embodied yielder id address told) :
      Finds yielder id address world .breakdown told

/-- A yielder whose method `getNext` is a source of the elements of a sequence. Each position in the sequence is a
property of the world that does not depend on the flags of the look-ahead. What stands for an element in a world is
`like` that element. -/
structure Source (yielder : Yielder) (id : ClassId) (address : Address) (sequence : Sequence)
    (like : World → Value → Value → Prop) where
  /-- So many elements have been looked for and found. -/
  At : Nat → World → Prop
  /-- How deep the calls may be nested that look for an element. -/
  margin : Nat
  deep : 2 ≤ margin
  embodied : ∀ {count world}, At count world → Embodied yielder id address world
  level : ∀ {count world} depth, At count world → At count (world.atDepth depth)
  unmarked : ∀ {count world name} flag, name = hasNextName ∨ name = soughtName → At count world →
    At count (world.putField address name (.bool flag))
  finds : ∀ {count world}, At count world → world.depth + margin ≤ depthLimit →
    ∃ after, Finds yielder id address world (sequence.finding count) after ∧
      ∀ value, sequence.element count = some value → At (count + 1) after
  /-- The last element that was found is held. -/
  held : ∀ {count world value}, At (count + 1) world → sequence.element count = some value →
    ∃ actual, world.field? address elementName = some actual ∧ like world value actual

section

variable {yielder : Yielder} {id : ClassId} {address : Address} {sequence : Sequence}
  {like : World → Value → Value → Prop}

/-- Where an iterator stands whose user has come so far. -/
inductive Stands (source : Source yielder id address sequence like) (progress : Progress) (world : World) : Prop
  /-- The next element has not been looked for. -/
  | ready (sought : world.field? address soughtName = some (.bool false)) (unknown : progress.failed = false)
      (stands : source.At progress.delivered world)
  /-- The next element has been found. -/
  | ahead {value : Value} (sought : world.field? address soughtName = some (.bool true))
      (found : world.field? address hasNextName = some (.bool true)) (unknown : progress.failed = false)
      (there : sequence.element progress.delivered = some value)
      (stands : source.At (progress.delivered + 1) world)
  /-- It is known that there is no further element. -/
  | exhausted (sought : world.field? address soughtName = some (.bool true))
      (found : world.field? address hasNextName = some (.bool false))
      (absent : sequence.element progress.delivered = none)
      (known : sequence.fails = true → progress.failed = true) (embodied : Embodied yielder id address world)
  /-- The body has thrown an exception. -/
  | broken (sought : world.field? address soughtName = some (.bool false))
      (absent : sequence.element progress.delivered = none) (known : progress.failed = true)
      (ended : world.field? address stateName = some (.int (-1))) (embodied : Embodied yielder id address world)

variable {source : Source yielder id address sequence like} {progress : Progress} {world : World}

theorem Stands.embodied (stands : Stands source progress world) : Embodied yielder id address world := by
  cases stands with
  | ready _ _ stands => exact source.embodied stands
  | ahead _ _ _ _ stands => exact source.embodied stands
  | exhausted _ _ _ _ embodied => exact embodied
  | broken _ _ _ _ embodied => exact embodied

theorem Stands.atDepth (stands : Stands source progress world) (depth : Nat) :
    Stands source progress (world.atDepth depth) := by
  cases stands with
  | ready sought unknown stands => exact .ready sought unknown (source.level depth stands)
  | ahead sought found unknown there stands => exact .ahead sought found unknown there (source.level depth stands)
  | exhausted sought found absent known embodied =>
    exact .exhausted sought found absent known (embodied.atDepth depth)
  | broken sought absent known ended embodied => exact .broken sought absent known ended (embodied.atDepth depth)

/-- What a call shows to the user: an element, or something like it. The exception of a breakdown has the exception of
the body as its cause; where the text of that one cannot be had, what asking for it throws comes out. -/
inductive Shows (yielder : Yielder) (id : ClassId) (like : World → Value → Value → Prop) (address : Address)
    (world : World) : Reply → Except Unwind Value → World → Prop
  | more (there : Bool) (after : World) : Shows yielder id like address world (.more there) (.ok (.bool there)) after
  | element {value actual : Value} {after : World} (resembles : like after value actual) :
      Shows yielder id like address world (.element value) (.ok (coerce yielder.shape.element actual)) after
  | noElement {thrown : Address} {after : World} (made : after.heap.get? thrown = some noElement) :
      Shows yielder id like address world .noElement (.error (.thrown (.ref thrown))) after
  | cause {depth : Nat} {cause : Value} {searched told after : World} {text : String} {thrown : Address}
      (uncaught : Uncaught yielder id address (world.atDepth depth) cause searched)
      (tells : Comes (.text cause) (searched.putField address stateName (.int (-1))) (.ok text) told)
      (made : after.heap.get? thrown = some (brokenBy cause text)) :
      Shows yielder id like address world .breakdown (.error (.thrown (.ref thrown))) after
  | mute {depth : Nat} {cause : Value} {searched told after : World} {unwind : Unwind}
      (uncaught : Uncaught yielder id address (world.atDepth depth) cause searched)
      (tells : Comes (.text cause) (searched.putField address stateName (.int (-1))) (.error unwind) told) :
      Shows yielder id like address world .breakdown (.error unwind) after

/-- What may become of the world when elements are looked for: a relation that what the yielder does otherwise
respects. -/
structure Spares (source : Source yielder id address sequence like) (Keeps : World → World → Prop) : Prop where
  refl : ∀ world, Keeps world world
  trans : ∀ {first second third}, Keeps first second → Keeps second third → Keeps first third
  level : ∀ world depth, Keeps world (world.atDepth depth)
  grown : ∀ world object, Keeps world (world.grown object)
  put : ∀ {name} world value, name = hasNextName ∨ name = soughtName →
    Keeps world (world.putField address name value)
  advance : ∀ {count world}, source.At count world → world.depth + source.margin ≤ depthLimit →
    ∃ after, Finds yielder id address world (sequence.finding count) after ∧ Keeps world after ∧
      ∀ value, sequence.element count = some value → source.At (count + 1) after

/-- How looking ahead may end. -/
inductive Looked (source : Source yielder id address sequence like) (progress : Progress) (world : World) :
    Except Unwind Value → World → Prop
  | found {value : Value} {after : World} (sought : after.field? address soughtName = some (.bool true))
      (found : after.field? address hasNextName = some (.bool true)) (unknown : progress.failed = false)
      (there : sequence.element progress.delivered = some value) (stands : source.At (progress.delivered + 1) after) :
      Looked source progress world (.ok (.bool true)) after
  | none {after : World} (sought : after.field? address soughtName = some (.bool true))
      (found : after.field? address hasNextName = some (.bool false))
      (absent : sequence.element progress.delivered = none)
      (known : sequence.fails = true → progress.failed = true) (embodied : Embodied yielder id address after) :
      Looked source progress world (.ok (.bool false)) after
  | breaks {cause : Value} {searched told : World} {said : Except Unwind String}
      (absent : sequence.element progress.delivered = none) (fails : sequence.fails = true)
      (unknown : progress.failed = false)
      (uncaught : Uncaught yielder id address (world.atDepth (world.depth + 1)) cause searched)
      (tells : Comes (.text cause) (searched.putField address stateName (.int (-1))) said told)
      (sought : told.field? address soughtName = some (.bool false))
      (ended : told.field? address stateName = some (.int (-1))) (embodied : Embodied yielder id address told) :
      Looked source progress world (.error (breakdown cause said told).1)
        ((breakdown cause said told).2.atDepth world.depth)

/-- The world in which it has been kept what looking for an element came to. -/
def lookedUp (address : Address) (more : Bool) (world : World) : World :=
  ((world.putField address hasNextName (.bool more)).putField address soughtName (.bool true)).atDepth
    (world.depth - 1)

private theorem fields_lookedUp (more : Bool) (embodied : Embodied yielder id address world) :
    (lookedUp address more world).field? address soughtName = some (.bool true) ∧
    (lookedUp address more world).field? address hasNextName = some (.bool more) := by
  obtain ⟨state, there, _⟩ := embodied.typed
  simp [lookedUp, there, soughtName, hasNextName]

private theorem embodied_lookedUp {more : Bool} (embodied : Embodied yielder id address world) :
    Embodied yielder id address (lookedUp address more world) :=
  ((embodied.putField fun same => absurd same (by decide)).putField fun same => absurd same (by decide)).atDepth _

private theorem at_lookedUp {count : Nat} {more : Bool} (stands : source.At count world) :
    source.At count (lookedUp address more world) :=
  source.level _ (source.unmarked true (Or.inr rfl) (source.unmarked more (Or.inl rfl) stands))

/-- A call of `hasNext` when the next element has been looked for. -/
private theorem comes_of_sought {more : Bool} (room : world.depth < depthLimit)
    (sought : world.field? address soughtName = some (.bool true))
    (found : world.field? address hasNextName = some (.bool more)) :
    Comes (.invoke id hasNextMethod (some address) []) world (.ok (.bool more)) world := by
  refine ⟨1, fun fuel sufficient => ?_⟩
  obtain ⟨fuel, rfl⟩ : ∃ less, fuel = less + 1 := ⟨fuel - 1, by omega⟩
  exact hasNext_of_sought room sought found

/-- A breakdown shows its cause, and leaves an iterator without further elements. -/
private theorem shows_breakdown {depth : Nat} {cause : Value} {searched told : World}
    {said : Except Unwind String} (uncaught : Uncaught yielder id address (world.atDepth depth) cause searched)
    (tells : Comes (.text cause) (searched.putField address stateName (.int (-1))) said told) (outer : Nat) :
    Shows yielder id like address world .breakdown (.error (breakdown cause said told).1)
      ((breakdown cause said told).2.atDepth outer) := by
  cases said with
  | ok text =>
    refine .cause uncaught tells ?_
    change (told.grown (brokenBy cause text)).heap.get? told.frontier = some (brokenBy cause text)
    rw [World.get?_grown, if_pos rfl]
  | error unwind => exact .mute uncaught tells

private theorem stands_breakdown {cause : Value} {told : World} {said : Except Unwind String}
    (absent : sequence.element progress.delivered = none)
    (sought : told.field? address soughtName = some (.bool false))
    (ended : told.field? address stateName = some (.int (-1))) (embodied : Embodied yielder id address told)
    (outer : Nat) :
    Stands source { progress with failed := true } ((breakdown cause said told).2.atDepth outer) := by
  cases said with
  | ok text =>
    exact .broken (World.field?_grown_of_some _ _ sought _) absent rfl (World.field?_grown_of_some _ _ ended _)
      ((embodied.grown _).atDepth outer)
  | error unwind => exact .broken sought absent rfl ended (embodied.atDepth outer)

/-- A call on an object comes to a result. -/
def Replies (address : Address) (name : String) (world : World) (result : Except Unwind Value) (after : World) :
    Prop :=
  Settles (fun fuel => dispatch (performer fuel) (.ref address) name []) world result after

/-- A call on a yielder runs the method of the yielder. -/
theorem Embodied.replies {method : Method} {name : String} {result : Except Unwind Value} {after : World}
    (embodied : Embodied yielder id address world) (profile : Profile method name 0)
    (member : method ∈ yielder.decl.methods)
    (comes : Comes (.invoke id method (some address) []) world result after) :
    Replies address name world result after := by
  obtain ⟨state, there, typed⟩ := embodied.typed
  obtain ⟨enough, comes⟩ := comes
  refine ⟨enough, fun fuel sufficient => ?_⟩
  have found : world.classes.method? state.type name ([] : List Value).length = some (id, method) := by
    rw [typed]
    exact embodied.hosted.method?_of_mem profile member
  exact (dispatch_own there found).trans (comes fuel sufficient)

variable {Keeps : World → World → Prop} (spares : Spares source Keeps)

include spares

private theorem Spares.lookedUp (more : Bool) (world : World) : Keeps world (lookedUp address more world) :=
  spares.trans (spares.put _ _ (Or.inl rfl)) (spares.trans (spares.put _ _ (Or.inr rfl)) (spares.level _ _))

private theorem Spares.breakdown (cause : Value) (said : Except Unwind String) (world : World) :
    Keeps world (breakdown cause said world).2 := by
  cases said with
  | ok text => exact spares.grown _ _
  | error unwind => exact spares.refl _

variable (fits : yielder.numbering.Fits)

include fits

/-- Asking for the next element from any place where the iterator may stand. -/
theorem Stands.look (stands : Stands source progress world) (room : world.depth + 1 + source.margin ≤ depthLimit) :
    ∃ result after, Comes (.invoke id hasNextMethod (some address) []) world result after ∧
      Looked source progress world result after ∧ after.depth = world.depth ∧ Keeps world after := by
  have deep := source.deep
  have shallow : world.depth < depthLimit := by omega
  have embodied := stands.embodied
  cases stands with
  | ahead sought found unknown there stands =>
    exact ⟨_, world, comes_of_sought shallow sought found, .found sought found unknown there stands, rfl,
      spares.refl _⟩
  | exhausted sought found absent known embodied =>
    exact ⟨_, world, comes_of_sought shallow sought found, .none sought found absent known embodied, rfl,
      spares.refl _⟩
  | broken sought absent known ended embodied =>
    have inner := embodied.atDepth (world.depth + 1)
    have looks : Comes (yielder.advancing id address) (world.atDepth (world.depth + 1)) (.ok (.bool false))
        (world.atDepth (world.depth + 1)) := getNext_at_end fits (by simp; omega) ended
    obtain ⟨marked, kept⟩ := fields_lookedUp false inner
    exact ⟨_, _, looks.step fun _ looks => hasNext_of_unsought shallow embodied sought looks inner,
      .none marked kept absent (fun _ => known) (embodied_lookedUp inner), rfl,
      spares.trans (spares.level _ _) (spares.lookedUp _ _)⟩
  | ready sought unknown stands =>
    have inner := source.level (world.depth + 1) stands
    have within : (world.atDepth (world.depth + 1)).depth + source.margin ≤ depthLimit := by simp; omega
    obtain ⟨after, finds, kept, onward⟩ := spares.advance inner within
    unfold Sequence.finding at finds
    cases there : sequence.element progress.delivered with
    | some value =>
      rw [there] at finds
      cases finds with
      | element looks steady still =>
        obtain ⟨marked, found⟩ := fields_lookedUp true still
        exact ⟨_, _, looks.step fun _ looks => hasNext_of_unsought shallow embodied sought looks still,
          .found marked found unknown there (at_lookedUp (onward value there)),
          by simp [steady.depth], spares.trans (spares.level _ _) (spares.trans kept (spares.lookedUp _ _))⟩
    | none =>
      rw [there] at finds
      cases fails : sequence.fails with
      | false =>
        rw [fails] at finds
        cases finds with
        | finished looks steady still =>
          obtain ⟨marked, found⟩ := fields_lookedUp false still
          exact ⟨_, _, looks.step fun _ looks => hasNext_of_unsought shallow embodied sought looks still,
            .none marked found there (by simp [fails]) (embodied_lookedUp still), by simp [steady.depth],
            spares.trans (spares.level _ _) (spares.trans kept (spares.lookedUp _ _))⟩
      | true =>
        rw [fails] at finds
        cases finds with
        | @breakdown cause searched _ said uncaught tells depth unmarked ended still =>
          have breaks := uncaught.comes fits (by simp at within ⊢; omega) tells
          have back : after.depth - 2 - 1 = world.depth := by simp [depth]
          have calls : Comes (.invoke id hasNextMethod (some address) []) world
              (.error (Generator.breakdown cause said after).1)
              ((Generator.breakdown cause said after).2.atDepth world.depth) := by
            refine breaks.step fun _ breaks => (hasNext_of_error shallow embodied sought breaks).trans ?_
            rw [World.depth_atDepth, World.atDepth_atDepth, back]
          refine ⟨_, _, calls, .breaks there fails unknown uncaught tells (unmarked.trans sought) ended still, rfl,
            ?_⟩
          exact spares.trans (spares.level _ _)
            (spares.trans kept (spares.trans (spares.breakdown _ _ _) (spares.level _ _)))

/-- `hasNext` replies as the sequence says. -/
private theorem Stands.reply_hasNext (stands : Stands source progress world)
    (room : world.depth + 1 + source.margin ≤ depthLimit) :
    ∃ result after, Comes (.invoke id hasNextMethod (some address) []) world result after ∧
      Shows yielder id like address world (sequence.reply progress .hasNext).1 result after ∧
      Stands source (sequence.reply progress .hasNext).2 after ∧ after.depth = world.depth ∧ Keeps world after := by
  obtain ⟨result, after, comes, looked, depth, kept⟩ := stands.look spares fits room
  refine ⟨result, after, comes, ?_⟩
  cases looked with
  | found sought found unknown there onward =>
    rw [Sequence.reply_of_some there]
    exact ⟨.more _ _, .ahead sought found unknown there onward, depth, kept⟩
  | none sought found absent known embodied =>
    rw [Sequence.reply_of_none absent known]
    exact ⟨.more _ _, .exhausted sought found absent known embodied, depth, kept⟩
  | breaks absent fails unknown uncaught tells sought ended embodied =>
    rw [Sequence.reply_of_failing absent fails unknown]
    exact ⟨shows_breakdown uncaught tells _, stands_breakdown absent sought ended embodied _, depth, kept⟩

/-- `next` replies as the sequence says. -/
private theorem Stands.reply_next (stands : Stands source progress world)
    (room : world.depth + 2 + source.margin ≤ depthLimit) :
    ∃ result after, Comes (.invoke id (nextMethod yielder.shape.element) (some address) []) world result after ∧
      Shows yielder id like address world (sequence.reply progress .next).1 result after ∧
      Stands source (sequence.reply progress .next).2 after ∧ after.depth = world.depth ∧ Keeps world after := by
  have embodied := stands.embodied
  have shallow : world.depth < depthLimit := by omega
  obtain ⟨result, after, comes, looked, depth, kept⟩ :=
    (stands.atDepth (world.depth + 1)).look spares fits (by simp; omega)
  rw [World.depth_atDepth] at depth
  have outer : Keeps world after := spares.trans (spares.level _ _) kept
  cases looked with
  | found sought found unknown there onward =>
    rw [Sequence.reply_of_some there]
    have still := source.embodied onward
    obtain ⟨state, typed, _⟩ := still.typed
    have marked := source.level (after.depth - 1) (source.unmarked false (Or.inr rfl) onward)
    obtain ⟨actual, holds, resembles⟩ := source.held marked there
    have held : after.field? address elementName = some actual := by
      rw [← holds, World.field?_atDepth, World.field?_putField, if_neg (by simp [elementName, soughtName])]
    exact ⟨_, _, comes.step fun _ finds => next_of_more embodied shallow finds still held, .element resembles,
      .ready (by simp [typed]) unknown marked, by simp [depth],
      spares.trans outer (spares.trans (spares.put _ _ (Or.inr rfl)) (spares.level _ _))⟩
  | none sought found absent known still =>
    rw [Sequence.reply_of_none absent known]
    have made : ((after.grown noElement).atDepth (after.depth - 1)).heap.get? after.frontier = some noElement := by
      change (after.grown noElement).heap.get? after.frontier = some noElement
      rw [World.get?_grown, if_pos rfl]
    exact ⟨_, _, comes.step fun _ finds => next_of_end embodied shallow finds still, .noElement made,
      .exhausted (World.field?_grown_of_some _ _ sought _) (World.field?_grown_of_some _ _ found _) absent known
        ((still.grown _).atDepth _),
      by simp [depth], spares.trans outer (spares.trans (spares.grown _ _) (spares.level _ _))⟩
  | breaks absent fails unknown uncaught tells sought ended still =>
    rw [Sequence.reply_of_failing absent fails unknown]
    have nested : Uncaught yielder id address (world.atDepth (world.depth + 2)) _ _ := uncaught
    exact ⟨_, _, comes.step fun _ breaks => next_of_error embodied shallow breaks,
      shows_breakdown nested tells _, stands_breakdown absent sought ended still _, rfl,
      spares.trans outer (spares.level _ _)⟩

/-- A call replies as the sequence says, from any place where the iterator may stand, and leaves the iterator
where it then should stand. -/
theorem Stands.reply (stands : Stands source progress world) (room : world.depth + 2 + source.margin ≤ depthLimit)
    (ask : Ask) :
    ∃ result after, Replies address ask.name world result after ∧
      Shows yielder id like address world (sequence.reply progress ask).1 result after ∧
      Stands source (sequence.reply progress ask).2 after ∧ after.depth = world.depth ∧ Keeps world after := by
  have embodied := stands.embodied
  cases ask with
  | hasNext =>
    obtain ⟨result, after, comes, rest⟩ := stands.reply_hasNext spares fits (by omega)
    exact ⟨result, after, embodied.replies profile_hasNext mem_hasNext comes, rest⟩
  | next =>
    obtain ⟨result, after, comes, rest⟩ := stands.reply_next spares fits room
    exact ⟨result, after, embodied.replies (profile_next _) mem_next comes, rest⟩

end

section

variable {yielder : Yielder} {id : ClassId} {address : Address} {sequence : Sequence}
  {like : World → Value → Value → Prop}

end

end JavaWeave.Generator
