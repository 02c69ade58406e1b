import JavaWeave.Proofs.Generator.Breakdown
import JavaWeave.Proofs.Generator.Bypass
import JavaWeave.Proofs.Generator.IteratorProtocol
import JavaWeave.Proofs.Generator.Traced
import JavaWeave.Proofs.Text.Pieces

namespace JavaWeave.Generator

open Syntax Interpreter

/-- What takes an exception: a clause for its type, or the finalizer of a region. -/
inductive Taker where
  | clause (entry : CatchEntry)
  | finalizer (region : Nat) (entry : Target)
deriving DecidableEq

namespace Taker

/-- The variable that the exception is put in. -/
def slot : Taker → String
  | .clause entry => entry.parameter
  | .finalizer region _ => pendingName region

/-- Where the body goes on. -/
def entry : Taker → Target
  | .clause entry => entry.entry
  | .finalizer _ entry => entry

/-- Whether an exception is taken. -/
def takes (world : World) (thrown : Value) : Taker → Bool
  | .clause entry => world.isInstance thrown entry.type
  | .finalizer .. => true

end Taker

/-- The takers of a part of a try statement, the first one first. What is thrown in a finalizer leaves the whole
try statement. -/
def Region.takers (region : Region) (index : Nat) : Part → List Taker
  | .body => region.catches.map .clause ++ (region.finalizer.map (.finalizer index)).toList
  | .handler => (region.finalizer.map (.finalizer index)).toList
  | .finalizer => []

theorem Region.mem_takers {region : Region} {index : Nat} {part : Part} {taker : Taker}
    (member : taker ∈ region.takers index part) :
    (∃ entry ∈ region.catches, taker = .clause entry) ∨
      ∃ entry, region.finalizer = some entry ∧ taker = .finalizer index entry := by
  cases part with
  | finalizer => cases member
  | handler =>
    obtain ⟨entry, given, rfl⟩ := Option.map_eq_some_iff.mp (Option.mem_toList.mp member)
    exact Or.inr ⟨entry, given, rfl⟩
  | body =>
    rcases List.mem_append.mp member with clause | last
    · obtain ⟨entry, inside, rfl⟩ := List.mem_map.mp clause
      exact Or.inl ⟨entry, inside, rfl⟩
    · obtain ⟨entry, given, rfl⟩ := Option.map_eq_some_iff.mp (Option.mem_toList.mp last)
      exact Or.inr ⟨entry, given, rfl⟩

/-- The takers of parts of try statements, one part after the other. -/
def Machine.takers (machine : Machine) (places : Context) : List Taker :=
  places.flatMap fun (index, part) => (machine.region index).takers index part

/-- Who takes an exception that is thrown in a context: the first taker from the innermost try statement outwards. -/
def Machine.taker? (machine : Machine) (world : World) (thrown : Value) (context : Context) : Option Taker :=
  (machine.takers context.reverse).find? (·.takes world thrown)

/-- A frame in which the search for a handler runs. -/
structure Searching (current : Address) (thrown : Value) (frame : Interpreter.Frame) : Prop where
  self : frame.self = some current
  caught : frame.get? caughtName = some thrown
  free : ∀ name, name ≠ caughtName → frame.get? name = none

/-- A taker that an exception can be handed to: its variable is a field of the object and not the parameter of the
search, and its type is no primitive one. -/
structure Taker.Open (taker : Taker) (current : Address) (world : World) : Prop where
  simple : Text.split '.' taker.slot = [taker.slot]
  other : taker.slot ≠ caughtName
  held : ∃ value, world.field? current taker.slot = some value
  object : ∀ entry, taker = .clause entry → entry.type.isPrimitive = false

section

variable {self thrownAt : Address} {thrown : Value} {frame : Interpreter.Frame} {world : World} {perform : Performer}
  {fuel : Nat} {numbering : Numbering}

theorem Searching.push (searching : Searching self thrown frame) : Searching self thrown frame.push where
  self := searching.self
  caught := searching.caught
  free := searching.free

/-- The statements that hand an exception to a taker. -/
def handOver (numbering : Numbering) (taker : Taker) (value : Expression) : List Statement :=
  [assignName taker.slot value, .returns (some (numbering.literal taker.entry))]

theorem outcome_handOver (taker : Taker) {value : Expression} (searching : Searching self (.ref thrownAt) frame)
    (opens : taker.Open self world)
    (gives : outcome (eval perform value) (frame, world) = (.ok (.ref thrownAt), (frame, world))) :
    outcome (execAll (.ofPerformer perform) fuel (handOver numbering taker value)) (frame, world) =
      (.ok (.returns (.int (numbering.number taker.entry))),
        (frame, world.putField self taker.slot (.ref thrownAt))) := by
  obtain ⟨held, holds⟩ := opens.held
  have literal : outcome (eval perform (numbering.literal taker.entry))
      (frame, world.putField self taker.slot (.ref thrownAt)) =
      (.ok (.int (numbering.number taker.entry)), (frame, world.putField self taker.slot (.ref thrownAt))) :=
    outcome_evalLiteral _ (.int _) _
  rw [handOver, outcome_execAll_cons, assignName,
    outcome_storeOwn searching.self (searching.free _ opens.other) opens.simple holds gives,
    conform_of_not_number rfl, andThen_normal, outcome_execAll_single, outcome_returns literal]

theorem outcome_evalCaught (searching : Searching self thrown frame) :
    outcome (eval perform (.name caughtName)) (frame, world) = (.ok thrown, (frame, world)) :=
  outcome_evalLocal searching.caught

theorem outcome_evalCast {type : JavaType} (searching : Searching self (.ref thrownAt) frame)
    (object : type.isPrimitive = false) (fits : world.isInstance (.ref thrownAt) type = true) :
    outcome (eval perform (.cast type (.name caughtName))) (frame, world) =
      (.ok (.ref thrownAt), (frame, world)) := by
  have isObject : (Value.ref thrownAt).isNull = false := rfl
  rw [eval_cast, outcome_bind, outcome_evalCaught searching, proceed_ok]
  simp only [castTo, object, isObject, Bool.false_eq_true, if_false, outcome_bind, outcome_world, outcome_frame,
    proceed_ok, fits, Bool.not_true, Bool.and_false, outcome_pure]

/-- A clause is handed an exception of its type, and lets others pass. -/
theorem outcome_offerTo {entry : CatchEntry} (searching : Searching self (.ref thrownAt) frame)
    (opens : (Taker.clause entry).Open self world) :
    outcome (exec (.ofPerformer perform) fuel none (offerTo numbering entry)) (frame, world) =
      if world.isInstance (.ref thrownAt) entry.type then
        (.ok (.returns (.int (numbering.number entry.entry))),
          (frame, world.putField self entry.parameter (.ref thrownAt)))
      else (.ok .normal, (frame, world)) := by
  have asked : outcome (eval perform (.instanceOf (.name caughtName) entry.type)) (frame, world) =
      (.ok (.bool (world.isInstance (.ref thrownAt) entry.type)), (frame, world)) := by
    rw [eval_instanceOf, outcome_bind, outcome_evalCaught searching]
    simp only [proceed_ok, outcome_bind, outcome_world, outcome_pure]
  cases fits : world.isInstance (.ref thrownAt) entry.type with
  | false =>
    rw [fits] at asked
    exact outcome_whenever_false asked
  | true =>
    rw [fits] at asked
    have handed : outcome (execAll (.ofPerformer perform) fuel (handOver numbering (.clause entry)
        (.cast entry.type (.name caughtName)))) (frame.push, world) = _ :=
      outcome_handOver (.clause entry) searching.push opens
        (outcome_evalCast searching.push (opens.object entry rfl) fits)
    rw [offerTo, outcome_whenever_true asked, exec_block, outcome_inScope, if_pos rfl]
    exact congrArg (fun ending : Except Unwind Flow × Point => (ending.1, ending.2.pop)) handed

/-- How a search ends, given who takes the exception: with the state in which the body goes on, or normally. -/
def searchEnd (numbering : Numbering) (self : Address) (thrown : Value) (point : Point) :
    Option Taker → Except Unwind Flow × Point
  | some taker =>
    (.ok (.returns (.int (numbering.number taker.entry))), (point.1, point.2.putField self taker.slot thrown))
  | none => (.ok .normal, point)

/-- A search goes on where nobody has taken the exception. -/
theorem andThen_searchEnd {first second : Option Taker} {point : Point} {next : Point → Except Unwind Flow × Point}
    (onward : next point = searchEnd numbering self thrown point second) :
    andThen (searchEnd numbering self thrown point first) next =
      searchEnd numbering self thrown point (first.or second) := by
  cases first with
  | none => exact onward
  | some taker => rfl

private theorem outcome_offers {entries : List CatchEntry} (searching : Searching self (.ref thrownAt) frame)
    (opens : ∀ entry ∈ entries, (Taker.clause entry).Open self world) :
    outcome (execAll (.ofPerformer perform) fuel (entries.map (offerTo numbering))) (frame, world) =
      searchEnd numbering self (.ref thrownAt) (frame, world)
        ((entries.map Taker.clause).find? (·.takes world (.ref thrownAt))) := by
  induction entries with
  | nil => exact outcome_execAll_nil _ _ _
  | cons entry rest ih =>
    have onward := ih fun entry member => opens entry (List.mem_cons_of_mem _ member)
    rw [List.map_cons, outcome_execAll_cons, outcome_offerTo searching (opens entry List.mem_cons_self),
      List.map_cons, List.find?_cons]
    cases fits : world.isInstance (.ref thrownAt) entry.type with
    | true => simp [Taker.takes, fits, searchEnd, Taker.entry, Taker.slot]
    | false => simpa [Taker.takes, fits] using onward

/-- The search for a handler walks through the takers around a place until one takes the exception. -/
theorem outcome_handlerSearch {machine : Machine} {places : Context}
    (searching : Searching self (.ref thrownAt) frame)
    (opens : ∀ taker ∈ machine.takers places, taker.Open self world) :
    outcome (execAll (.ofPerformer perform) fuel (handlerSearch machine numbering places)) (frame, world) =
      searchEnd numbering self (.ref thrownAt) (frame, world)
        ((machine.takers places).find? (·.takes world (.ref thrownAt))) := by
  induction places with
  | nil => exact outcome_execAll_nil _ _ _
  | cons place outer ih =>
    obtain ⟨index, part⟩ := place
    rw [Machine.takers, List.flatMap_cons, ← Machine.takers] at opens ⊢
    have onward := ih fun taker member => opens taker (List.mem_append_right _ member)
    have here (taker : Taker) (member : taker ∈ (machine.region index).takers index part) :=
      opens taker (List.mem_append_left _ member)
    rw [List.find?_append]
    generalize (machine.takers outer).find? (·.takes world (.ref thrownAt)) = further at onward ⊢
    have ends (entry : Target) (finalizer : (Taker.finalizer index entry).Open self world) :
        outcome (execAll (.ofPerformer perform) fuel [assignName (pendingName index) (.name caughtName),
          .returns (some (numbering.literal entry))]) (frame, world) =
        searchEnd numbering self (.ref thrownAt) (frame, world) (some (.finalizer index entry)) :=
      outcome_handOver (.finalizer index entry) searching finalizer (outcome_evalCaught searching)
    have offers (body : part = .body) :
        outcome (execAll (.ofPerformer perform) fuel ((machine.region index).catches.map (offerTo numbering)))
          (frame, world) = _ :=
      outcome_offers searching fun entry member =>
        here _ (by rw [body]; exact List.mem_append_left _ (List.mem_map.mpr ⟨entry, member, rfl⟩))
    cases part with
    | finalizer => simpa [handlerSearch, Region.takers] using onward
    | handler =>
      cases finalizer : (machine.region index).finalizer with
      | none => simpa [handlerSearch, Region.takers, finalizer] using onward
      | some entry =>
        have opened := ends entry (here _ (by simp [Region.takers, finalizer]))
        simpa [handlerSearch, Region.takers, finalizer, Taker.takes] using opened
    | body =>
      cases finalizer : (machine.region index).finalizer with
      | none =>
        simp only [handlerSearch, Region.takers, finalizer, if_true, Option.map_none, Option.toList_none,
          List.append_nil]
        rw [outcome_execAll_append, offers rfl]
        exact andThen_searchEnd onward
      | some entry =>
        have opened := ends entry (here _ (by simp [Region.takers, finalizer]))
        simp only [handlerSearch, Region.takers, finalizer, if_true, Option.map_some, Option.toList_some]
        rw [outcome_execAll_append, offers rfl, andThen_searchEnd opened, List.find?_append]
        simp [Taker.takes]

end

/-- The variables that takers put exceptions in are declared. -/
def Compilation.Furnished (c : Compilation) : Prop :=
  ∀ (index : Nat) (region : Region), c.regions[index]? = some region →
    (∀ entry ∈ region.catches, c.Declares entry.parameter) ∧ (region.finalizer.isSome → c.Declares (pendingName index))

section

variable {sites : List (List Surround × Statement)} {locals : List (String × JavaType)} {path : Path} {count : Nat}
  {c c' : Compilation}

/-- What is known about a region may change if the variables for it are declared. -/
private theorem Compilation.Furnished.modify (furnished : c.Furnished) {region : Nat} {change : Region → Region}
    (keeps : ∀ before, c.regions[region]? = some before → (∀ entry ∈ (change before).catches,
      entry ∈ before.catches ∨ c.Declares entry.parameter) ∧
      ((change before).finalizer = before.finalizer ∨ c.Declares (pendingName region))) :
    Compilation.Furnished { c with regions := c.regions.modify region change } := by
  intro index after found
  rw [List.getElem?_modify] at found
  cases before : c.regions[index]? with
  | none => simp [before] at found
  | some former =>
    obtain ⟨catches, finalizer⟩ := furnished index former before
    by_cases here : region = index
    · subst here
      obtain rfl : change former = after := by simpa [before] using found
      obtain ⟨entries, last⟩ := keeps former before
      refine ⟨fun entry member => (entries entry member).elim (catches entry) id, fun given => ?_⟩
      exact last.elim (fun same => finalizer (same ▸ given)) id
    · obtain rfl : former = after := by simpa [before, here] using found
      exact ⟨catches, finalizer⟩

theorem Trace.furnished (trace : Trace sites locals path count c c') (furnished : c.Furnished) : c'.Furnished := by
  induction trace with
  | refl | state | start | add | close | loop => exact furnished
  | trans _ _ ih ih' => exact ih' (ih furnished)
  | lift type known =>
    intro index region found
    obtain ⟨catches, finalizer⟩ := furnished index region found
    exact ⟨fun entry member => (Compilation.isSome_lookup_lift _ _ type).2 _ (catches entry member),
      fun given => (Compilation.isSome_lookup_lift _ _ type).2 _ (finalizer given)⟩
  | frame _ ih | part _ ih => exact ih furnished
  | region =>
    intro index region found
    rw [List.getElem?_append] at found
    split at found
    · exact furnished index region found
    · obtain rfl := List.mem_singleton.mp (List.mem_of_getElem? found)
      exact ⟨by simp, by simp⟩
  | catches declared =>
    refine furnished.modify fun before _ => ⟨fun entry member => ?_, Or.inl rfl⟩
    rcases List.mem_append.mp member with old | new
    · exact Or.inl old
    · obtain rfl := List.mem_singleton.mp new
      exact Or.inr declared
  | guard _ declared _ ih =>
    exact ih (Compilation.Furnished.modify furnished fun before _ =>
      ⟨fun entry member => Or.inl member, Or.inr declared⟩)

end

/-- The machine of a body, optimized or not. -/
def Machine.Of (machine : Machine) (surroundings : Surroundings) (body : List Statement) : Prop :=
  machine = compileBody surroundings body ∨ machine = (compileBody surroundings body).optimize

private theorem Machine.Of.furnished {machine : Machine} {surroundings : Surroundings} {body : List Statement}
    (made : machine.Of surroundings body) (index : Nat) :
    (∀ entry ∈ (machine.region index).catches, (machine.lifted.lookup entry.parameter).isSome) ∧
      ((machine.region index).finalizer.isSome → (machine.lifted.lookup (pendingName index)).isSome) := by
  obtain ⟨c, trace, compiled⟩ := compileBody_trace surroundings body
  have furnished : c.Furnished := trace.furnished fun index region found => by simp at found
  have plain : (∀ entry ∈ (c.machine.region index).catches, (c.lifted.lookup entry.parameter).isSome) ∧
      ((c.machine.region index).finalizer.isSome → (c.lifted.lookup (pendingName index)).isSome) := by
    rw [Machine.region, Compilation.machine]
    cases found : c.regions[index]? with
    | none => exact ⟨by simp, by simp⟩
    | some region => exact furnished index region found
  rcases made with rfl | rfl
  · rw [compiled]
    exact plain
  · rw [compiled, Machine.optimize_region]
    refine ⟨fun entry member => ?_, fun given => plain.2 (by simpa using given)⟩
    obtain ⟨former, inside, rfl⟩ := List.mem_map.mp member
    exact plain.1 former inside

/-- Each taker of the machine of a body puts exceptions in a variable of the machine. -/
theorem Machine.Of.lifted {machine : Machine} {surroundings : Surroundings} {body : List Statement}
    (made : machine.Of surroundings body) {places : Context} {taker : Taker} (member : taker ∈ machine.takers places) :
    (machine.lifted.lookup taker.slot).isSome := by
  obtain ⟨⟨index, part⟩, _, inside⟩ := List.mem_flatMap.mp member
  obtain ⟨catches, finalizer⟩ := made.furnished index
  rcases Region.mem_takers inside with ⟨entry, clause, rfl⟩ | ⟨entry, given, rfl⟩
  · exact catches entry clause
  · exact finalizer (by rw [given]; rfl)

/-- The second letter of the name tells it apart. -/
private theorem second_pendingName (region : Nat) : (pendingName region).toList[1]? = some 'p' := by
  have whole : (pendingName region).toList = "$pendingException".toList ++ (toString region).toList :=
    String.toList_append
  rw [whole]
  rfl

theorem simple_pendingName (region : Nat) : Text.split '.' (pendingName region) = [pendingName region] :=
  Text.split_numbered (by decide) region

/-- A number is handed back as it is. -/
theorem coerce_number (number : Int32) : coerce (.named "int") (.int number) = .int number := by
  have converted : coerce (.named "int") (.int number) = .int number.toInt64.toInt32 := rfl
  exact converted.trans (congrArg Value.int (Int32.toInt32_toInt64 number))

/-- A clause as Java has it: its parameter is an identifier, which is not that of the search, and its type is a
class. -/
structure CatchEntry.Plain (entry : CatchEntry) : Prop where
  simple : Text.split '.' entry.parameter = [entry.parameter]
  other : entry.parameter ≠ caughtName
  object : entry.type.isPrimitive = false

section

variable {machine : Machine} {surroundings : Surroundings} {body : List Statement} {first place : Nat} {id : ClassId}
  {self address : Address} {world : World}

/-- The takers around a place are open to exceptions. -/
theorem Machine.Of.opens (made : machine.Of surroundings body)
    (plain : ∀ index, ∀ entry ∈ (machine.region index).catches, entry.Plain)
    (holds : ∀ declared ∈ machine.lifted, (world.field? self declared.1).isSome) {places : Context} :
    ∀ taker ∈ machine.takers places, taker.Open self world := by
  intro taker member
  obtain ⟨type, declared⟩ : ∃ type, (taker.slot, type) ∈ machine.lifted := by simpa using made.lifted member
  have held := Option.isSome_iff_exists.mp (holds _ declared)
  obtain ⟨⟨index, part⟩, _, inside⟩ := List.mem_flatMap.mp member
  rcases Region.mem_takers inside with ⟨entry, clause, rfl⟩ | ⟨entry, _, rfl⟩
  · obtain ⟨simple, other, object⟩ := plain index entry clause
    exact ⟨simple, other, held, fun _ same => Taker.clause.inj same ▸ object⟩
  · refine ⟨simple_pendingName index, fun same => ?_, held, fun _ same => by cases same⟩
    have letter := second_pendingName index
    rw [show pendingName index = caughtName from same] at letter
    exact absurd letter (by decide)

/-- The frame of the method that looks for the handler of an exception. -/
def handlerFrame (machine : Machine) (first : Nat) (id : ClassId) (self : Address) (thrown : Value) :
    Interpreter.Frame :=
  (startFrame id (handlerMethod machine (machine.numberedFrom first)) self).declare caughtName thrown

theorem searching_handlerFrame (thrown : Value) :
    Searching self thrown (handlerFrame machine first id self thrown) := by
  refine ⟨rfl, rfl, fun name other => ?_⟩
  have different : (name == caughtName) = false := by simpa using other
  simp [handlerFrame, startFrame, Frame.declare, Frame.inInnermost, Frame.get?, Bindings.put, List.lookup, different]

/-- A call of the method runs its code in the frame. -/
theorem performer_getErrorHandler {fuel : Nat} {thrown : Value} (room : world.depth < depthLimit)
    {result : Except Unwind Flow} {after : Point}
    (ends : outcome (execAll (.ofPerformer (performer fuel)) fuel
        (handlerMethod machine (machine.numberedFrom first)).body)
      (handlerFrame machine first id self thrown, world.atDepth (world.depth + 1)) = (result, after)) :
    performer (fuel + 1) (.invoke id (handlerMethod machine (machine.numberedFrom first)) (some self) [thrown]) world =
      (callResult (.named "int") result, after.2.atDepth (after.2.depth - 1)) := by
  have own : (handlerMethod machine (machine.numberedFrom first)).isStatic = false := by
    change (Modifiers.ofList [.privateAccess]).has .static = false
    decide
  have bound : proceed (outcome (bindParameters (handlerMethod machine
        (machine.numberedFrom first)).parameters [thrown])
        (startFrame id (handlerMethod machine (machine.numberedFrom first)) self, world.atDepth (world.depth + 1)))
      (fun _ => outcome (execAll (.ofPerformer (performer fuel)) fuel
        (handlerMethod machine (machine.numberedFrom first)).body)) = (result, after) := ends
  exact performer_invoke own room bound

/-- The code of the method: the takers around the current state are tried, and then the generator is given up. -/
theorem outcome_getErrorHandler {perform : Performer} {fuel : Nat} (fits : (machine.numberedFrom first).Fits)
    (written : place ∈ machine.layout)
    (opens : ∀ taker ∈ machine.takers (machine.state place).context.reverse, taker.Open self world)
    (state : world.field? self stateName = some (.int ((machine.numberedFrom first).number (.state place)))) :
    outcome (execAll (.ofPerformer perform) fuel (handlerMethod machine (machine.numberedFrom first)).body)
        (handlerFrame machine first id self (.ref address), world) =
      andThen (searchEnd (machine.numberedFrom first) self (.ref address)
          (handlerFrame machine first id self (.ref address), world)
          (machine.taker? world (.ref address) (machine.state place).context))
        (outcome (execAll (.ofPerformer perform) fuel giveUp)) := by
  have searching : Searching self (.ref address) (handlerFrame machine first id self (.ref address)) :=
    searching_handlerFrame _
  have selected : outcome ((Meaning.ofPerformer perform).eval (.name stateName))
      (handlerFrame machine first id self (.ref address), world) =
      (.ok (.int ((machine.numberedFrom first).number (.state place))),
        (handlerFrame machine first id self (.ref address), world)) :=
    outcome_evalOwn searching.self (searching.free _ (by decide)) state
  have searched : outcome (execAll (.ofPerformer perform) fuel (handlerSearch machine (machine.numberedFrom first)
      (machine.contextAt (.state place)).reverse))
        (Point.push (handlerFrame machine first id self (.ref address), world)) =
      searchEnd (machine.numberedFrom first) self (.ref address)
        (Point.push (handlerFrame machine first id self (.ref address), world))
        (machine.taker? world (.ref address) (machine.state place).context) :=
    outcome_handlerSearch searching.push opens
  rw [outcome_handlerMethod (ofPerformer_readsNumbers _) selected rfl fits, Numbering.denotes_of_mem fits written,
    outcome_inScope, searched]
  cases machine.taker? world (.ref address) (machine.state place).context <;> rfl

/-- The machine of a body looks for the handler of an exception as one walks through the try statements around its
current state, from the innermost outwards. A clause of a type that the exception is of, or the finalizer behind a body
or handler, takes it: its variable is set to the exception, and the body goes on in its state. Where nobody takes the
exception the generator is over and breaks down. -/
theorem handler_table (made : machine.Of surroundings body) (fits : (machine.numberedFrom first).Fits)
    (plain : ∀ index, ∀ entry ∈ (machine.region index).catches, entry.Plain) (written : place ∈ machine.layout)
    (room : world.depth < depthLimit)
    (holds : ∀ declared ∈ machine.lifted, (world.field? self declared.1).isSome)
    (state : world.field? self stateName = some (.int ((machine.numberedFrom first).number (.state place))))
    (broken : world.classes.resolve (some id) "java.util.ConcurrentModificationException" =
      some (.library "ConcurrentModificationException")) :
    match machine.taker? world (.ref address) (machine.state place).context with
    | some taker =>
      Comes (.invoke id (handlerMethod machine (machine.numberedFrom first)) (some self) [.ref address]) world
        (.ok (.int ((machine.numberedFrom first).number taker.entry))) (world.putField self taker.slot (.ref address))
    | none => ∀ said after,
      Comes (.text (.ref address)) ((world.putField self stateName (.int (-1))).atDepth (world.depth + 1)) said after →
      Comes (.invoke id (handlerMethod machine (machine.numberedFrom first)) (some self) [.ref address]) world
        (.error (breakdown (.ref address) said after).1)
        ((breakdown (.ref address) said after).2.atDepth (after.depth - 1)) := by
  have deeper : ∀ declared ∈ machine.lifted, ((world.atDepth (world.depth + 1)).field? self declared.1).isSome := holds
  have coded (fuel : Nat) : outcome (execAll (.ofPerformer (performer fuel)) fuel
        (handlerMethod machine (machine.numberedFrom first)).body)
        (handlerFrame machine first id self (.ref address), world.atDepth (world.depth + 1)) = _ :=
    outcome_getErrorHandler fits written (made.opens plain deeper) state
  have same : machine.taker? (world.atDepth (world.depth + 1)) (.ref address) (machine.state place).context =
      machine.taker? world (.ref address) (machine.state place).context := rfl
  rw [same] at coded
  cases taken : machine.taker? world (.ref address) (machine.state place).context with
  | some taker =>
    refine ⟨1, fun fuel sufficient => ?_⟩
    obtain ⟨fuel, rfl⟩ : ∃ less, fuel = less + 1 := ⟨fuel - 1, by omega⟩
    have begun := coded fuel
    rw [taken] at begun
    refine (performer_getErrorHandler room begun).trans ?_
    rw [World.putField_atDepth, World.depth_atDepth, World.atDepth_atDepth, Nat.add_sub_cancel,
      ← World.depth_putField world self taker.slot (.ref address), World.atDepth_depth]
    exact congrArg (fun value => (Except.ok value, world.putField self taker.slot (.ref address))) (coerce_number _)
  | none =>
    intro said after tells
    refine tells.step fun fuel told => ?_
    have begun := coded fuel
    have searching : Searching self (.ref address) (handlerFrame machine first id self (.ref address)) :=
      searching_handlerFrame _
    have told' : performer fuel (.text (.ref address))
        ((world.atDepth (world.depth + 1)).putField self stateName (.int (-1))) = (said, after) := by
      rwa [World.putField_atDepth]
    have stands : ∃ number, (world.atDepth (world.depth + 1)).field? self stateName = some (.int number) := ⟨_, state⟩
    have meant : resolveType (world.atDepth (world.depth + 1)).classes
        (handlerFrame machine first id self (.ref address)) "java.util.ConcurrentModificationException" =
        some (.library "ConcurrentModificationException") := broken
    have gaveUp := outcome_giveUp searching.self meant (searching.free _ (by decide)) searching.caught ⟨address, rfl⟩
      stands told'
    rw [taken, searchEnd, andThen_normal, gaveUp] at begun
    refine (performer_getErrorHandler room begun).trans ?_
    rw [depth_breakdown]
    rfl

end

/-- The text of an exception of the library can always be had. -/
theorem comes_text {address : Address} {world : World} {state : Throwable}
    (there : world.heap.get? address = some (.throwable state)) :
    Comes (.text (.ref address)) world (.ok (Throwable.text state.type state.message)) world := by
  refine ⟨1, fun fuel sufficient => ?_⟩
  obtain ⟨fuel, rfl⟩ : ∃ less, fuel = less + 1 := ⟨fuel - 1, by omega⟩
  change textOf (performer fuel) (.ref address) world = _
  simp only [textOf, run_bind, run_heap, there, run_pure]

/-- A statement that yields a number. -/
private def yielding (number : Int32) : Statement := .expression (.callOwn "yield" [.int number])

/-- A try statement with a clause and a finalizer inside of one with a clause. -/
def nestedTries : List Statement :=
  [.tryCatch
    [.tryCatch [yielding 1] [⟨.final (.named "IllegalStateException") "e", [yielding 2]⟩] (some [yielding 3])]
    [⟨.final (.named "RuntimeException") "r", [yielding 4]⟩] none]

namespace nestedTries

/-- The machine that is written for them. -/
@[irreducible]
def machine : Machine := (compileBody {} nestedTries).optimize

/-- A generator at a state of the machine, and an exception. -/
def world (state : Int32) (thrown : String) : World where
  classes := { infos := #[{ decl := { name := "G" }, qualifiedName := "G", nesting := .topLevel }] }
  heap := ⟨#[.ofClass { type := ⟨0⟩, fields := [("$finallyNext1", .int 0), ("$pendingException1", .null), ("e", .null),
    ("r", .null), (stateName, .int state)] }, .throwable { type := thrown }]⟩

theorem made : machine.Of {} nestedTries := by
  unfold machine
  exact Or.inr rfl

/-- The regions and fields of the machine, its layout and the numbers that it gives, and who takes an exception in the
two states below. -/
theorem written_out :
    machine.regions = [
      ⟨[⟨.named "RuntimeException", "r", .state 10⟩], none⟩,
      ⟨[⟨.named "IllegalStateException", "e", .state 7⟩], some (.state 4)⟩] ∧
    machine.lifted = [("$finallyNext1", .named "int"), ("$pendingException1", .named "java.lang.Throwable"),
      ("e", .named "IllegalStateException"), ("r", .named "RuntimeException")] ∧
    (machine.numberedFrom 0).Fits ∧ (6 ∈ machine.layout ∧ 10 ∈ machine.layout) ∧
    [6, 10, 7, 4].map (fun place => (machine.numberedFrom 0).number (.state place)) = [1, 6, 2, 4] ∧
    machine.taker? (world 1 "IllegalStateException") (.ref ⟨1⟩) (machine.state 6).context =
      some (.clause ⟨.named "IllegalStateException", "e", .state 7⟩) ∧
    machine.taker? (world 1 "IllegalArgumentException") (.ref ⟨1⟩) (machine.state 6).context =
      some (.finalizer 1 (.state 4)) ∧
    machine.taker? (world 6 "IllegalStateException") (.ref ⟨1⟩) (machine.state 10).context = none := by
  unfold Numbering.Fits
  decide +kernel

theorem plain : ∀ index, ∀ entry ∈ (machine.region index).catches, entry.Plain := by
  intro index entry member
  rw [Machine.region, written_out.1] at member
  rcases index with _ | _ | _
  · obtain rfl := List.mem_singleton.mp member
    exact ⟨by decide, by decide, by decide⟩
  · obtain rfl := List.mem_singleton.mp member
    exact ⟨by decide, by decide, by decide⟩
  · cases member

theorem holds (state : Int32) (thrown : String) :
    ∀ declared ∈ machine.lifted, ((world state thrown).field? ⟨0⟩ declared.1).isSome := by
  rw [written_out.2.1]
  simp only [List.forall_mem_cons]
  exact ⟨rfl, rfl, rfl, rfl, fun _ none => nomatch none⟩

theorem stands (state : Int32) (thrown : String) :
    (world state thrown).field? ⟨0⟩ stateName = some (.int state) :=
  rfl

end nestedTries

open nestedTries in
/-- An exception that a clause is for, one that only the finalizer takes, and one that nobody takes. -/
theorem handler_table_nested :
    Comes (.invoke ⟨0⟩ (handlerMethod machine (machine.numberedFrom 0)) (some ⟨0⟩) [.ref ⟨1⟩])
      (world 1 "IllegalStateException") (.ok (.int 2))
      ((world 1 "IllegalStateException").putField ⟨0⟩ "e" (.ref ⟨1⟩)) ∧
    Comes (.invoke ⟨0⟩ (handlerMethod machine (machine.numberedFrom 0)) (some ⟨0⟩) [.ref ⟨1⟩])
      (world 1 "IllegalArgumentException") (.ok (.int 4))
      ((world 1 "IllegalArgumentException").putField ⟨0⟩ "$pendingException1" (.ref ⟨1⟩)) ∧
    ∃ after, Comes (.invoke ⟨0⟩ (handlerMethod machine (machine.numberedFrom 0)) (some ⟨0⟩) [.ref ⟨1⟩])
        (world 6 "IllegalStateException") (.error (.thrown (.ref ⟨2⟩))) after ∧
      after.heap.get? ⟨2⟩ = some (brokenBy (.ref ⟨1⟩) "IllegalStateException") ∧
      after.field? ⟨0⟩ stateName = some (.int (-1)) := by
  obtain ⟨-, -, fits, ⟨first, second⟩, numbers, clause, finalizer, nobody⟩ := written_out
  simp only [List.map_cons, List.map_nil, List.cons.injEq, and_true] at numbers
  obtain ⟨number, number', clauseNumber, finalizerNumber⟩ := numbers
  have table (place : Nat) (number : Int32) (thrown : String) (written : place ∈ machine.layout)
      (numbered : (machine.numberedFrom 0).number (.state place) = number) :=
    @handler_table machine {} nestedTries 0 place ⟨0⟩ ⟨0⟩ ⟨1⟩ (world number thrown) made fits plain written
      (show 0 < depthLimit by decide) (holds number thrown) (numbered ▸ stands number thrown) rfl
  refine ⟨?_, ?_, ?_⟩
  · have taken := table 6 1 "IllegalStateException" first number
    simp only [clause, Taker.entry, Taker.slot, clauseNumber] at taken
    exact taken
  · have taken := table 6 1 "IllegalArgumentException" first number
    simp only [finalizer, Taker.entry, Taker.slot, finalizerNumber] at taken
    exact taken
  · have passed := table 10 6 "IllegalStateException" second number'
    have told : (world 6 "IllegalStateException").heap.get? ⟨1⟩ =
        some (.throwable { type := "IllegalStateException" }) := rfl
    simp only [nobody] at passed
    exact ⟨_, passed _ _ (comes_text told), rfl, rfl⟩

/-- A try statement with a clause whose parameter has the name of that of the search. -/
def namesake : List Statement :=
  [.tryCatch [yielding 1] [⟨.final (.named "IllegalStateException") caughtName, [yielding 2]⟩] none]

namespace namesake

/-- The machine that is written for it. -/
@[irreducible]
def machine : Machine := compileBody {} namesake

/-- A generator in the body of the try statement, and an exception. -/
def world : World where
  classes := { infos := #[{ decl := { name := "G" }, qualifiedName := "G", nesting := .topLevel }] }
  heap := ⟨#[.ofClass { type := ⟨0⟩, fields := [(caughtName, .null), (stateName, .int 1)] },
    .throwable { type := "IllegalStateException" }]⟩

theorem made : machine.Of {} namesake := by
  unfold machine
  exact Or.inl rfl

/-- The numbers that the machine gives, and who takes the exception. -/
theorem written_out :
    (machine.numberedFrom 0).Fits ∧ 2 ∈ machine.layout ∧
    [2, 4].map (fun place => (machine.numberedFrom 0).number (.state place)) = [1, 3] ∧
    machine.contextAt (.state 2) = [(0, .body)] ∧
    machine.region 0 = ⟨[⟨.named "IllegalStateException", caughtName, .state 4⟩], none⟩ ∧
    machine.taker? world (.ref ⟨1⟩) (machine.state 2).context =
      some (.clause ⟨.named "IllegalStateException", caughtName, .state 4⟩) := by
  unfold Numbering.Fits
  decide +kernel

theorem numbers : (machine.numberedFrom 0).number (.state 2) = 1 ∧ (machine.numberedFrom 0).number (.state 4) = 3 := by
  have both := written_out.2.2.1
  simpa only [List.map_cons, List.map_nil, List.cons.injEq, and_true] using both

/-- The clause takes the exception, but its variable is not set. -/
theorem comes : Comes (.invoke ⟨0⟩ (handlerMethod machine (machine.numberedFrom 0)) (some ⟨0⟩) [.ref ⟨1⟩]) world
    (.ok (.int 3)) world := by
  refine ⟨5, fun fuel sufficient => ?_⟩
  obtain ⟨fuel, rfl⟩ : ∃ less, fuel = less + 5 := ⟨fuel - 5, by omega⟩
  have selected : outcome ((Meaning.ofPerformer (performer (fuel + 4))).eval (.name stateName))
      (handlerFrame machine 0 ⟨0⟩ ⟨0⟩ (.ref ⟨1⟩), world.atDepth 1) =
      (.ok (.int ((machine.numberedFrom 0).number (.state 2))),
        (handlerFrame machine 0 ⟨0⟩ ⟨0⟩ (.ref ⟨1⟩), world.atDepth 1)) := by
    rw [numbers.1]
    rfl
  have coded : outcome (execAll (.ofPerformer (performer (fuel + 4))) (fuel + 4)
        (handlerMethod machine (machine.numberedFrom 0)).body)
        (handlerFrame machine 0 ⟨0⟩ ⟨0⟩ (.ref ⟨1⟩), world.atDepth 1) =
      (.ok (.returns (.int 3)), (handlerFrame machine 0 ⟨0⟩ ⟨0⟩ (.ref ⟨1⟩), world.atDepth 1)) := by
    obtain ⟨fits, written, -, context, region, -⟩ := written_out
    rw [outcome_handlerMethod (ofPerformer_readsNumbers _) selected rfl fits, Numbering.denotes_of_mem fits written,
      context]
    simp only [List.reverse_singleton, handlerSearch, if_true, region, List.map_cons, List.map_nil, List.append_nil,
      offerTo, Numbering.literal, numbers.2]
    rfl
  exact performer_getErrorHandler (show 0 < depthLimit by decide) coded

end namesake

set_option maxRecDepth 10000 in
/-- Where the text of an exception cannot be had, what asking for it ends with comes out of the search; and a clause
whose parameter has the name of that of the search is not told the exception. -/
theorem handler_table_spoiled :
    (mute.machine.Of {} mute.method.body ∧ 0 ∈ mute.machine.layout ∧
      mute.left.field? ⟨0⟩ stateName = some (.int ((mute.machine.numberedFrom 0).number (.state 0))) ∧
      mute.machine.taker? mute.left (.ref ⟨1⟩) (mute.machine.state 0).context = none ∧
      ∃ after, Comes (.invoke ⟨2⟩ (handlerMethod mute.machine (mute.machine.numberedFrom 0)) (some ⟨0⟩) [.ref ⟨1⟩])
          mute.left (.error (.thrown (.ref ⟨2⟩))) after ∧
        after.heap.get? ⟨2⟩ = some (.throwable { type := "IllegalStateException" })) ∧
    namesake.machine.Of {} namesake ∧ 2 ∈ namesake.machine.layout ∧
      namesake.world.field? ⟨0⟩ stateName = some (.int ((namesake.machine.numberedFrom 0).number (.state 2))) ∧
      namesake.machine.taker? namesake.world (.ref ⟨1⟩) (namesake.machine.state 2).context =
        some (.clause ⟨.named "IllegalStateException", caughtName, .state 4⟩) ∧
      ∃ after, Comes (.invoke ⟨0⟩ (handlerMethod namesake.machine (namesake.machine.numberedFrom 0)) (some ⟨0⟩)
          [.ref ⟨1⟩]) namesake.world (.ok (.int 3)) after ∧
        after.field? ⟨0⟩ caughtName = some .null := by
  refine ⟨⟨Or.inr rfl, by decide, rfl, by decide, ?_⟩, namesake.made, namesake.written_out.2.1,
    by rw [namesake.numbers.1]; rfl, namesake.written_out.2.2.2.2.2, _, namesake.comes, rfl⟩
  have comes : ∀ fuel, 12 ≤ fuel →
      performer fuel (.invoke ⟨2⟩ (handlerMethod mute.machine (mute.machine.numberedFrom 0)) (some ⟨0⟩) [.ref ⟨1⟩])
        mute.left =
      (.error (.thrown (.ref ⟨2⟩)), (performer 12 (.invoke ⟨2⟩ (handlerMethod mute.machine
        (mute.machine.numberedFrom 0)) (some ⟨0⟩) [.ref ⟨1⟩]) mute.left).2) := by
    intro fuel sufficient
    obtain ⟨fuel, rfl⟩ : ∃ less, fuel = less + 12 := ⟨fuel - 12, by omega⟩
    rfl
  exact ⟨_, ⟨12, comes⟩, rfl⟩

/-- The entry that is recorded for a clause, which is handled from a state on. -/
def entryOf (clause : CatchClause) (id : Nat) : CatchEntry :=
  ⟨clause.parameter.type, clause.parameter.name, .state id⟩

/-- A try statement that is carried over and one that is part of the machine hand an exception to the same clause, where
each clause is for one class. -/
theorem choice_alike {meaning : Meaning} {perform : Performer} {fuel fuel' : Nat} {numbering : Numbering}
    {self thrownAt : Address} {frame frame' : Interpreter.Frame} {world : World} {clauses : List (CatchClause × Nat)}
    (single : ∀ clause ∈ clauses, Single clause.1.parameter.type)
    (searching : Searching self (.ref thrownAt) frame)
    (opens : ∀ clause ∈ clauses, (Taker.clause (entryOf clause.1 clause.2)).Open self world) :
    let chosen := clauses.find? fun clause => world.isInstance (.ref thrownAt) clause.1.parameter.type
    outcome (execCatches meaning fuel' (.ref thrownAt) (clauses.map (·.1))) (frame', world) =
        (match chosen with
        | some (clause, _) => outcome (inScope do
            modifyFrame (·.declare clause.parameter.name (.ref thrownAt))
            execAll meaning fuel' clause.body) (frame', world)
        | none => (.error (.thrown (.ref thrownAt)), (frame', world))) ∧
      outcome (execAll (.ofPerformer perform) fuel
          (clauses.map fun clause => offerTo numbering (entryOf clause.1 clause.2))) (frame, world) =
        searchEnd numbering self (.ref thrownAt) (frame, world)
          (chosen.map fun clause => .clause (entryOf clause.1 clause.2)) := by
  intro chosen
  constructor
  · have found : (clauses.map (·.1)).find? (fun clause => world.catches clause.parameter.type (.ref thrownAt)) =
        chosen.map (·.1) := by
      rw [List.find?_map]
      refine congrArg (Option.map _) (List.find?_congr fun clause member => ?_)
      exact catches_eq_isInstance (single clause member) world _
    rw [outcome_execCatches, found]
    cases chosen <;> rfl
  · have offered : outcome (execAll (.ofPerformer perform) fuel
        ((clauses.map fun clause => entryOf clause.1 clause.2).map (offerTo numbering))) (frame, world) = _ :=
      outcome_offers searching fun entry member => by
        obtain ⟨clause, inside, rfl⟩ := List.mem_map.mp member
        exact opens clause inside
    rw [List.map_map, List.map_map, List.find?_map] at offered
    exact offered

end JavaWeave.Generator
