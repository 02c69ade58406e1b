import JavaWeave.Generator.Completion
import JavaWeave.Interpreter.Perform
import JavaWeave.Proofs.Generator.Parts
import JavaWeave.Proofs.Interpreter.Outcome
import Mathlib.Data.Bool.Basic

/-! How statements end, by what is written in them: a statement that cannot complete never ends normally, whatever
its expressions mean, unless a `continue` in it leads to the condition of a `do` loop. -/

namespace JavaWeave.Interpreter

open Syntax

/-- Every result of the steps has the property. They may also have none, when they end abruptly. -/
def Promises (property : α → Prop) (code : Code α) : Prop :=
  ∀ point result after, outcome code point = (.ok result, after) → property result

namespace Promises

variable {property : α → Prop} {other : β → Prop}

theorem any {code : Code α} : Promises (fun _ => True) code := fun _ _ _ _ => trivial

theorem pure {value : α} (holds : property value) : Promises property (Pure.pure value) := by
  intro point result after ends
  rw [outcome_pure] at ends
  cases ends
  exact holds

theorem throw {unwind : Unwind} : Promises property (MonadExcept.throw unwind) := by
  intro point result after ends
  rw [outcome_throw] at ends
  cases ends

theorem mono {weaker : α → Prop} {code : Code α} (promises : Promises property code)
    (weakens : ∀ value, property value → weaker value) : Promises weaker code :=
  fun point result after ends => weakens result (promises point result after ends)

theorem bind {first : Code α} {next : α → Code β} (promises : Promises property first)
    (onward : ∀ value, property value → Promises other (next value)) : Promises other (first >>= next) := by
  intro point result after ends
  rw [outcome_bind] at ends
  rcases stage : outcome first point with ⟨_ | value, between⟩
  · rw [stage] at ends
    cases ends
  · rw [stage] at ends
    exact onward value (promises point value between stage) between result after ends

theorem map {change : α → β} {code : Code α} (promises : Promises property code)
    (carries : ∀ value, property value → other (change value)) : Promises other (change <$> code) := by
  rw [map_eq_pure_bind]
  exact promises.bind fun value holds => .pure (carries value holds)

theorem inScope {code : Code α} (promises : Promises property code) :
    Promises property (Interpreter.inScope code) := by
  intro point result after ends
  rw [outcome_inScope] at ends
  have inside : (outcome code point.push).1 = .ok result := congrArg Prod.fst ends
  exact promises point.push result _ (Prod.ext inside rfl)

theorem truth {code : Code Value} (promises : Promises (· = .bool true) code) :
    Promises (· = true) (Interpreter.truth code) := by
  refine promises.bind fun value same => ?_
  subst same
  intro point result after ends
  cases ends
  rfl

theorem guarded {property : Flow → Prop} {body : Code Flow} {handler : Value → Code Flow}
    (promises : Promises property body) (handles : ∀ thrown, Promises property (handler thrown)) :
    Promises property (Interpreter.guarded body handler) := by
  intro point result after ends
  rw [outcome_guarded] at ends
  rcases stage : outcome body point with ⟨(thrown | fault | _) | flow, between⟩
  · rw [stage, rescue_thrown] at ends
    exact handles thrown between result after ends
  · rw [stage] at ends
    cases ends
  · rw [stage] at ends
    cases ends
  · rw [stage, rescue_ok] at ends
    cases ends
    exact promises point _ _ stage

/-- A finalizer that ends normally leaves the end of the body, any other decides. -/
theorem ensuring {first last property : Flow → Prop} {body finalizer : Code Flow} (begins : Promises first body)
    (finishes : Promises last finalizer) (concludes : last .normal → ∀ flow, first flow → property flow)
    (overrides : ∀ flow, flow ≠ .normal → last flow → property flow) :
    Promises property (Interpreter.ensuring body finalizer) := by
  have follows (ending : Except Unwind Flow) (ended : ∀ flow, ending = .ok flow → first flow) :
      Promises property (finalizer >>= concluding ending) := by
    refine finishes.bind fun flow holds => ?_
    cases flow with
    | normal =>
      intro point result after ends
      cases ends
      exact concludes holds _ (ended _ rfl)
    | _ => exact .pure (overrides _ (by simp) holds)
  intro point result after ends
  simp only [Interpreter.ensuring, outcome_bind, outcome_attempt, proceed_ok] at ends
  rcases stage : outcome body point with ⟨(thrown | fault | _) | flow, between⟩
  · rw [stage] at ends
    exact follows (.error (.thrown thrown)) (by simp) between result after ends
  · rw [stage] at ends
    exact follows (.error (.failed fault)) (by simp) between result after ends
  · rw [stage] at ends
    cases ends
  · rw [stage] at ends
    refine follows (.ok flow) (fun ended same => ?_) between result after ends
    cases same
    exact begins point flow between stage

theorem repeatWhile {property : Flow → Prop} {condition : Code Bool} {pass : Code (Option Flow)}
    (holds : Promises (fun value => value = false → property .normal) condition)
    (passes : Promises (fun ended => ∀ flow, ended = some flow → property flow) pass) (fuel : Nat) :
    Promises property (Interpreter.repeatWhile condition pass fuel) := by
  induction fuel with
  | zero => exact .throw
  | succ fuel inductionHypothesis =>
    simp only [Interpreter.repeatWhile]
    refine holds.bind fun value leaves => ?_
    split
    · refine passes.bind fun ended given => ?_
      split
      · exact .pure (given _ rfl)
      · exact inductionHypothesis
    · exact .pure (leaves (by simpa using ‹¬value = true›))

theorem repeatEach {property : Flow → Prop} {pass : Value → Code (Option Flow)} (normal : property .normal)
    (passes : ∀ item, Promises (fun ended => ∀ flow, ended = some flow → property flow) (pass item))
    (items : List Value) : Promises property (Interpreter.repeatEach pass items) := by
  induction items with
  | nil => exact .pure normal
  | cons item rest inductionHypothesis =>
    refine (passes item).bind fun ended given => ?_
    split
    · exact .pure (given _ rfl)
    · exact inductionHypothesis

theorem iterate {meaning : Meaning} {property : Flow → Prop} {pass : Code (Option Flow)} (fuel : Nat)
    (item : LocalVariable) (iterable : Expression) (normal : property .normal)
    (passes : Promises (fun ended => ∀ flow, ended = some flow → property flow) pass) :
    Promises property (Interpreter.iterate meaning fuel item iterable pass) := by
  refine .bind .any fun source _ => .bind .any fun source _ => .bind .any fun heap _ => ?_
  dsimp only
  split
  · exact .repeatEach normal (fun _ => .bind .any fun _ _ => passes) _
  · refine .bind .any fun iterator _ => .repeatWhile (Promises.any.mono fun _ _ _ => normal) ?_ fuel
    exact .bind .any fun _ _ => .bind .any fun _ _ => passes

end Promises

/-- What running statements relies on to know of a loop that it is never left through its condition. -/
structure Meaning.Plain (meaning : Meaning) : Prop where
  literal : Promises (· = .bool true) (meaning.eval (.literal (.bool true)))
  finish : meaning.finish = ensuring

/-- A group that is run first is one of the switch; if there is none, the switch has no default group. -/
theorem firstCase_promises {meaning : Meaning} (selector : Value) (cases : List SwitchCase) :
    Promises (fun first => match first with
      | some first => first < cases.length
      | none => cases.any (·.label.isNone) = false) (firstCase? meaning selector cases) := by
  have labeled (rest : List SwitchCase) (place : Nat) :
      Promises (fun found => ∀ index, found = some index → index < place + rest.length)
        (labeledCase? meaning selector place rest) := by
    induction rest generalizing place with
    | nil => exact .pure (by simp)
    | cons group rest inductionHypothesis =>
      have later := (inductionHypothesis (place + 1)).mono fun found within index same => by
        have := within index same
        show index < place + (rest.length + 1)
        omega
      simp only [labeledCase?]
      split
      · exact later
      · refine .bind .any fun found _ => ?_
        split
        · exact .pure (by simp)
        · exact later
  refine (labeled cases 0).bind fun found within => .pure ?_
  cases found with
  | some index => simpa using within index rfl
  | none =>
    rw [Option.none_or]
    split
    · next first same => exact (List.findIdx?_eq_some_iff_findIdx_eq.mp same).1
    · next absent => simpa [Option.isSome_iff_ne_none] using absent

end JavaWeave.Interpreter

namespace JavaWeave.Generator

open Syntax Interpreter

/-- Whether a leaf of a loop's body goes on with the loop, which may stand behind a label. -/
def goesOn (label : Option String) (leaf : Nesting × Leaf) : Bool :=
  match leaf.2 with
  | .continues none => !leaf.1.loops
  | .continues (some target) => label == some target
  | _ => false

mutual

/-- Whether no `continue` in a statement leads to the condition of a `do` loop, but for conditions that are
literally true. The label is that of the statement. -/
def conditionsApart (label : Option String) : Statement → Bool
  | .doWhile body condition =>
    (isTrue condition || !(leavesIn {} body).any (goesOn label)) && conditionsApart none body
  | .whileLoop _ body | .forLoop _ _ _ body | .forEach _ _ body => conditionsApart none body
  | .block body | .synchronized _ body => allApart body
  | .ifElse _ whenTrue whenFalse =>
    conditionsApart none whenTrue && (match whenFalse with | some s => conditionsApart none s | none => true)
  | .labeled label body => conditionsApart (some label) body
  | .switch _ cases => casesApart cases
  | .tryCatch body catches finalizer =>
    allApart body && catchesApart catches && (match finalizer with | some ss => allApart ss | none => true)
  | .expression _ | .declare _ | .returns _ | .returnsDefault | .throws _ | .breaks _ | .continues _
  | .localType _ | .empty | .verbatim _ => true

def allApart : List Statement → Bool
  | [] => true
  | s :: rest => conditionsApart none s && allApart rest

def casesApart : List SwitchCase → Bool
  | [] => true
  | ⟨_, body⟩ :: rest => allApart body && casesApart rest

def catchesApart : List CatchClause → Bool
  | [] => true
  | ⟨_, body⟩ :: rest => allApart body && catchesApart rest

end

/-- What is written in some code about how it ends. -/
structure Endings where
  normal : Prop
  breaksOut : Option String → Bool → Bool
  leaves : Nesting → List (Nesting × Leaf)

namespace Endings

/-- What is written allows the code to end in a flow: a jump out of it is one of its leaves. -/
def Allows (written : Endings) : Flow → Prop
  | .normal => written.normal
  | .breaks target => ∀ taken, (target = none → taken = false) → written.breaksOut target taken = true
  | .continues target => ∀ nesting, ∃ leaf ∈ written.leaves nesting,
      leaf.2 = .continues target ∧ (target = none → leaf.1.loops = nesting.loops)
  | .returns _ => True

/-- Code that is a part of other code. -/
structure Within (part whole : Endings) : Prop where
  normal : part.normal → whole.normal
  breaksOut : ∀ target taken, part.breaksOut target taken = true → whole.breaksOut target taken = true
  leaves : ∀ nesting, part.leaves nesting ⊆ whole.leaves nesting

theorem Allows.mono {part whole : Endings} (within : part.Within whole) (flow : Flow) (allowed : part.Allows flow) :
    whole.Allows flow := by
  cases flow with
  | normal => exact within.normal allowed
  | breaks target => exact fun taken free => within.breaksOut target taken (allowed taken free)
  | continues target =>
    intro nesting
    obtain ⟨leaf, member, same⟩ := allowed nesting
    exact ⟨leaf, within.leaves nesting member, same⟩
  | returns value => trivial

end Endings

/-- The endings of a statement, which a jump to its own label ends normally. -/
def endings (label : Option String) (s : Statement) : Endings where
  normal := canComplete s = true ∨ ∃ own, label = some own ∧ ∀ taken, breaksOut (some own) taken s = true
  breaksOut target taken := breaksOut target taken s
  leaves nesting := leavesIn nesting s

def endingsAll (body : List Statement) : Endings where
  normal := allComplete body = true
  breaksOut target taken := anyBreaksOut target taken body
  leaves nesting := leavesInAll nesting body

/-- The endings of the groups of a switch, which takes the jumps without label out of them. -/
def endingsCases (cases : List SwitchCase) : Endings where
  normal := lastCompletes cases = true ∨ canComplete.endsWithoutBody cases = true
    ∨ casesBreakOut none false cases = true
  breaksOut target _ := casesBreakOut target true cases
  leaves nesting := leavesInCases nesting.inSwitch cases

def endingsCatches (catches : List CatchClause) : Endings where
  normal := anyCatchCompletes catches = true
  breaksOut target taken := catchesBreakOut target taken catches
  leaves nesting := leavesInCatches nesting catches

theorem completes_of_endings {s : Statement} (normal : (endings none s).normal) : canComplete s = true := by
  rcases normal with completes | ⟨own, impossible, _⟩
  · exact completes
  · cases impossible

theorem isTrue_eq {condition : Expression} (always : isTrue condition = true) :
    condition = .literal (.bool true) := by
  unfold isTrue at always
  split at always
  · rfl
  · cases always

/-- What a loop makes of the end of its body. -/
structure Loops (body loop : Statement) : Prop where
  left : breaksOut none false body = true → canComplete loop = true
  breaks : ∀ target taken, breaksOut target true body = true → breaksOut target taken loop = true
  leaves : ∀ nesting, leavesIn nesting.inLoop body ⊆ leavesIn nesting loop

theorem Loops.allows {body loop : Statement} (loops : Loops body loop) {label : Option String} (flow : Flow)
    (allowed : (endings none body).Allows flow) (ended : Flow) (after : afterPass label flow = some ended) :
    (endings label loop).Allows ended := by
  cases flow with
  | normal => cases after
  | breaks target =>
    cases target with
    | none =>
      cases after
      exact .inl (loops.left (allowed false fun _ => rfl))
    | some target =>
      have outer (taken : Bool) : breaksOut (some target) taken loop = true :=
        loops.breaks (some target) taken (allowed true (by simp))
      simp only [afterPass] at after
      split at after
      · next own =>
        cases after
        exact .inr ⟨target, by simpa using own, outer⟩
      · cases after
        exact fun taken _ => outer taken
  | continues target =>
    cases target with
    | none => cases after
    | some target =>
      simp only [afterPass] at after
      split at after
      · cases after
      · cases after
        intro nesting
        obtain ⟨leaf, member, same, _⟩ := allowed nesting.inLoop
        exact ⟨leaf, loops.leaves nesting member, same, by simp⟩
  | returns value =>
    cases after
    trivial

theorem Loops.passes {body loop : Statement} (loops : Loops body loop) {label : Option String} {code : Code Flow}
    (promises : Promises (endings none body).Allows code) :
    Promises (fun ended => ∀ flow, ended = some flow → (endings label loop).Allows flow)
      (afterPass label <$> code) :=
  promises.map loops.allows

/-- A pass that goes on with a `do` loop has come to the end of the body. -/
theorem completes_of_afterPass {body : Statement} {label : Option String} {flow : Flow}
    (apart : (leavesIn {} body).any (goesOn label) = false) (allowed : (endings none body).Allows flow)
    (onward : afterPass label flow = none) : canComplete body = true := by
  have none_goes (leaf : Nesting × Leaf) (member : leaf ∈ leavesIn {} body) : goesOn label leaf = false := by
    simpa using List.any_eq_false.mp apart leaf member
  cases flow with
  | normal => exact completes_of_endings allowed
  | continues target =>
    obtain ⟨leaf, member, same, free⟩ := allowed {}
    have goes := none_goes leaf member
    cases target with
    | none => simp [goesOn, same, free] at goes
    | some target =>
      simp only [afterPass] at onward
      split at onward
      · next own => simp [goesOn, same, own] at goes
      · cases onward
  | breaks target =>
    cases target with
    | none => cases onward
    | some target =>
      simp only [afterPass] at onward
      split at onward <;> cases onward
  | returns value => cases onward

theorem Endings.Allows.jump {given : Endings} {flow : Flow} (allowed : given.Allows flow) (abrupt : flow ≠ .normal) :
    { given with normal := False : Endings }.Allows flow := by
  cases flow with
  | normal => exact absurd rfl abrupt
  | _ => exact allowed

theorem allows_of_part {part : Endings} {label : Option String} {whole : Statement}
    (normal : part.normal → canComplete whole = true)
    (breaks : ∀ target taken, part.breaksOut target taken = true → breaksOut target taken whole = true)
    (leaves : ∀ nesting leaf, leaf ∈ part.leaves nesting → leaf ∈ leavesIn nesting whole) (flow : Flow)
    (allowed : part.Allows flow) : (endings label whole).Allows flow :=
  allowed.mono ⟨fun completes => Or.inl (normal completes), breaks, fun nesting _ => leaves nesting _⟩

theorem allows_afterLabel {label : Option String} {own : String} {body : Statement} (flow : Flow)
    (allowed : (endings (some own) body).Allows flow) :
    (endings label (.labeled own body)).Allows (afterLabel own flow) := by
  have left (out : ∀ taken, breaksOut (some own) taken body = true) : canComplete (.labeled own body) = true :=
    Bool.or_inr (out false)
  cases flow with
  | normal =>
    rcases allowed with completes | ⟨_, same, out⟩
    · exact .inl (Bool.or_inl completes)
    · cases same
      exact .inl (left out)
  | breaks target =>
    have outer : (endings label (.labeled own body)).Allows (.breaks target) := fun taken free =>
      allowed taken free
    cases target with
    | none => exact outer
    | some target =>
      simp only [afterLabel]
      split
      · next same =>
        obtain rfl : target = own := by simpa using same
        exact .inl (left fun taken => allowed taken (by simp))
      · exact outer
  | continues target =>
    intro nesting
    obtain ⟨leaf, member, same⟩ := allowed (nesting.inLabel own)
    exact ⟨leaf, member, same⟩
  | returns value => trivial

theorem guarded_allowed {label : Option String} {body : List Statement} {catches : List CatchClause}
    {first : Code Flow} {handler : Value → Code Flow} (begins : Promises (endingsAll body).Allows first)
    (handles : ∀ thrown, Promises (endingsCatches catches).Allows (handler thrown)) :
    Promises (endings label (.tryCatch body catches none)).Allows (Interpreter.guarded first handler) := by
  refine (begins.mono ?_).guarded fun thrown => (handles thrown).mono ?_
  · exact allows_of_part (fun completes => Bool.and_intro rfl (Bool.or_inl completes))
      (fun _ _ out => Bool.or_inl (Bool.or_inl out))
      fun _ _ member => List.mem_append_left _ (List.mem_append_left _ member)
  · exact allows_of_part (fun completes => Bool.and_intro rfl (Bool.or_inr completes))
      (fun _ _ out => Bool.or_inl (Bool.or_inr out))
      fun _ _ member => List.mem_append_left _ (List.mem_append_right _ member)

/-- A finalizer that ends normally lets the statement end as it would without; any other end is that of the
statement. -/
theorem ensuring_allowed {label : Option String} {body finalizer : List Statement} {catches : List CatchClause}
    {first last : Code Flow} (begins : Promises (endings none (.tryCatch body catches none)).Allows first)
    (finishes : Promises (endingsAll finalizer).Allows last) :
    Promises (endings label (.tryCatch body catches (some finalizer))).Allows (Interpreter.ensuring first last) := by
  refine begins.ensuring finishes (fun completes => allows_of_part (fun normal => ?_) ?_ ?_)
    fun flow abrupt allowed => allows_of_part False.elim ?_ ?_ flow (allowed.jump abrupt)
  · have handled := completes_of_endings normal
    have finished : allComplete finalizer = true := completes
    exact Bool.and_intro finished (Bool.and_eq_true_iff.mp handled).2
  · exact fun _ _ out => Bool.or_inl ((Bool.or_false _).symm.trans out)
  · intro nesting leaf member
    have member : leaf ∈ leavesInAll nesting body ++ leavesInCatches nesting catches ++ [] := member
    rw [List.append_nil] at member
    exact List.mem_append_left _ member
  · exact fun _ _ out => Bool.or_inr out
  · exact fun _ _ member => List.mem_append_right _ member

/-- Where a later group is run to its end, so is the switch. -/
theorem allows_later {label : Option Expression} {body : List Statement} {rest : List SwitchCase} (more : rest ≠ [])
    (flow : Flow) (allowed : (endingsCases rest).Allows flow) :
    (endingsCases (⟨label, body⟩ :: rest)).Allows flow := by
  obtain ⟨next, others, rfl⟩ := List.exists_cons_of_ne_nil more
  refine allowed.mono ⟨fun completes => ?_, ?_, ?_⟩
  · have last : (⟨label, body⟩ :: next :: others).getLast? = (next :: others).getLast? := List.getLast?_cons_cons
    rcases completes with completes | empty | left
    · by_cases hollow : (next :: others).all (·.body.isEmpty) = true
      · have ending := List.all_eq_true.mp hollow _ (List.getLast_mem more)
        refine .inr (.inl ?_)
        simpa [canComplete.endsWithoutBody, last, List.getLast?_eq_some_getLast more] using ending
      · exact .inl ((if_neg hollow).trans completes)
    · refine .inr (.inl ?_)
      rw [canComplete.endsWithoutBody, last]
      exact empty
    · exact .inr (.inr (Bool.or_inr left))
  · exact fun _ _ out => Bool.or_inr out
  · exact fun _ _ member => List.mem_append_right _ member

theorem allows_group {label : Option Expression} {body : List Statement} {rest : List SwitchCase} (flow : Flow)
    (allowed : (endingsAll body).Allows flow) (abrupt : flow ≠ .normal) (leaves : flow ≠ .breaks none) :
    (endingsCases (⟨label, body⟩ :: rest)).Allows flow := by
  cases flow with
  | normal => exact absurd rfl abrupt
  | breaks target =>
    cases target with
    | none => exact absurd rfl leaves
    | some target =>
      have out : anyBreaksOut (some target) true body = true := allowed true (by simp)
      exact fun _ _ => Bool.or_inl out
  | continues target =>
    intro nesting
    obtain ⟨leaf, member, same⟩ := allowed nesting.inSwitch
    exact ⟨leaf, List.mem_append_left _ member, same⟩
  | returns value => trivial

section

variable {meaning : Meaning}

theorem condition_promises (plain : meaning.Plain) (condition : Expression) {property : Flow → Prop}
    (leaves : isTrue condition = false → property .normal) :
    Promises (fun value => value = false → property .normal) (truth (meaning.eval condition)) := by
  cases always : isTrue condition with
  | false => exact Promises.any.mono fun _ _ _ => leaves always
  | true =>
    rw [isTrue_eq always]
    exact plain.literal.truth.mono fun value holds fails => by simp [holds] at fails

mutual

/-- However a statement ends, what is written in it allows that. -/
theorem exec_allowed (plain : meaning.Plain) (fuel : Nat) (label : Option String) :
    (s : Statement) → conditionsApart label s = true → Promises (endings label s).Allows (exec meaning fuel label s)
  | .block body, apart =>
    (execAll_allowed plain fuel body apart).inScope.mono
      (allows_of_part (fun completes => completes) (fun _ _ out => out) fun _ _ member => member)
  | .expression _, _ | .declare _, _ | .localType _, _ => .bind .any fun _ _ => .pure (.inl rfl)
  | .ifElse condition whenTrue none, apart => by
    refine .bind .any fun holds _ => ?_
    split
    · refine (exec_allowed plain fuel none whenTrue (Bool.and_eq_true_iff.mp apart).1).mono ?_
      exact allows_of_part (fun _ => rfl) (fun _ _ out => Bool.or_inl out) fun _ _ member => List.mem_append_left _ member
    · exact .pure (.inl rfl)
  | .ifElse condition whenTrue (some whenFalse), apart => by
    have apart := Bool.and_eq_true_iff.mp apart
    refine .bind .any fun holds _ => ?_
    split
    · refine (exec_allowed plain fuel none whenTrue apart.1).mono ?_
      exact allows_of_part (fun completes => Bool.or_inl (completes_of_endings completes))
        (fun _ _ out => Bool.or_inl out) fun _ _ member => List.mem_append_left _ member
    · refine (exec_allowed plain fuel none whenFalse apart.2).mono ?_
      exact allows_of_part (fun completes => Bool.or_inr (completes_of_endings completes))
        (fun _ _ out => Bool.or_inr out) fun _ _ member => List.mem_append_right _ member
  | .whileLoop condition body, apart => by
    have loops : Loops body (.whileLoop condition body) := ⟨Bool.or_inr, fun _ _ out => out, fun _ => List.Subset.refl _⟩
    have pass := exec_allowed plain fuel none body apart
    refine (Promises.repeatWhile ?_ (loops.passes pass) fuel).inScope
    exact condition_promises plain condition fun leaves => .inl (Bool.or_inl (by simp [leaves]))
  | .doWhile body condition, apart => by
    obtain ⟨apart, inside⟩ := Bool.and_eq_true_iff.mp apart
    have loops : Loops body (.doWhile body condition) := ⟨Bool.or_inr, fun _ _ out => out, fun _ => List.Subset.refl _⟩
    have pass := exec_allowed plain fuel none body inside
    refine (pass.bind fun flow allowed => ?_).inScope
    split
    · exact .pure (loops.allows flow allowed _ ‹_›)
    · refine .repeatWhile (condition_promises plain condition fun leaves => .inl ?_) (loops.passes pass) fuel
      have completes := completes_of_afterPass (by simpa [leaves] using apart) allowed ‹_›
      exact Bool.or_inl (by simp [completes, leaves])
  | .forLoop start condition update body, apart => by
    have loops : Loops body (.forLoop start condition update body) :=
      ⟨Bool.or_inr, fun _ _ out => Bool.or_inr out, fun _ => List.subset_append_right _ _⟩
    have pass := exec_allowed plain fuel none body apart
    refine (Promises.bind .any fun _ _ => .repeatWhile ?_ ?_ fuel).inScope
    · cases condition with
      | none => exact .pure (by simp)
      | some condition =>
        exact condition_promises plain condition fun leaves => .inl (Bool.or_inl (by simp [leaves]))
    · refine pass.bind fun flow allowed => ?_
      split
      · next ended after =>
        exact .pure fun _ same => by cases same; exact loops.allows flow allowed ended after
      · exact .bind .any fun _ _ => .pure (by simp)
  | .forEach item iterable body, apart => by
    have loops : Loops body (.forEach item iterable body) :=
      ⟨fun _ => rfl, fun _ _ out => out, fun _ => List.Subset.refl _⟩
    have pass := exec_allowed plain fuel none body apart
    exact (Promises.iterate fuel item iterable (.inl rfl) (loops.passes pass)).inScope
  | .switch selector cases, apart => by
    refine .bind .any fun value _ => .bind .any fun value _ => ?_
    refine (firstCase_promises value cases).bind fun first found => ?_
    split
    · refine (execCases_allowed plain fuel _ cases found apart).inScope.mono ?_
      refine allows_of_part (fun completes => ?_) (fun _ _ out => out) fun _ _ member => member
      rcases completes with last | empty | left
      · exact Bool.or_inl (Bool.or_inl (Bool.or_inr last))
      · exact Bool.or_inl (Bool.or_inr empty)
      · exact Bool.or_inr left
    · exact .pure (.inl (Bool.or_inl (Bool.or_inl (Bool.or_inl (by simp [found])))))
  | .tryCatch body catches none, apart => by
    obtain ⟨parts, _⟩ := Bool.and_eq_true_iff.mp apart
    have parts := Bool.and_eq_true_iff.mp parts
    exact guarded_allowed (execAll_allowed plain fuel body parts.1).inScope fun thrown =>
      execCatches_allowed plain fuel thrown catches parts.2
  | .tryCatch body catches (some finalizer), apart => by
    obtain ⟨parts, last⟩ := Bool.and_eq_true_iff.mp apart
    have parts := Bool.and_eq_true_iff.mp parts
    change Promises _ (meaning.finish _ _)
    rw [plain.finish]
    refine ensuring_allowed (guarded_allowed (execAll_allowed plain fuel body parts.1).inScope fun thrown =>
      execCatches_allowed plain fuel thrown catches parts.2) ?_
    exact (execAll_allowed plain fuel finalizer last).inScope
  | .synchronized lock body, apart => by
    refine .bind .any fun value _ => .bind .any fun _ _ => ?_
    exact (execAll_allowed plain fuel body apart).inScope.mono
      (allows_of_part (fun completes => completes) (fun _ _ out => out) fun _ _ member => member)
  | .returns none, _ => .pure trivial
  | .returns (some value), _ => Promises.any.map fun _ _ => trivial
  | .returnsDefault, _ => .bind .any fun _ _ => .pure trivial
  | .throws value, _ => .bind .any fun _ _ => .bind .any fun _ _ => .throw
  | .breaks none, _ => .pure fun taken free => by
    obtain rfl := free rfl
    rfl
  | .breaks (some target), _ => .pure fun _ _ => beq_self_eq_true target
  | .continues target, _ => .pure fun nesting => ⟨(nesting, .continues target), List.mem_cons_self, rfl, fun _ => rfl⟩
  | .labeled own body, apart => (exec_allowed plain fuel (some own) body apart).map allows_afterLabel
  | .empty, _ => .pure (.inl rfl)
  | .verbatim text, _ => fun _ _ _ ends => by cases ends

theorem execAll_allowed (plain : meaning.Plain) (fuel : Nat) :
    (body : List Statement) → allApart body = true → Promises (endingsAll body).Allows (execAll meaning fuel body)
  | [], _ => .pure rfl
  | s :: rest, apart => by
    have apart := Bool.and_eq_true_iff.mp apart
    refine (exec_allowed plain fuel none s apart.1).bind fun flow allowed => ?_
    split
    · have completes := completes_of_endings allowed
      exact (execAll_allowed plain fuel rest apart.2).mono (Endings.Allows.mono
        ⟨Bool.and_intro completes, fun _ _ out => Bool.or_inr out, fun _ => List.subset_append_right _ _⟩)
    · next abrupt =>
      exact .pure (Endings.Allows.mono
        ⟨False.elim, fun _ _ out => Bool.or_inl out, fun _ => List.subset_append_left _ _⟩ flow (allowed.jump abrupt))

theorem execCases_allowed (plain : meaning.Plain) (fuel : Nat) (first : Nat) :
    (cases : List SwitchCase) → first < cases.length → casesApart cases = true →
      Promises (endingsCases cases).Allows (execCases meaning fuel first cases)
  | [], within, _ => by simp at within
  | ⟨label, body⟩ :: rest, within, apart => by
    have apart := Bool.and_eq_true_iff.mp apart
    cases first with
    | succ first =>
      have later : first < rest.length := by simpa using within
      have more : rest ≠ [] := List.ne_nil_of_length_pos (by omega)
      exact (execCases_allowed plain fuel first rest later apart.2).mono (allows_later more)
    | zero =>
      refine (execAll_allowed plain fuel body apart.1).bind fun flow allowed => ?_
      split
      · cases rest with
        | nil =>
          have completes : allComplete body = true := allowed
          exact .pure (.inl completes)
        | cons group rest =>
          exact (execCases_allowed plain fuel 0 (group :: rest) (by simp) apart.2).mono (allows_later (by simp))
      · have left : anyBreaksOut none false body = true := allowed false fun _ => rfl
        exact .pure (.inr (.inr (Bool.or_inl left)))
      · next abrupt leaves => exact .pure (allows_group flow allowed abrupt leaves)

theorem execCatches_allowed (plain : meaning.Plain) (fuel : Nat) (thrown : Value) :
    (catches : List CatchClause) → catchesApart catches = true →
      Promises (endingsCatches catches).Allows (execCatches meaning fuel thrown catches)
  | [], _ => .throw
  | ⟨parameter, body⟩ :: rest, apart => by
    have apart := Bool.and_eq_true_iff.mp apart
    refine .bind .any fun world _ => ?_
    split
    · exact (Promises.bind .any fun _ _ => execAll_allowed plain fuel body apart.1).inScope.mono
        (Endings.Allows.mono ⟨Bool.or_inl, fun _ _ out => Bool.or_inl out, fun _ => List.subset_append_left _ _⟩)
    · exact (execCatches_allowed plain fuel thrown rest apart.2).mono
        (Endings.Allows.mono ⟨Bool.or_inr, fun _ _ out => Bool.or_inr out, fun _ => List.subset_append_right _ _⟩)

end

/-- A statement that cannot complete never ends normally, if no `continue` in it leads to the condition of a `do`
loop. -/
theorem canComplete_sound (plain : meaning.Plain) {s : Statement} (apart : conditionsApart none s = true)
    (stuck : canComplete s = false) (fuel : Nat) (point : Point) :
    (outcome (exec meaning fuel none s) point).1 ≠ .ok .normal := by
  intro normal
  have allowed := exec_allowed plain fuel none s apart point .normal _ (Prod.ext normal rfl)
  simp [completes_of_endings allowed] at stuck

/-- A `do` loop whose body goes on by `continue` is taken not to complete, but does so once its condition fails. -/
theorem doWhile_continues_completes {condition : Expression} (fuel : Nat) {point after : Point}
    (fails : outcome (truth (meaning.eval condition)) point.push = (.ok false, after)) :
    let loop : Statement := .doWhile (.continues none) condition
    canComplete loop = false ∧ outcome (exec meaning (fuel + 1) none loop) point = (.ok .normal, after.pop) := by
  refine ⟨rfl, ?_⟩
  have ends : outcome (repeatWhile (truth (meaning.eval condition))
      (afterPass none <$> exec meaning (fuel + 1) none (.continues none)) (fuel + 1)) point.push =
      (.ok .normal, after) := by
    simp [repeatWhile, fails]
  change outcome (inScope (repeatWhile (truth (meaning.eval condition))
    (afterPass none <$> exec meaning (fuel + 1) none (.continues none)) (fuel + 1))) point = _
  rw [outcome_inScope, ends]

end

end JavaWeave.Generator
