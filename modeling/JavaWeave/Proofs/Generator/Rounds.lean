import JavaWeave.Proofs.Generator.Writing
import JavaWeave.Proofs.Interpreter.Outcome
import JavaWeave.Proofs.Interpreter.Store

namespace JavaWeave.Generator

open Syntax Interpreter

/-- The numbers of the states of a machine. -/
def Machine.numberedFrom (machine : Machine) (first : Nat) : Numbering := { layout := machine.layout, first }

/-- The state that a number stands for; a number that none has stands for the end. -/
def Numbering.denotes (numbering : Numbering) (number : Int32) : Target :=
  match numbering.layout.find? fun id => numbering.number (.state id) == number with
  | some id => .state id
  | none => .done

/-- There are numbers for all states. -/
def Numbering.Fits (numbering : Numbering) : Prop := numbering.first + numbering.layout.length < 2147483648

namespace Numbering

variable {numbering : Numbering}

/-- The number of a state that is written tells its place. -/
theorem number_of_mem {id : Nat} (member : id ∈ numbering.layout) :
    ∃ place, numbering.layout[place]? = some id ∧
      numbering.number (.state id) = Int32.ofNat (numbering.first + place) := by
  obtain ⟨place, found⟩ := Option.isSome_iff_exists.mp (List.isSome_idxOf?.mpr member)
  obtain ⟨inside, here, _⟩ := List.idxOf?_eq_some_iff.mp found
  exact ⟨place, by simp [inside, here], by simp only [number, found]⟩

theorem number_of_not_mem {id : Nat} (absent : id ∉ numbering.layout) : numbering.number (.state id) = -1 := by
  simp [number, List.idxOf?_eq_none_iff.mpr absent]

private theorem place_lt {place id : Nat} (found : numbering.layout[place]? = some id) :
    place < numbering.layout.length := (List.getElem?_eq_some_iff.mp found).1

theorem number_injective (fits : numbering.Fits) {id id' : Nat} (member : id ∈ numbering.layout)
    (member' : id' ∈ numbering.layout)
    (same : numbering.number (.state id) = numbering.number (.state id')) : id = id' := by
  obtain ⟨place, found, number⟩ := number_of_mem member
  obtain ⟨place', found', number'⟩ := number_of_mem member'
  have inside := place_lt found
  have inside' := place_lt found'
  unfold Fits at fits
  have places := congrArg Int32.toInt (number.symm.trans (same.trans number'))
  rw [Int32.toInt_ofNat_of_lt (by omega), Int32.toInt_ofNat_of_lt (by omega)] at places
  obtain rfl : place = place' := by omega
  exact Option.some.inj (found.symm.trans found')

theorem number_ne_end (fits : numbering.Fits) {id : Nat} (member : id ∈ numbering.layout) :
    numbering.number (.state id) ≠ -1 := by
  obtain ⟨place, found, number⟩ := number_of_mem member
  have inside := place_lt found
  unfold Fits at fits
  rw [number]
  intro same
  have values := congrArg Int32.toInt same
  rw [Int32.toInt_ofNat_of_lt (by omega)] at values
  have negative : Int32.toInt (-1) = -1 := by decide
  omega

theorem denotes_of_mem (fits : numbering.Fits) {id : Nat} (member : id ∈ numbering.layout) :
    numbering.denotes (numbering.number (.state id)) = .state id := by
  cases found : numbering.layout.find? fun other =>
      numbering.number (.state other) == numbering.number (.state id) with
  | none =>
    have := List.find?_eq_none.mp found id member
    simp at this
  | some other =>
    have same := List.find?_some found
    have inside := List.mem_of_find?_eq_some found
    rw [denotes, found]
    exact congrArg Target.state (number_injective fits inside member (by simpa using same))

theorem mem_of_denotes {number : Int32} {id : Nat} (found : numbering.denotes number = .state id) :
    id ∈ numbering.layout ∧ numbering.number (.state id) = number := by
  unfold denotes at found
  split at found
  · next other first =>
    cases found
    exact ⟨List.mem_of_find?_eq_some first, by simpa using List.find?_some first⟩
  · cases found

end Numbering

/-- The number that a group of a switch is for. -/
def caseNumber (group : SwitchCase) : Option Int32 :=
  match group.label with
  | some (.literal (.int number)) => some number
  | _ => none

/-- Whether a group of a switch is for a number, or the default. -/
def IsNumbered (group : SwitchCase) : Prop := group.label = none ∨ ∃ number, group.label = some (.int number)

/-- A meaning under which a number is what it says. -/
def ReadsNumbers (meaning : Meaning) : Prop :=
  ∀ number point, outcome (meaning.eval (.int number)) point = (.ok (.int number), point)

section

variable {meaning : Meaning} (literal : ReadsNumbers meaning) {fuel : Nat} {point : Point}

include literal

theorem outcome_matchesNumber {number other : Int32} :
    outcome (matchesLabel meaning (.int number) (.int other)) point = (.ok (number == other), point) := by
  have read : outcome (liftM heap : Code Heap) point = (.ok point.2.heap, point) := rfl
  have unnamed : point.2.heap.constant? (.int number) = none := rfl
  simp only [matchesLabel, outcome_bind, read, proceed_ok, unnamed, literal other point, outcome_pure,
    Value.same_int]

/-- A switch over numbers finds the first group of the number. -/
theorem outcome_labeledCase {number : Int32} {cases : List SwitchCase} (place : Nat)
    (numbered : ∀ group ∈ cases, IsNumbered group) :
    outcome (labeledCase? meaning (.int number) place cases) point =
      (.ok ((cases.findIdx? fun group => caseNumber group == some number).map (· + place)), point) := by
  induction cases generalizing place with
  | nil => rfl
  | cons group rest ih =>
    have later := ih (place + 1) fun group member => numbered group (List.mem_cons_of_mem _ member)
    have shifted : ((rest.findIdx? fun group => caseNumber group == some number).map (· + 1)).map (· + place) =
        (rest.findIdx? fun group => caseNumber group == some number).map (· + (place + 1)) := by
      rw [Option.map_map]
      congr 1
      funext count
      simp only [Function.comp_apply]
      omega
    rcases numbered group List.mem_cons_self with unlabeled | ⟨other, labeled⟩
    · have unnumbered : (caseNumber group == some number) = false := by simp [caseNumber, unlabeled]
      rw [List.findIdx?_cons, unnumbered]
      simp only [labeledCase?, unlabeled, Bool.false_eq_true, if_false, shifted]
      exact later
    · have numbers : caseNumber group = some other := by simp [caseNumber, labeled, Expression.int]
      simp only [labeledCase?, labeled, outcome_bind, outcome_matchesNumber literal, proceed_ok]
      rw [List.findIdx?_cons, numbers]
      by_cases same : number = other
      · subst same
        simp
      · have different : (some other == some number) = false := by
          simp [Ne.symm same]
        have different' : (number == other) = false := by simp [same]
        rw [different, different']
        simp only [Bool.false_eq_true, if_false, shifted]
        exact later

/-- A switch runs the groups from that of its number on, or from the default on. -/
theorem outcome_numberSwitch {selector : Expression} {number : Int32} {cases : List SwitchCase}
    {label : Option String} (numbered : ∀ group ∈ cases, IsNumbered group)
    (selected : outcome (meaning.eval selector) point = (.ok (.int number), point)) :
    outcome (exec meaning fuel label (.switch selector cases)) point =
      match (cases.findIdx? fun group => caseNumber group == some number).or
          (cases.findIdx? (·.label.isNone)) with
      | some first => outcome (inScope (execCases meaning fuel first cases)) point
      | none => (.ok .normal, point) := by
  have found : outcome (firstCase? meaning (.int number) cases) point =
      (.ok ((cases.findIdx? fun group => caseNumber group == some number).or
        (cases.findIdx? (·.label.isNone))), point) := by
    simp only [firstCase?, outcome_bind]
    rw [outcome_labeledCase literal 0 numbered]
    simp only [proceed_ok, Nat.add_zero, Option.map_id', outcome_pure]
  have given : outcome (liftM (nonNull (.int number)) : Code Value) point = (.ok (.int number), point) :=
    outcome_nonNull rfl point
  simp only [exec_switch, outcome_bind, selected, proceed_ok, given, found]
  cases (cases.findIdx? fun group => caseNumber group == some number).or
    (cases.findIdx? (·.label.isNone)) <;> rfl

end

section

variable (machine : Machine) (numbering : Numbering)

/-- The group that is run where no state has the current number. -/
def endGroup : SwitchCase := ⟨none, [.returns (some (.bool false))]⟩

theorem stateGroups_drop (ids : List Nat) (count : Nat) :
    (stateGroups machine numbering ids).drop count = stateGroups machine numbering (ids.drop count) := by
  induction ids generalizing count with
  | nil => simp [stateGroups]
  | cons id rest ih =>
    cases count with
    | zero => rfl
    | succ count => simpa [stateGroups] using ih count

theorem stateGroups_length (ids : List Nat) : (stateGroups machine numbering ids).length = ids.length := by
  induction ids with
  | nil => rfl
  | cons id rest ih => simp [stateGroups, ih]

theorem isNumbered_stateGroups (ids : List Nat) :
    ∀ group ∈ stateGroups machine numbering ids ++ [endGroup], IsNumbered group := by
  induction ids with
  | nil =>
    intro group member
    simp only [stateGroups, List.nil_append, List.mem_singleton] at member
    exact Or.inl (by rw [member]; rfl)
  | cons id rest ih =>
    intro group member
    rcases List.mem_cons.mp member with rfl | later
    · exact Or.inr ⟨_, rfl⟩
    · exact ih group later

theorem findIdx_stateGroups (ids : List Nat) (number : Int32) :
    ((stateGroups machine numbering ids ++ [endGroup]).findIdx? fun group =>
        caseNumber group == some number).or
      ((stateGroups machine numbering ids ++ [endGroup]).findIdx? (·.label.isNone)) =
      some (ids.findIdx fun id => numbering.number (.state id) == number) := by
  induction ids with
  | nil => rfl
  | cons id rest ih =>
    have labeled : caseNumber ⟨some (numbering.literal (.state id)), stateBody machine numbering id rest⟩ =
        some (numbering.number (.state id)) := rfl
    rw [stateGroups, List.cons_append, List.findIdx?_cons, List.findIdx?_cons, List.findIdx_cons, labeled]
    by_cases same : numbering.number (.state id) = number
    · simp [same]
    · have different : (some (numbering.number (.state id)) == some number) = false := by simp [same]
      have different' : (numbering.number (.state id) == number) = false := by simp [same]
      rw [different, different']
      simp only [Bool.false_eq_true, if_false, Option.isNone_some, cond_false]
      rw [← Option.map_or, ih]
      rfl

end

end JavaWeave.Generator
