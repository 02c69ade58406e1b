import JavaWeave.Handler.Rethrow
import JavaWeave.Interpreter.Text

/-! The message of a rethrown exception. It is read into a format and a list of parameters when the annotation is
carried out, and the format is filled with their texts when the exception is thrown. Together the two replace the
references to parameters and leave everything else as it was written, percent signs included. -/

namespace JavaWeave.Weave

open Interpreter

/-- The characters that the name of a reference begins with. -/
def NameStart (c : Char) : Prop := ('A' ≤ c ∧ c ≤ 'Z') ∨ ('a' ≤ c ∧ c ≤ 'z') ∨ c = '_'

/-- The characters that it consists of. -/
def NamePart (c : Char) : Prop := NameStart c ∨ ('0' ≤ c ∧ c ≤ '9')

/-- A text begins with a reference to a parameter: `$` and a name that ends where no longer one is possible. -/
structure RefersTo (parameters : List String) (text name rest : List Char) : Prop where
  written : text = '$' :: (name ++ rest)
  start : ∃ first, name.head? = some first ∧ NameStart first
  parts : ∀ c ∈ name, NamePart c
  longest : ∀ c, rest.head? = some c → ¬NamePart c
  parameter : String.ofList name ∈ parameters

/-- A text and what it becomes when, from left to right, each reference to a parameter is replaced by the text
given for it. All other characters are kept. -/
inductive Replaced (parameters : List String) (given : String → String) : List Char → List Char → Prop where
  | done : Replaced parameters given [] []
  | reference {text name rest shown : List Char} (refers : RefersTo parameters text name rest)
      (behind : Replaced parameters given rest shown) :
      Replaced parameters given text ((given (String.ofList name)).toList ++ shown)
  | kept {c : Char} {rest shown : List Char} (plain : ∀ name behind, ¬RefersTo parameters (c :: rest) name behind)
      (behind : Replaced parameters given rest shown) : Replaced parameters given (c :: rest) (c :: shown)

variable {parameters : List String} {given : String → String}

theorem startsReference_iff {c : Char} : startsReference c = true ↔ NameStart c := by
  have alpha : c.isAlpha = (c.isUpper || c.isLower) := rfl
  have upper : c.isUpper = decide ('A' ≤ c ∧ c ≤ 'Z') := rfl
  have lower : c.isLower = (decide ('a' ≤ c) && decide (c ≤ 'z')) := rfl
  simp only [startsReference, NameStart, alpha, upper, lower, Bool.or_eq_true, Bool.and_eq_true, decide_eq_true_eq,
    beq_iff_eq, or_assoc]

theorem continuesReference_iff {c : Char} : continuesReference c = true ↔ NamePart c := by
  have start := startsReference_iff (c := c)
  simp only [startsReference, Bool.or_eq_true] at start
  have digit : c.isDigit = true ↔ ('0' ≤ c ∧ c ≤ '9') := by
    simp only [Char.isDigit, Char.le_def, Bool.and_eq_true, decide_eq_true_eq]
  rw [NamePart, ← start, ← digit, continuesReference, Char.isAlphanum]
  grind

/-- A list splits in only one way into what belongs to a name and what cannot go on with it. -/
theorem split_longest {name rest : List Char} (parts : ∀ c ∈ name, NamePart c)
    (longest : ∀ c, rest.head? = some c → ¬NamePart c) :
    (name ++ rest).takeWhile continuesReference = name ∧ (name ++ rest).dropWhile continuesReference = rest := by
  have inside : ∀ c ∈ name, continuesReference c = true := fun c member => continuesReference_iff.mpr (parts c member)
  rw [List.takeWhile_append_of_pos inside, List.dropWhile_append_of_pos inside]
  cases rest with
  | nil => simp
  | cons c rest =>
    have ends : continuesReference c = false :=
      Bool.eq_false_iff.mpr fun goesOn => longest c rfl (continuesReference_iff.mp goesOn)
    simp [ends]

theorem RefersTo.unique {text name rest name' rest' : List Char} (refers : RefersTo parameters text name rest)
    (other : RefersTo parameters text name' rest') : name' = name ∧ rest' = rest := by
  have same : name ++ rest = name' ++ rest' := (List.cons.inj (refers.written.symm.trans other.written)).2
  obtain ⟨taken, dropped⟩ := split_longest refers.parts refers.longest
  obtain ⟨taken', dropped'⟩ := split_longest other.parts other.longest
  rw [same] at taken dropped
  exact ⟨taken'.symm.trans taken, dropped'.symm.trans dropped⟩

/-- There is only one way to replace the references of a text. -/
theorem Replaced.unique {text shown other : List Char} (first : Replaced parameters given text shown)
    (second : Replaced parameters given text other) : other = shown := by
  induction first generalizing other with
  | done =>
    cases second with
    | done => rfl
    | reference refers => exact nomatch refers.written
  | reference refers _ inductionHypothesis =>
    cases second with
    | done => exact nomatch refers.written
    | reference refers' behind =>
      obtain ⟨rfl, rfl⟩ := refers.unique refers'
      rw [inductionHypothesis behind]
    | kept plain => exact absurd refers (plain _ _)
  | kept plain _ inductionHypothesis =>
    cases second with
    | reference refers => exact absurd refers (plain _ _)
    | kept _ behind => rw [inductionHypothesis behind]

/-- A name as a reference has it. -/
def MessagePart.WellFormed : MessagePart → Prop
  | .plain _ => True
  | .reference name => ∀ c ∈ name.toList, NamePart c

/-- What a part shows. -/
def MessagePart.shown (parameters : List String) (given : String → String) : MessagePart → List Char
  | .plain c => [c]
  | .reference name => if parameters.contains name then (given name).toList else '$' :: name.toList

theorem wellFormed_messageParts (text : List Char) : ∀ part ∈ messageParts text, part.WellFormed := by
  fun_induction messageParts text with
  | case1 => exact nofun
  | case2 first rest starts inductionHypothesis =>
    refine List.forall_mem_cons.mpr ⟨?_, inductionHypothesis⟩
    intro c member
    rw [String.toList_ofList] at member
    rcases List.mem_cons.mp member with rfl | member
    · exact .inl (startsReference_iff.mp starts)
    · exact continuesReference_iff.mp (List.all_eq_true.mp List.all_takeWhile c member)
  | case3 first rest _ inductionHypothesis => exact List.forall_mem_cons.mpr ⟨trivial, inductionHypothesis⟩
  | case4 c rest _ inductionHypothesis => exact List.forall_mem_cons.mpr ⟨trivial, inductionHypothesis⟩

/-- Text without `$` refers to nothing. -/
theorem Replaced.keep {front rest shown : List Char} (plain : '$' ∉ front)
    (behind : Replaced parameters given rest shown) : Replaced parameters given (front ++ rest) (front ++ shown) := by
  induction front with
  | nil => exact behind
  | cons c front inductionHypothesis =>
    obtain ⟨other, plain⟩ := not_or.mp fun found => plain (List.mem_cons.mpr found)
    refine .kept (fun name behind refers => ?_) (inductionHypothesis plain)
    exact other (List.cons.inj refers.written).1.symm

theorem NamePart.ne {c sign : Char} (part : NamePart c) (sign_not : continuesReference sign = false) : c ≠ sign := by
  rintro rfl
  exact Bool.false_ne_true (sign_not.symm.trans (continuesReference_iff.mpr part))

/-- The parts of a text show it with its references replaced. -/
theorem replaced_messageParts (text : List Char) :
    Replaced parameters given text ((messageParts text).flatMap (MessagePart.shown parameters given)) := by
  fun_induction messageParts text with
  | case1 => exact .done
  | case2 first rest starts inductionHypothesis =>
    -- The name is the longest possible one, so nothing else can be referred to here.
    let name := first :: rest.takeWhile continuesReference
    let behind := rest.dropWhile continuesReference
    have whole : first :: rest = name ++ behind := by
      simp only [name, behind, List.cons_append, List.takeWhile_append_dropWhile]
    have start : NameStart first := startsReference_iff.mp starts
    have parts : ∀ c ∈ name, NamePart c := by
      refine List.forall_mem_cons.mpr ⟨.inl start, fun c member => ?_⟩
      exact continuesReference_iff.mp (List.all_eq_true.mp List.all_takeWhile c member)
    have longest : ∀ c, behind.head? = some c → ¬NamePart c := by
      intro c found part
      have ends := List.head?_dropWhile_not continuesReference rest
      rw [found] at ends
      exact absurd (continuesReference_iff.mpr part) (by simpa using ends)
    rw [List.flatMap_cons, MessagePart.shown]
    by_cases known : String.ofList name ∈ parameters
    · rw [if_pos (List.contains_iff_mem.mpr known)]
      exact .reference ⟨congrArg _ whole, ⟨first, rfl, start⟩, parts, longest, known⟩ inductionHypothesis
    · rw [if_neg (fun found => known (List.contains_iff_mem.mp found)), String.toList_ofList, whole]
      have other : '$' ∉ name := fun member => (parts '$' member).ne (by decide) rfl
      refine .kept (fun name' behind' refers => known ?_) (.keep other inductionHypothesis)
      have same : name ++ behind = name' ++ behind' := (List.cons.inj refers.written).2
      have first := (split_longest parts longest).1
      have second := (split_longest refers.parts refers.longest).1
      rw [same, second] at first
      exact first ▸ refers.parameter
  | case3 first rest starts inductionHypothesis =>
    refine .kept (fun name behind refers => starts ?_) inductionHypothesis
    obtain ⟨c, head, start⟩ := refers.start
    have same := (List.cons.inj refers.written).2
    obtain ⟨letters, rfl⟩ := List.head?_eq_some_iff.mp head
    rw [(List.cons.inj same).1]
    exact startsReference_iff.mpr start
  | case4 c rest alone inductionHypothesis =>
    refine .kept (fun name behind refers => ?_) inductionHypothesis
    obtain ⟨first, head, -⟩ := refers.start
    obtain ⟨letters, rfl⟩ := List.head?_eq_some_iff.mp head
    obtain ⟨rfl, rfl⟩ := List.cons.inj refers.written
    exact alone first (letters ++ behind) rfl rfl

theorem fillSlots_other {c : Char} (other : c ≠ '%') (rest : List Char) (texts : List String) :
    fillSlots (c :: rest) texts = (c :: ·) <$> fillSlots rest texts := by
  rw [fillSlots]
  intro sign rest' same
  exact absurd same other

theorem fillSlots_keep {front : List Char} (plain : '%' ∉ front) (rest : List Char) (texts : List String) :
    fillSlots (front ++ rest) texts = (front ++ ·) <$> fillSlots rest texts := by
  induction front with
  | nil => simp
  | cons c front inductionHypothesis =>
    obtain ⟨other, plain⟩ := not_or.mp fun found => plain (List.mem_cons.mpr found)
    rw [List.cons_append, fillSlots_other (Ne.symm other), inductionHypothesis plain]
    cases fillSlots rest texts <;> rfl

/-- The parameters that parts refer to, in their order. -/
def argumentsOf (parameters : List String) (parts : List MessagePart) : List String :=
  (parts.filterMap fun
    | .plain _ => none
    | .reference name => some name).filter parameters.contains

/-- The format of parts takes one text for each parameter, in order, and shows what the parts show. -/
theorem fillSlots_parts {parts : List MessagePart} (wellFormed : ∀ part ∈ parts, part.WellFormed) :
    fillSlots (parts.flatMap (MessagePart.format parameters)) ((argumentsOf parameters parts).map given) =
      .ok (parts.flatMap (MessagePart.shown parameters given)) := by
  induction parts with
  | nil => rfl
  | cons part parts inductionHypothesis =>
    obtain ⟨own, others⟩ := List.forall_mem_cons.mp wellFormed
    have rest := inductionHypothesis others
    simp only [argumentsOf] at rest
    rw [List.flatMap_cons, List.flatMap_cons]
    cases part with
    | plain c =>
      simp only [argumentsOf, List.filterMap_cons, MessagePart.format, MessagePart.shown]
      split
      case isTrue percent =>
        subst percent
        simp only [List.cons_append, List.nil_append, fillSlots, rest]
        rfl
      case isFalse other =>
        rw [List.singleton_append, fillSlots_other other, rest]
        rfl
    | reference name =>
      simp only [argumentsOf, List.filterMap_cons, List.filter_cons, MessagePart.format, MessagePart.shown]
      split
      case isTrue known =>
        simp only [List.cons_append, List.nil_append, List.map_cons, fillSlots, rest]
        rfl
      case isFalse unknown =>
        have plain : '%' ∉ '$' :: name.toList := by
          intro member
          rcases List.mem_cons.mp member with same | member
          · exact absurd same (by decide)
          · exact (own '%' member).ne (by decide) rfl
        rw [fillSlots_keep plain, rest]
        rfl

/-- A message that is read and then formatted with the texts of its parameters is the message with each reference
to a parameter replaced, and with nothing else changed. -/
theorem formatted_message (parameters : List String) (given : String → String) (text : String) :
    ∃ shown, fillSlots (FormatMessage.parse parameters text).format.toList
        ((FormatMessage.parse parameters text).arguments.map given) = .ok shown ∧
      ∀ other, Replaced parameters given text.toList other ↔ other = shown := by
  have replaced : Replaced parameters given text.toList _ := replaced_messageParts text.toList
  refine ⟨_, ?_, fun other => ⟨replaced.unique, fun same => same ▸ replaced⟩⟩
  rw [FormatMessage.parse, String.toList_ofList]
  exact fillSlots_parts (wellFormed_messageParts text.toList)

example : FormatMessage.parse ["path"] "cannot open $path at 100% ($paths)" =
    { format := "cannot open %s at 100%% ($paths)", arguments := ["path"], unknown := ["paths"] } := by cbv

end JavaWeave.Weave
