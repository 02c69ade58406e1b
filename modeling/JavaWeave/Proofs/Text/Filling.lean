import JavaWeave.Diagnostic.Message
import JavaWeave.Proofs.Text.Pieces

/-! How the slots of a message are filled. The arguments are put in one after the other, each into the text that the
ones before it gave. In the templates of the catalogue no slot can form at the border of an argument, so what becomes
of a slot depends on its argument alone: the slots of later arguments in it are filled as well. Arguments that hold
none are filled in as if all at once. -/

namespace JavaWeave

namespace Text

variable {pattern replacement : List Char}

theorem replaceFrom_skip : ∀ (skip : Nat) (text : List Char),
    replaceFrom pattern replacement skip text = replaceFrom pattern replacement 0 (text.drop skip)
  | 0, _ => rfl
  | _ + 1, [] => rfl
  | skip + 1, _ :: rest => by
    rw [replaceFrom, List.drop_succ_cons]
    exact replaceFrom_skip skip rest

theorem replaceFrom_cons {letter : Char} {rest : List Char} (apart : ¬ pattern <+: letter :: rest) :
    replaceFrom pattern replacement 0 (letter :: rest) = letter :: replaceFrom pattern replacement 0 rest := by
  rw [replaceFrom, if_neg fun begins => apart (List.isPrefixOf_iff_prefix.mp begins)]

theorem replaceFrom_occurrence (filled : pattern ≠ []) (rest : List Char) :
    replaceFrom pattern replacement 0 (pattern ++ rest) = replacement ++ replaceFrom pattern replacement 0 rest := by
  cases pattern with
  | nil => exact absurd rfl filled
  | cons first others =>
    have begins : (first :: others).isPrefixOf (first :: (others ++ rest)) = true :=
      List.isPrefixOf_iff_prefix.mpr (List.prefix_append (first :: others) rest)
    rw [List.cons_append, replaceFrom, if_pos begins, replaceFrom_skip, List.length_cons, Nat.add_sub_cancel,
      List.drop_left]

theorem replaceFrom_of_absent {text : List Char} (absent : ¬ pattern <:+: text) :
    replaceFrom pattern replacement 0 text = text := by
  induction text with
  | nil => rfl
  | cons letter rest inductionHypothesis =>
    rw [replaceFrom_cons fun begins => absent begins.isInfix,
      inductionHypothesis fun inside => absent (inside.trans (List.suffix_cons letter rest).isInfix)]

/-- No occurrence crosses a border behind which stands a letter that the pattern can only begin with. -/
theorem replaceFrom_append (filled : pattern ≠ []) {back : List Char} (border : ∀ letter ∈ back.head?, letter ∉ pattern.tail)
    (front : List Char) :
    replaceFrom pattern replacement 0 (front ++ back) =
      replaceFrom pattern replacement 0 front ++ replaceFrom pattern replacement 0 back := by
  have inside {front : List Char} (begun : front ≠ []) (begins : pattern <+: front ++ back) : pattern <+: front := by
    obtain ⟨rest, whole⟩ := begins
    rcases List.append_eq_append_iff.mp whole with ⟨others, same, -⟩ | ⟨beyond, same, continues⟩
    · exact ⟨others, same.symm⟩
    · cases beyond with
      | nil => exact ⟨[], by rw [same, List.append_assoc, List.append_nil, List.append_nil]⟩
      | cons letter beyond =>
        refine absurd ?_ (border letter (by rw [continues]; rfl))
        rw [same, List.tail_append_of_ne_nil begun]
        exact List.mem_append_right _ List.mem_cons_self
  induction length : front.length using Nat.strongRecOn generalizing front with
  | ind size inductionHypothesis =>
    cases front with
    | nil => rfl
    | cons letter rest =>
      by_cases begins : pattern <+: letter :: rest
      · obtain ⟨others, whole⟩ := begins
        have shorter : others.length < size := by
          have positive := List.length_pos_iff.mpr filled
          rw [← length, ← whole, List.length_append]
          omega
        rw [← whole, List.append_assoc, replaceFrom_occurrence filled, replaceFrom_occurrence filled,
          inductionHypothesis _ shorter others rfl, List.append_assoc]
      · have shorter : rest.length < size := by
          rw [← length, List.length_cons]
          exact Nat.lt_succ_self _
        have apart : ¬ pattern <+: letter :: (rest ++ back) := fun crossing => begins (inside (List.cons_ne_nil _ _) crossing)
        rw [List.cons_append, replaceFrom_cons apart, replaceFrom_cons begins, inductionHypothesis _ shorter rest rfl,
          List.cons_append]

end Text

namespace Diagnostic

theorem toList_slot (n : Nat) : (slot n).toList = '\x7b' :: (Nat.toDigits 10 n ++ ['\x7d']) := by
  simp [slot]

theorem slot_ne_nil (n : Nat) : (slot n).toList ≠ [] := by
  rw [toList_slot]
  exact List.cons_ne_nil _ _

/-- A slot has digits and its end behind its first letter. -/
theorem mem_tail_slot {n : Nat} {letter : Char} (member : letter ∈ (slot n).toList.tail) :
    letter.isDigit = true ∨ letter = '\x7d' := by
  rw [toList_slot, List.tail_cons, List.mem_append, List.mem_singleton] at member
  exact member.imp_left (Nat.isDigit_of_mem_toDigits (by decide) (by decide))

theorem opening_not_mem_tail (n : Nat) : '\x7b' ∉ (slot n).toList.tail := by
  intro member
  rcases mem_tail_slot member with digit | closing
  · exact absurd digit (by decide)
  · exact absurd closing (by decide)

/-- Of the slots only one itself can begin where a slot does. -/
theorem eq_of_slot_begins {n k : Nat} {rest : List Char} (begins : (slot k).toList <+: (slot n).toList ++ rest) : k = n := by
  have plain (n : Nat) : '\x7d' ∉ Nat.toDigits 10 n := fun member =>
    absurd (Nat.isDigit_of_mem_toDigits (by decide) (by decide) member) (by decide)
  obtain ⟨others, same⟩ := begins
  rw [toList_slot, toList_slot, List.cons_append, List.cons_append, List.append_assoc, List.append_assoc] at same
  have digits := congrArg (Text.pieces '\x7d') (List.cons.inj same).2
  rw [List.singleton_append, List.singleton_append, Text.pieces_append _ (plain k), Text.pieces_append _ (plain n)] at digits
  simpa using congrArg (Nat.ofDigitChars 10 · 0) (List.cons.inj digits).1

/-- Text with all slots filled at once: from left to right, a slot that there is an argument for becomes its text, which
is not looked through again, and all other letters are kept. -/
inductive Filled (arguments : List String) : List Char → List Char → Prop where
  | done : Filled arguments [] []
  | slot {n : Nat} {argument : String} {rest result : List Char} (given : arguments[n]? = some argument)
      (onward : Filled arguments rest result) :
      Filled arguments ((slot n).toList ++ rest) (argument.toList ++ result)
  | kept {letter : Char} {rest result : List Char}
      (plain : ∀ n < arguments.length, ¬ (slot n).toList <+: letter :: rest)
      (onward : Filled arguments rest result) : Filled arguments (letter :: rest) (letter :: result)

section

variable {arguments : List String} {text result : List Char}

/-- There is one way to fill slots at once. -/
theorem Filled.unique {result' : List Char} (filled : Filled arguments text result)
    (filled' : Filled arguments text result') : result = result' := by
  induction filled generalizing result' with
  | done =>
    generalize nothing : ([] : List Char) = text at filled'
    cases filled' with
    | done => rfl
    | slot => exact absurd (List.append_eq_nil_iff.mp nothing.symm).1 (slot_ne_nil _)
    | kept => cases nothing
  | @slot n argument rest result given onward inductionHypothesis =>
    generalize same : (Diagnostic.slot n).toList ++ rest = text at filled'
    cases filled' with
    | done => exact absurd (List.append_eq_nil_iff.mp same).1 (slot_ne_nil n)
    | slot given' onward' =>
      obtain rfl := eq_of_slot_begins ⟨rest, same⟩
      cases given.symm.trans given'
      rw [List.append_cancel_left same] at inductionHypothesis
      rw [inductionHypothesis onward']
    | kept plain =>
      exact absurd ⟨rest, same⟩ (plain n (List.getElem?_eq_some_iff.mp given).1)
  | @kept letter rest result plain onward inductionHypothesis =>
    generalize same : letter :: rest = text at filled'
    cases filled' with
    | done => cases same
    | slot given _ =>
      rw [same] at plain
      exact absurd (List.prefix_append _ _) (plain _ (List.getElem?_eq_some_iff.mp given).1)
    | kept _ onward' =>
      cases same
      rw [inductionHypothesis onward']

/-- Where no slot can begin all is kept. -/
theorem Filled.plain {front : List Char} (plain : '\x7b' ∉ front) (filled : Filled arguments text result) :
    Filled arguments (front ++ text) (front ++ result) := by
  induction front with
  | nil => exact filled
  | cons letter rest inductionHypothesis =>
    rw [List.mem_cons, not_or] at plain
    refine .kept (fun n _ begins => plain.1 ?_) (inductionHypothesis plain.2)
    rw [toList_slot] at begins
    exact (List.cons_prefix_cons.mp begins).1

/-- A slot that there is no argument for is kept. -/
theorem Filled.leave {n : Nat} (beyond : arguments.length ≤ n) (filled : Filled arguments text result) :
    Filled arguments ((Diagnostic.slot n).toList ++ text) ((Diagnostic.slot n).toList ++ result) := by
  have others := opening_not_mem_tail n
  have apart (k : Nat) (given : k < arguments.length) : ¬ (Diagnostic.slot k).toList <+: (Diagnostic.slot n).toList ++ text := by
    intro begins
    have same := eq_of_slot_begins begins
    omega
  rw [toList_slot] at others apart ⊢
  exact .kept apart (filled.plain others)

end

/-- A part of a template: a letter, or the slot of the `n`th argument. -/
inductive Piece where
  | letter (c : Char)
  | opening (n : Nat)

/-- The text of a part, given what stands for the slots. -/
def Piece.spell (shown : Nat → List Char) : Piece → List Char
  | .letter c => [c]
  | .opening n => shown n

def spell (shown : Nat → List Char) (pieces : List Piece) : List Char := pieces.flatMap (Piece.spell shown)

/-- Parts of a template in which braces open slots only, and in which no slot is followed by another one or by a letter
that a slot goes on with. -/
inductive Guarded : List Piece → Prop where
  | nil : Guarded []
  | letter {letter : Char} {rest : List Piece} (plain : letter ≠ '\x7b') (onward : Guarded rest) :
      Guarded (.letter letter :: rest)
  | last (n : Nat) : Guarded [.opening n]
  | opening {n : Nat} {letter : Char} {rest : List Piece} (digitless : letter.isDigit = false) (other : letter ≠ '\x7d')
      (onward : Guarded (.letter letter :: rest)) : Guarded (.opening n :: .letter letter :: rest)

/-- Replacing a slot in a template is replacing it in what stands for the slots. -/
theorem replaceFrom_spell {pieces : List Piece} (guarded : Guarded pieces) (shown : Nat → List Char) (k : Nat)
    (argument : List Char) :
    Text.replaceFrom (slot k).toList argument 0 (spell shown pieces) =
      spell (fun n => Text.replaceFrom (slot k).toList argument 0 (shown n)) pieces := by
  induction guarded with
  | nil => rfl
  | @letter letter rest plain _ inductionHypothesis =>
    have apart : ¬ (slot k).toList <+: letter :: spell shown rest := by
      intro begins
      rw [toList_slot] at begins
      exact plain (List.cons_prefix_cons.mp begins).1.symm
    exact (Text.replaceFrom_cons apart).trans (congrArg (letter :: ·) inductionHypothesis)
  | last n => simp only [spell, List.flatMap_cons, List.flatMap_nil, List.append_nil, Piece.spell]
  | @opening n letter rest digitless other _ inductionHypothesis =>
    have border : ∀ first ∈ (spell shown (.letter letter :: rest)).head?, first ∉ (slot k).toList.tail := by
      intro first found member
      cases found
      rcases mem_tail_slot member with digit | closing
      · exact absurd (digitless.symm.trans digit) Bool.false_ne_true
      · exact other closing
    exact (Text.replaceFrom_append (slot_ne_nil k) border (shown n)).trans
      (congrArg (Text.replaceFrom (slot k).toList argument 0 (shown n) ++ ·) inductionHypothesis)

/-- What becomes of a template as its slots are filled one after the other: each slot becomes what filling makes of it
alone. -/
theorem fillFrom_spell {pieces : List Piece} (guarded : Guarded pieces) (shown : Nat → List Char) (k : Nat)
    (arguments : List String) :
    (fillFrom k (String.ofList (spell shown pieces)) arguments).toList =
      spell (fun n => (fillFrom k (String.ofList (shown n)) arguments).toList) pieces := by
  induction arguments generalizing k shown with
  | nil => simp only [fillFrom, String.toList_ofList]
  | cons argument rest inductionHypothesis =>
    simp only [fillFrom, Text.replace, String.toList_ofList, replaceFrom_spell guarded]
    exact inductionHypothesis _ (k + 1)

/-- Another slot is left alone. -/
theorem replace_slot_ne {k n : Nat} (other : k ≠ n) (argument : String) :
    Text.replace (slot k) argument (slot n) = slot n := by
  have apart : ¬ (slot k).toList <+: (slot n).toList := fun begins =>
    other (eq_of_slot_begins (begins.trans (List.prefix_append _ [])))
  have later : ¬ (slot k).toList <:+: (slot n).toList.tail := by
    intro inside
    refine opening_not_mem_tail n (inside.subset ?_)
    rw [toList_slot k]
    exact List.mem_cons_self
  have parts : (slot n).toList = '\x7b' :: (slot n).toList.tail := by rw [toList_slot, List.tail_cons]
  rw [Text.replace, parts, Text.replaceFrom_cons (parts ▸ apart), Text.replaceFrom_of_absent later, ← parts,
    String.ofList_toList]

theorem replace_slot_self (n : Nat) (argument : String) : Text.replace (slot n) argument (slot n) = argument := by
  have whole : Text.replaceFrom (slot n).toList argument.toList 0 ((slot n).toList ++ []) = argument.toList ++ [] :=
    Text.replaceFrom_occurrence (slot_ne_nil n) []
  rw [List.append_nil, List.append_nil] at whole
  rw [Text.replace, whole, String.ofList_toList]

/-- A slot becomes its argument, with the slots of later arguments filled in it. -/
theorem fillFrom_slot (k i : Nat) (arguments : List String) :
    fillFrom k (slot (k + i)) arguments =
      match arguments[i]? with
      | some argument => fillFrom (k + i + 1) argument (arguments.drop (i + 1))
      | none => slot (k + i) := by
  induction arguments generalizing k i with
  | nil => rfl
  | cons argument rest inductionHypothesis =>
    cases i with
    | zero =>
      rw [Nat.add_zero, fillFrom, replace_slot_self]
      rfl
    | succ i =>
      have shifted : k + (i + 1) = k + 1 + i := by omega
      rw [fillFrom, replace_slot_ne (by omega), shifted, inductionHypothesis]
      rfl

/-- A text without the slots of the arguments is not changed. -/
theorem fillFrom_of_absent {k : Nat} {arguments : List String} {text : String}
    (absent : ∀ n, k ≤ n → n < k + arguments.length → ¬ (slot n).toList <:+: text.toList) :
    fillFrom k text arguments = text := by
  induction arguments generalizing k with
  | nil => rfl
  | cons argument rest inductionHypothesis =>
    rw [List.length_cons] at absent
    have kept : Text.replace (slot k) argument text = text := by
      rw [Text.replace, Text.replaceFrom_of_absent (absent k (Nat.le_refl k) (by omega)), String.ofList_toList]
    rw [fillFrom, kept]
    exact inductionHypothesis fun n later within => absent n (by omega) (by omega)

/-- A text is a template if it is spelled by guarded parts. -/
def IsTemplate (text : String) : Prop :=
  ∃ pieces, Guarded pieces ∧ text.toList = spell (fun n => (slot n).toList) pieces

/-- No argument holds the slot of a later one. -/
def Harmless (arguments : List String) : Prop :=
  ∀ i argument, arguments[i]? = some argument →
    ∀ n, i < n → n < arguments.length → ¬ (slot n).toList <:+: argument.toList

/-- Arguments are harmless if none but the last has an opening brace. -/
theorem Harmless.of_plain {arguments : List String} (plain : ∀ argument ∈ arguments.dropLast, '\x7b' ∉ argument.toList) :
    Harmless arguments := by
  intro i argument given n later within inside
  have before : arguments.dropLast[i]? = some argument := by
    rw [List.getElem?_dropLast, if_pos (by omega), given]
  refine plain argument (List.mem_of_getElem? before) (inside.subset ?_)
  rw [toList_slot]
  exact List.mem_cons_self

/-- Filling the slots of a template one after the other puts in place of each slot its argument, in which the slots of
later arguments are filled, and keeps all else. -/
theorem toList_fill {text : String} {pieces : List Piece} (guarded : Guarded pieces)
    (spelled : text.toList = spell (fun n => (slot n).toList) pieces) (arguments : List String) :
    (fill text arguments).toList =
      spell (fun n => match arguments[n]? with
        | some argument => (fillFrom (n + 1) argument (arguments.drop (n + 1))).toList
        | none => (slot n).toList) pieces := by
  have whole := fillFrom_spell guarded (fun n => (slot n).toList) 0 arguments
  rw [← spelled, String.ofList_toList] at whole
  refine whole.trans (congrArg (spell · pieces) (funext fun n => ?_))
  have one := fillFrom_slot 0 n arguments
  rw [Nat.zero_add] at one
  rw [String.ofList_toList, one]
  cases arguments[n]? <;> rfl

theorem filled_spell {pieces : List Piece} (guarded : Guarded pieces) (arguments : List String) :
    Filled arguments (spell (fun n => (slot n).toList) pieces)
      (spell (fun n => match arguments[n]? with
        | some argument => argument.toList
        | none => (slot n).toList) pieces) := by
  have opened {n : Nat} {text result : List Char} (filled : Filled arguments text result) :
      Filled arguments ((slot n).toList ++ text)
        ((match arguments[n]? with | some argument => argument.toList | none => (slot n).toList) ++ result) := by
    cases given : arguments[n]? with
    | some argument => exact .slot given filled
    | none => exact filled.leave (List.getElem?_eq_none_iff.mp given)
  induction guarded with
  | nil => exact .done
  | @letter c rest plain _ inductionHypothesis =>
    have alone : '\x7b' ∉ [c] := fun member => plain (List.mem_singleton.mp member).symm
    exact inductionHypothesis.plain alone
  | last n => exact opened .done
  | opening _ _ _ inductionHypothesis => exact opened inductionHypothesis

/-- Arguments that do not hold the slots of later ones are filled in as if all at once. -/
theorem IsTemplate.filled {text : String} (isTemplate : IsTemplate text) {arguments : List String}
    (harmless : Harmless arguments) : Filled arguments text.toList (fill text arguments).toList := by
  obtain ⟨pieces, guarded, spelled⟩ := isTemplate
  have settled : (fun n => match arguments[n]? with
      | some argument => (fillFrom (n + 1) argument (arguments.drop (n + 1))).toList
      | none => (slot n).toList) = fun n => match arguments[n]? with
      | some argument => argument.toList
      | none => (slot n).toList := by
    funext n
    cases given : arguments[n]? with
    | none => rfl
    | some argument =>
      have within := (List.getElem?_eq_some_iff.mp given).1
      refine congrArg String.toList (fillFrom_of_absent fun k later inside => harmless n argument given k later ?_)
      rw [List.length_drop] at inside
      omega
  rw [toList_fill guarded spelled, settled, spelled]
  exact filled_spell guarded arguments

theorem guarded_letters {letters : List Char} (plain : '\x7b' ∉ letters) {rest : List Piece} (guarded : Guarded rest) :
    Guarded (letters.map .letter ++ rest) := by
  induction letters with
  | nil => exact guarded
  | cons letter others inductionHypothesis =>
    rw [List.mem_cons, not_or] at plain
    exact .letter (fun same => plain.1 same.symm) (inductionHypothesis plain.2)

theorem spell_letters (shown : Nat → List Char) (letters : List Char) (rest : List Piece) :
    spell shown (letters.map .letter ++ rest) = letters ++ spell shown rest := by
  induction letters with
  | nil => rfl
  | cons letter others inductionHypothesis => exact congrArg (letter :: ·) inductionHypothesis

theorem isTemplate_text {text : String} (plain : '\x7b' ∉ text.toList) : IsTemplate text := by
  refine ⟨text.toList.map .letter ++ [], guarded_letters plain .nil, ?_⟩
  rw [spell_letters]
  exact (List.append_nil _).symm

/-- A text may stand behind a slot if its first letter does not belong to one. -/
def Closing (text : String) : Prop :=
  ∀ letter ∈ text.toList.head?, letter.isDigit = false ∧ letter ≠ '\x7b' ∧ letter ≠ '\x7d'

theorem IsTemplate.behind {front back : String} (n : Nat) (plain : '\x7b' ∉ front.toList) (closing : Closing back)
    (isTemplate : IsTemplate back) : IsTemplate (front ++ slot n ++ back) := by
  obtain ⟨pieces, guarded, spelled⟩ := isTemplate
  refine ⟨front.toList.map .letter ++ .opening n :: pieces, guarded_letters plain ?_, ?_⟩
  · cases pieces with
    | nil => exact .last n
    | cons piece rest =>
      rw [Closing, spelled] at closing
      cases piece with
      | letter c =>
        obtain ⟨digitless, -, other⟩ := closing c rfl
        exact .opening digitless other guarded
      | opening k =>
        rw [spell, List.flatMap_cons, Piece.spell, toList_slot] at closing
        exact absurd rfl (closing _ rfl).2.1
  · rw [spell_letters, String.toList_append, String.toList_append, List.append_assoc, spelled]
    rfl

section

variable {letter : Char} {letters : List Char}

theorem plain_ofList (plain : letters.all (· != '\x7b') = true) : '\x7b' ∉ (String.ofList letters).toList := by
  rw [String.toList_ofList]
  intro member
  exact absurd (List.all_eq_true.mp plain _ member) (by decide)

theorem closing_ofList (closing : (!letter.isDigit && letter != '\x7b' && letter != '\x7d') = true) :
    Closing (String.ofList (letter :: letters)) := by
  simp only [Bool.and_eq_true, Bool.not_eq_true', bne_iff_ne, ne_eq] at closing
  intro first found
  rw [String.toList_ofList] at found
  cases found
  exact ⟨closing.1.1, closing.1.2, closing.2⟩

theorem Closing.append (closing : Closing (String.ofList (letter :: letters))) (more : String) :
    Closing (String.ofList (letter :: letters) ++ more) := by
  rw [Closing, String.toList_ofList] at closing
  rw [Closing, String.toList_append, String.toList_ofList]
  exact closing

theorem IsTemplate.between {front back : String} (n k : Nat) (plain : '\x7b' ∉ front.toList)
    (plain' : '\x7b' ∉ (String.ofList (letter :: letters)).toList) (closing : Closing (String.ofList (letter :: letters)))
    (closing' : Closing back) (isTemplate : IsTemplate back) :
    IsTemplate (front ++ slot n ++ String.ofList (letter :: letters) ++ slot k ++ back) := by
  have inner : IsTemplate (String.ofList (letter :: letters) ++ slot k ++ back) := isTemplate.behind k plain' closing'
  have open' : Closing (String.ofList (letter :: letters) ++ slot k ++ back) := by
    rw [String.append_assoc]
    exact closing.append _
  have whole := inner.behind n plain open'
  rwa [← String.append_assoc, ← String.append_assoc] at whole

end

/-- The catalogue has templates only. -/
theorem Message.isTemplate (message : Message) : IsTemplate message.template := by
  cases message with
  | extensionWithoutBuilder | yieldReturnsValue | yieldInSynchronized | yieldNotStatement | yieldInNestedClass
    | yieldArgumentCount | listenerTypeMissing =>
    unfold Message.template
    dsimp only
    exact isTemplate_text (plain_ofList rfl)
  | invalidValue | finalField | staticField | extensionIncomplete | lockFieldType | requiresMethod | methodsOnly =>
    unfold Message.template
    dsimp only
    exact .between 0 1 (plain_ofList rfl) (plain_ofList rfl) (closing_ofList rfl) (closing_ofList rfl)
      (isTemplate_text (plain_ofList rfl))
  | internalFailure =>
    unfold Message.template
    dsimp only
    rw [← String.append_empty (s := _ ++ slot 1)]
    exact .between 0 1 (plain_ofList rfl) (plain_ofList rfl) (closing_ofList rfl) (fun _ none => nomatch none)
      (isTemplate_text List.not_mem_nil)
  | _ =>
    unfold Message.template
    dsimp only
    exact .behind 0 (plain_ofList rfl) (closing_ofList rfl) (isTemplate_text (plain_ofList rfl))

/-- A message for arguments that do not hold the slots of later ones is its template with all slots filled at once. -/
theorem Message.filled_text (message : Message) {arguments : List String} (harmless : Harmless arguments) :
    Filled arguments message.template.toList (message.text arguments).toList :=
  message.isTemplate.filled harmless

/-- The slot in the first argument is filled with the second. -/
example : Message.lockFieldType.text ["\x7b1\x7d", "Lock"] = "Field 'Lock' must be of type Lock to be used as a lock." := by
  rfl

end Diagnostic

end JavaWeave
