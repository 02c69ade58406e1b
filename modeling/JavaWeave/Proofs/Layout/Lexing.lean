import JavaWeave.Proofs.Layout.Grammar

/-! A text has one cut into tokens, and where tokens stand apart they are cut as they were written: a word ends
before what continues no word, a number before what continues no number, and a symbol before what makes no
longer symbol of it. -/

namespace JavaWeave.Layout.Grammar

open Text

/-- Only the runs of a table that begin below 128 matter to a character below 128. -/
theorem inRuns_take {table : List Run} (count : Nat)
    (high : (table.drop count).all (fun run => 128 ≤ run.first) = true) {c : Char} (small : c.toNat < 128) :
    inRuns table c = inRuns (table.take count) c := by
  have none : (table.drop count).any (·.has c.toNat) = false := by
    rw [List.any_eq_false]
    intro run member
    have := List.all_eq_true.1 high run member
    simp only [decide_eq_true_eq] at this
    simp only [Run.has, Bool.and_eq_true, decide_eq_true_eq, not_and]
    omega
  conv => lhs; rw [← List.take_append_drop count table]
  simp only [inRuns, List.any_append, none, Bool.or_false]

theorem startsWord_of_small {c : Char} (small : c.toNat < 128) :
    startsWord c = (c == '$' || c == '_' || inRuns [⟨0x41, 0x5A, 1⟩, ⟨0x61, 0x7A, 1⟩] c) := by
  rw [startsWord, startsIdentifier, inRuns_take 2 (by decide +kernel) small]
  rfl

theorem continuesWord_of_small {c : Char} (small : c.toNat < 128) :
    continuesWord c = (c == '$'
      || inRuns [⟨0x30, 0x39, 1⟩, ⟨0x41, 0x5A, 1⟩, ⟨0x5F, 0x5F, 1⟩, ⟨0x61, 0x7A, 1⟩] c) := by
  rw [continuesWord, continuesIdentifier, inRuns_take 4 (by decide +kernel) small]
  rfl

theorem startsWord_digit {c : Char} (digit : c.isDigit = true) : startsWord c = false := by
  have bounds : 48 ≤ c.toNat ∧ c.toNat ≤ 57 := Char.isDigit_iff_toNat.1 digit
  have dollar : c ≠ '$' := by rintro rfl; simp at bounds
  have bar : c ≠ '_' := by rintro rfl; simp at bounds
  rw [startsWord_of_small (by omega)]
  simp [dollar, bar, inRuns, Run.has]
  omega

theorem continuesWord_digit {c : Char} (digit : c.isDigit = true) : continuesWord c = true := by
  have bounds : 48 ≤ c.toNat ∧ c.toNat ≤ 57 := Char.isDigit_iff_toNat.1 digit
  rw [continuesWord_of_small (by omega)]
  simp [inRuns, Run.has]
  omega

theorem startsWord_blank {c : Char} (blank : isBlank c = true) :
    startsWord c = false ∧ c.isDigit = false ∧ c ≠ '.' := by
  simp only [isBlank, List.contains_iff_mem, List.mem_cons, List.not_mem_nil, or_false] at blank
  obtain rfl | rfl | rfl | rfl | rfl := blank <;>
    exact ⟨(startsWord_of_small (by decide)).trans (by decide), by decide, by decide⟩

/-- The characters of symbols are no letters, digits or blanks. -/
theorem symbols_apart {s : String} (member : s ∈ symbols) {c : Char} (inside : c ∈ s.toList) :
    startsWord c = false ∧ c.isDigit = false ∧ isBlank c = false := by
  have all : (symbols.flatMap String.toList).all (fun c => c.toNat < 128
      && !(c == '$' || c == '_' || inRuns [⟨0x41, 0x5A, 1⟩, ⟨0x61, 0x7A, 1⟩] c)
      && !c.isDigit && !isBlank c) = true := by decide
  have each := List.all_eq_true.mp all c (List.mem_flatMap_of_mem member inside)
  simp only [Bool.and_eq_true, decide_eq_true_eq, Bool.not_eq_true'] at each
  obtain ⟨⟨⟨small, letter⟩, rest⟩, blank⟩ := each
  exact ⟨(startsWord_of_small small).trans letter, rest, blank⟩

/-- A text that is a token is a symbol, a word or a number. -/
theorem lexeme_isSome {text : List Char} (found : (lexeme text).isSome) :
    String.ofList text ∈ symbols ∨ isWord text = true ∨ isNumber text = true := by
  unfold lexeme at found
  grind

theorem isNumber_cons {c : Char} {rest : List Char} (number : isNumber (c :: rest) = true) :
    c.isDigit = true ∨ c = '.' ∧ ∃ d more, rest = d :: more ∧ d.isDigit = true := by
  cases rest with
  | nil => exact .inl number
  | cons d more => simp only [isNumber] at number; grind

/-- All behind the first character of a number continues it. -/
theorem isNumber_tail {c : Char} {rest : List Char} (number : isNumber (c :: rest) = true) :
    ∀ d ∈ rest, continuesNumber d = true := by
  cases rest with
  | nil => simp
  | cons d more =>
    simp only [isNumber, Bool.or_eq_true, Bool.and_eq_true, List.all_eq_true] at number
    obtain ⟨-, all⟩ | ⟨⟨-, digit⟩, all⟩ := number
    · exact all
    · intro x member
      obtain rfl | member := List.mem_cons.1 member
      · simp [continuesNumber, continuesWord_digit digit]
      · exact all x member

theorem lexeme_blank {c : Char} (blank : isBlank c = true) (rest : List Char) :
    lexeme (c :: rest) = none := by
  rw [← Option.not_isSome_iff_eq_none]
  intro found
  obtain ⟨word, digit, point⟩ := startsWord_blank blank
  obtain member | isWord | number := lexeme_isSome found
  · have := (symbols_apart member (c := c) (by simp)).2.2
    simp [blank] at this
  · simp [Grammar.isWord, word] at isWord
  · obtain h | h := isNumber_cons number <;> simp_all

theorem lexeme_nil : lexeme [] = none := by decide

theorem Lexed.first {text : List Char} {ts : List Token} (lexed : Lexed text ts) :
    (text = [] ∧ ts = [])
      ∨ (∃ c rest, text = c :: rest ∧ isBlank c = true ∧ Lexed rest ts)
      ∨ ∃ start rest t others, text = start ++ rest ∧ ts = t :: others ∧ lexeme start = some t
        ∧ (∀ other, other <+: start ++ rest → (lexeme other).isSome → other.length ≤ start.length)
        ∧ Lexed rest others := by
  cases lexed with
  | nil => exact .inl ⟨rfl, rfl⟩
  | blank blank behind => exact .inr (.inl ⟨_, _, rfl, blank, behind⟩)
  | token found longest behind => exact .inr (.inr ⟨_, _, _, _, rfl, rfl, found, longest, behind⟩)

/-- No token begins with a blank. -/
theorem lexeme_ne_blank {start rest more : List Char} {t : Token} {c : Char} (found : lexeme start = some t)
    (same : start ++ rest = c :: more) : isBlank c = false := by
  cases start with
  | nil => simp [lexeme_nil] at found
  | cons d others =>
    obtain ⟨rfl, -⟩ := List.cons.inj same
    rw [← Bool.not_eq_true]
    intro blank
    simp [lexeme_blank blank] at found

/-- A text is cut into tokens in one way. -/
theorem Lexed.unique {text : List Char} {ts us : List Token} (first : Lexed text ts) (second : Lexed text us) :
    ts = us := by
  induction first generalizing us with
  | nil =>
    obtain ⟨-, rfl⟩ | ⟨_, _, same, -⟩ | ⟨start, rest, t, others, same, rfl, found, -⟩ := second.first
    · rfl
    · simp at same
    · obtain ⟨rfl, -⟩ := List.append_eq_nil_iff.1 same.symm
      simp [lexeme_nil] at found
  | blank blank _ ih =>
    obtain ⟨same, -⟩ | ⟨c, rest, same, -, behind⟩ | ⟨start, rest, t, others, same, -, found, -⟩ := second.first
    · simp at same
    · obtain ⟨rfl, rfl⟩ := List.cons.inj same
      exact ih behind
    · simp [lexeme_ne_blank found same.symm] at blank
  | @token start rest t others found longest _ ih =>
    obtain ⟨same, -⟩ | ⟨c, more, same, blank, -⟩ | ⟨start', rest', t', others', same, rfl, found', longest', behind⟩ :=
      second.first
    · obtain ⟨rfl, -⟩ := List.append_eq_nil_iff.1 same
      simp [lexeme_nil] at found
    · simp [lexeme_ne_blank found same] at blank
    · have le : start.length ≤ start'.length :=
        longest' start (same ▸ List.prefix_append _ _) (by simp [found])
      have ge : start'.length ≤ start.length :=
        longest start' (same ▸ List.prefix_append _ _) (by simp [found'])
      obtain ⟨rfl, rfl⟩ := List.append_inj same (by omega)
      rw [Option.some.inj (found.symm.trans found'), ih behind]

/-- No token begins with the text and goes on with the character. -/
def Ends (start : List Char) (c : Char) : Prop := ∀ more, lexeme (start ++ c :: more) = none

theorem longest_of_ends {start rest : List Char} (ends : ∀ c ∈ rest.head?, Ends start c) {other : List Char}
    (leads : other <+: start ++ rest) (found : (lexeme other).isSome) : other.length ≤ start.length := by
  refine Nat.le_of_not_lt fun longer => ?_
  obtain ⟨more, rfl⟩ := List.prefix_of_prefix_length_le (List.prefix_append start rest) leads (by omega)
  obtain ⟨behind, rfl⟩ := (List.prefix_append_right_inj start).1 leads
  cases more with
  | nil => simp at longer
  | cons c more => simp [ends c rfl more] at found

theorem ends_of_isSome {start : List Char} {c : Char}
    (apart : ∀ more, String.ofList (start ++ c :: more) ∉ symbols ∧ isWord (start ++ c :: more) = false
      ∧ isNumber (start ++ c :: more) = false) : Ends start c := by
  intro more
  rw [← Option.not_isSome_iff_eq_none]
  intro found
  have := apart more
  obtain member | word | number := lexeme_isSome found <;> simp_all

/-- A word is no symbol and no number. -/
theorem word_apart {first : Char} (starts : startsWord first = true) (rest : List Char) :
    String.ofList (first :: rest) ∉ symbols ∧ isNumber (first :: rest) = false := by
  constructor
  · intro member
    have := (symbols_apart member (c := first) (by simp)).1
    simp [starts] at this
  · rw [← Bool.not_eq_true]
    intro number
    obtain digit | ⟨rfl, -⟩ := isNumber_cons number
    · simp [startsWord_digit digit] at starts
    · simp [(symbols_apart (s := ".") (c := '.') (by decide) (by decide)).1] at starts

theorem word_ends {start : List Char} (word : isWord start = true) {c : Char} (other : continuesWord c = false) :
    Ends start c := by
  refine ends_of_isSome fun more => ?_
  cases start with
  | nil => simp [isWord] at word
  | cons first rest =>
    simp only [isWord, Bool.and_eq_true] at word
    refine ⟨(word_apart word.1 _).1, ?_, (word_apart word.1 _).2⟩
    simp [isWord, other]

theorem number_apart {first : Char} (digit : first.isDigit = true) (rest : List Char) :
    String.ofList (first :: rest) ∉ symbols ∧ isWord (first :: rest) = false := by
  constructor
  · intro member
    have := (symbols_apart member (c := first) (by simp)).2.1
    simp [digit] at this
  · simp [isWord, startsWord_digit digit]

theorem number_ends {first : Char} (digit : first.isDigit = true) (rest : List Char) {c : Char}
    (other : continuesNumber c = false) : Ends (first :: rest) c := by
  refine ends_of_isSome fun more => ?_
  refine ⟨(number_apart digit _).1, (number_apart digit _).2, ?_⟩
  rw [← Bool.not_eq_true]
  intro number
  have := isNumber_tail number c (by simp)
  simp [other] at this

/-- Whether a character right behind a symbol makes another token of it. -/
def joins (s : String) (c : Char) : Bool :=
  symbols.any (fun t => (s.toList ++ [c]).isPrefixOf t.toList) || (s == "." && c.isDigit)

theorem symbol_ends {s : String} (member : s ∈ symbols) {c : Char} (apart : joins s c = false) :
    Ends s.toList c := by
  simp only [joins, Bool.or_eq_false_iff, List.any_eq_false] at apart
  obtain ⟨longer, point⟩ := apart
  obtain ⟨first, rest, shape⟩ : ∃ first rest, s.toList = first :: rest := by
    have filled : ∀ s ∈ symbols, s.toList ≠ [] := by decide
    exact List.exists_cons_of_ne_nil (filled s member)
  refine ends_of_isSome fun more => ⟨fun member' => ?_, ?_, ?_⟩
  · refine longer _ member' (List.isPrefixOf_iff_prefix.2 ?_)
    simp [List.prefix_append_right_inj]
  · simp [shape, isWord, (symbols_apart member (c := first) (by simp [shape])).1]
  · rw [← Bool.not_eq_true, shape, List.cons_append]
    intro number
    obtain digit | ⟨rfl, d, others, same, digit⟩ := isNumber_cons number
    · simp [(symbols_apart member (c := first) (by simp [shape])).2.1] at digit
    · cases rest with
      | nil =>
        obtain ⟨rfl, -⟩ := List.cons.inj same
        have only : s = "." := String.toList_inj.1 shape
        simp [only, digit] at point
      | cons e rest =>
        obtain ⟨rfl, -⟩ := List.cons.inj same
        simp [(symbols_apart member (c := e) (by simp [shape])).2.1] at digit

/-- A parenthesis runs into nothing. -/
theorem joins_parenthesis {s : String} (filled : s.toList ≠ []) : joins s '(' = false := by
  have alone : ∀ t ∈ symbols, '(' ∉ t.toList.tail := by decide
  have digit : ('(').isDigit = false := by decide
  obtain ⟨first, rest, shape⟩ := List.exists_cons_of_ne_nil filled
  simp only [joins, digit, Bool.and_false, Bool.or_false, List.any_eq_false]
  intro t member leads
  obtain ⟨more, same⟩ := List.isPrefixOf_iff_prefix.1 leads
  exact alone t member (by simp [← same, shape])

/-- Letters never run into the symbol before them. -/
theorem joins_of_startsWord (s : String) {c : Char} (starts : startsWord c = true) : joins s c = false := by
  have digit : c.isDigit = false := by
    rw [← Bool.not_eq_true]
    intro digit
    simp [startsWord_digit digit] at starts
  simp only [joins, digit, Bool.and_false, Bool.or_false, List.any_eq_false]
  intro t member leads
  have inside : c ∈ t.toList := (List.isPrefixOf_iff_prefix.1 leads).subset (by simp)
  simp [(symbols_apart member inside).1] at starts

/-- Digits run into a point only. -/
theorem joins_of_isDigit {s : String} (other : s ≠ ".") {c : Char} (digit : c.isDigit = true) :
    joins s c = false := by
  have : (s == ".") = false := by simpa using other
  simp only [joins, this, Bool.false_and, Bool.or_false, List.any_eq_false]
  intro t member leads
  have inside : c ∈ t.toList := (List.isPrefixOf_iff_prefix.1 leads).subset (by simp)
  simp [(symbols_apart member inside).2.1] at digit

/-- Blanks run into nothing. -/
theorem joins_blank (s : String) : joins s ' ' = false := by
  have digit : (' ').isDigit = false := by decide
  simp only [joins, digit, Bool.and_false, Bool.or_false, List.any_eq_false]
  intro t member leads
  have inside : ' ' ∈ t.toList := (List.isPrefixOf_iff_prefix.1 leads).subset (by simp)
  exact absurd (symbols_apart member inside).2.2 (by decide)

/-- Symbols that no longer symbol begins with. -/
theorem joins_of_final {s : String} (other : s ≠ ".")
    (final : ∀ t ∈ symbols, s.toList.isPrefixOf t.toList = true → t.toList.length ≤ s.toList.length) (c : Char) :
    joins s c = false := by
  have apart : (s == ".") = false := by simpa using other
  simp only [joins, apart, Bool.false_and, Bool.or_false, List.any_eq_false]
  intro t member leads
  have longer := List.isPrefixOf_iff_prefix.1 leads
  have short := final t member (List.isPrefixOf_iff_prefix.2 ((List.prefix_append _ _).trans longer))
  have := longer.length_le
  simp only [List.length_append, List.length_singleton] at this
  omega

/-- The text is cut into the tokens wherever a character of the given kind, or nothing, comes behind it. -/
def Scans (next : Char → Prop) (text : String) (ts : List Token) : Prop :=
  ∀ rest tokens, (∀ c ∈ rest.head?, next c) → Lexed rest tokens → Lexed (text.toList ++ rest) (ts ++ tokens)

namespace Scans

variable {next after : Char → Prop} {x y : String} {ts us : List Token}

theorem lexed (scans : Scans next x ts) : Lexed x.toList ts := by
  simpa using scans [] [] (by simp) .nil

theorem mono (scans : Scans next x ts) (le : ∀ c, after c → next c) : Scans after x ts :=
  fun rest tokens first => scans rest tokens fun c member => le c (first c member)

theorem append (first : Scans next x ts) (second : Scans after y us)
    (meets : ∃ c rest, y.toList = c :: rest ∧ next c) : Scans after (x ++ y) (ts ++ us) := by
  intro rest tokens allowed lexed
  obtain ⟨c, others, shape, joined⟩ := meets
  rw [String.toList_append, List.append_assoc, List.append_assoc]
  refine first _ _ ?_ (second rest tokens allowed lexed)
  intro d member
  obtain rfl : c = d := by simpa [shape] using member
  exact joined

theorem blank (first : Scans next x ts) (space : next ' ') : Scans (fun _ => True) (x ++ " ") ts := by
  have spaces : Scans (fun _ => True) " " [] := fun rest tokens _ lexed => .blank (by decide) lexed
  simpa using first.append spaces ⟨' ', [], rfl, space⟩

/-- Two texts with a token between them, which stands between blanks. -/
theorem spaced {s : String} {t : Token} {between : Char → Prop} (left : Scans next x ts) (space : next ' ')
    (middle : Scans between s [t]) (filled : s.toList ≠ []) (gap : between ' ') (right : Scans after y us)
    (more : ∃ c rest, y.toList = c :: rest) : Scans after (x ++ " " ++ s ++ " " ++ y) (ts ++ t :: us) := by
  obtain ⟨first, rest, shape⟩ := List.exists_cons_of_ne_nil filled
  obtain ⟨c, others, shape'⟩ := more
  have marked := (left.blank space).append middle ⟨first, rest, shape, trivial⟩
  have whole := (marked.blank gap).append right ⟨c, others, shape', trivial⟩
  rwa [List.append_assoc, List.singleton_append] at whole

end Scans

theorem scans_of_lexeme {x : String} {t : Token} (found : lexeme x.toList = some t) {next : Char → Prop}
    (ends : ∀ c, next c → Ends x.toList c) : Scans next x [t] := by
  intro rest tokens allowed lexed
  exact .token found (fun _ => longest_of_ends fun c member => ends c (allowed c member)) lexed

theorem scans_symbol {s : String} (member : s ∈ symbols) :
    Scans (fun c => joins s c = false) s [.symbol s] :=
  scans_of_lexeme (by simp [lexeme, member]) fun _ apart => symbol_ends member apart

theorem lexeme_word {x : String} (word : isWord x.toList = true) :
    lexeme x.toList = some (if Names.isKeyword x then .keyword x else .word x) := by
  have other : x ∉ symbols := by
    cases shape : x.toList with
    | nil => simp [shape, isWord] at word
    | cons first rest =>
      rw [shape, isWord, Bool.and_eq_true] at word
      simpa [← shape] using (word_apart word.1 rest).1
  simp only [lexeme, String.ofList_toList, List.contains_iff_mem, other, word, if_true, if_false]
  split <;> rfl

theorem isIdentifier_word {x : String} (identifier : Names.isIdentifier x = true) :
    isWord x.toList = true ∧ Names.isKeyword x = false := by
  unfold Names.isIdentifier at identifier
  cases shape : x.toList <;>
    simp_all [isWord, startsWord, continuesWord]

theorem scans_word {x : String} (identifier : Names.isIdentifier x = true) :
    Scans (fun c => continuesWord c = false) x [.word x] := by
  obtain ⟨word, free⟩ := isIdentifier_word identifier
  exact scans_of_lexeme (by simp [lexeme_word word, free]) fun c other => word_ends word other

theorem scans_keyword {x : String} (word : isWord x.toList = true) (reserved : Names.isKeyword x = true) :
    Scans (fun c => continuesWord c = false) x [.keyword x] :=
  scans_of_lexeme (by simp [lexeme_word word, reserved]) fun c other => word_ends word other

/-- A number that is not zero is written without a zero in front. -/
theorem head_toDigits {n : Nat} (pos : 0 < n) : (Nat.toDigits 10 n).head? ≠ some '0' := by
  induction n using Nat.strongRecOn with
  | ind n ih =>
    by_cases small : n < 10
    · rw [Nat.toDigits_of_lt_base small]
      have all : ∀ m < 10, 0 < m → [m.digitChar].head? ≠ some '0' := by decide
      exact all n small pos
    · rw [Nat.toDigits_of_base_le (by decide) (by omega), List.head?_append]
      have quotient := ih (n / 10) (by omega) (by omega)
      cases first : (Nat.toDigits 10 (n / 10)).head? with
      | none => simp [Nat.toDigits_ne_nil] at first
      | some c => simpa [first] using quotient

theorem numeral_toDigits (n : Nat) : numeral (Nat.toDigits 10 n) = some n := by
  have all : (Nat.toDigits 10 n).all Char.isDigit = true := by
    rw [List.all_eq_true]
    exact fun c member => Nat.isDigit_of_mem_toDigits (by decide) (by decide) member
  have plain : ((Nat.toDigits 10 n).head? != some '0' || (Nat.toDigits 10 n).length == 1) = true := by
    cases n with
    | zero => decide
    | succ n => simp [head_toDigits (Nat.succ_pos n)]
  rw [numeral, all, plain, Bool.and_true, if_pos rfl, Nat.ofDigitChars_toDigits (by decide) (by decide)]

theorem exists_digit (n : Nat) : ∃ c rest, (toString n).toList = c :: rest ∧ c.isDigit = true := by
  obtain ⟨c, rest, shape⟩ := List.exists_cons_of_ne_nil (Nat.toDigits_ne_nil (n := n) (b := 10))
  exact ⟨c, rest, by simpa using shape,
    Nat.isDigit_of_mem_toDigits (b := 10) (n := n) (by decide) (by decide) (by simp [shape])⟩

theorem scans_numeral (n : Nat) :
    Scans (fun c => continuesNumber c = false) (toString n) [.integer n] := by
  obtain ⟨first, rest, shape⟩ := List.exists_cons_of_ne_nil (Nat.toDigits_ne_nil (n := n) (b := 10))
  have digits : (toString n).toList = first :: rest := by simpa using shape
  have all : ∀ c ∈ first :: rest, c.isDigit = true :=
    shape ▸ fun c member => Nat.isDigit_of_mem_toDigits (by decide) (by decide) member
  have digit := all first (by simp)
  have value : numeral (first :: rest) = some n := shape ▸ numeral_toDigits n
  have number : isNumber (first :: rest) = true := by
    cases rest with
    | nil => exact digit
    | cons second rest =>
      simp only [isNumber, digit, Bool.true_and, Bool.or_eq_true, List.all_eq_true]
      refine .inl fun c member => ?_
      simp [continuesNumber, continuesWord_digit (all c (List.mem_cons_of_mem _ member))]
  refine scans_of_lexeme ?_ fun c other => digits ▸ number_ends digit rest other
  have apart := number_apart digit rest
  rw [digits, lexeme, if_neg (by simpa using apart.1), if_neg (by simp [apart.2]), if_pos number, value]

/-- The name of a primitive type or a class. -/
def IsName (t : String) : Prop := Names.isIdentifier t = true ∨ t ∈ Syntax.JavaType.primitives

def nameToken (t : String) : Token := if Names.isKeyword t then .keyword t else .word t

theorem primitive_word : ∀ t ∈ Syntax.JavaType.primitives, isWord t.toList = true ∧ Names.isKeyword t = true := by decide

theorem nameToken_identifier {t : String} (identifier : Names.isIdentifier t = true) : nameToken t = .word t := by
  simp [nameToken, (isIdentifier_word identifier).2]

theorem nameToken_primitive {t : String} (primitive : t ∈ Syntax.JavaType.primitives) : nameToken t = .keyword t := by
  simp [nameToken, (primitive_word t primitive).2]

theorem scans_name {t : String} (name : IsName t) : Scans (fun c => continuesWord c = false) t [nameToken t] := by
  obtain identifier | primitive := name
  · rw [nameToken_identifier identifier]
    exact scans_word identifier
  · obtain ⟨letters, reserved⟩ := primitive_word t primitive
    rw [nameToken_primitive primitive]
    exact scans_keyword letters reserved

/-- The text is cut into the tokens whatever comes behind it. -/
abbrev Cut (text : String) (ts : List Token) : Prop := Scans (fun _ => True) text ts

theorem Cut.before {x y : String} {ts us : List Token} {next : Char → Prop} (first : Cut x ts)
    (second : Scans next y us) : Scans next (x ++ y) (ts ++ us) := by
  intro rest tokens allowed lexed
  rw [String.toList_append, List.append_assoc, List.append_assoc]
  exact first _ _ (fun _ _ => trivial) (second rest tokens allowed lexed)

theorem Cut.append {x y : String} {ts us : List Token} (first : Cut x ts) (second : Cut y us) :
    Cut (x ++ y) (ts ++ us) := first.before second

/-- Blanks are no tokens. -/
theorem cut_blanks {gap : String} (blank : ∀ c ∈ gap.toList, isBlank c = true) : Cut gap [] := by
  intro rest tokens _ lexed
  rw [List.nil_append]
  generalize gap.toList = cs at blank
  induction cs with
  | nil => exact lexed
  | cons c cs ih =>
    exact .blank (blank c List.mem_cons_self) (ih fun d member => blank d (List.mem_cons_of_mem _ member))

/-- Symbols that no longer one begins with. -/
theorem cut_symbol {s : String} (member : s ∈ ["(", ")", "[", "]", ",", ";", "\x7b", "\x7d"]) : Cut s [.symbol s] := by
  have all : ∀ s ∈ ["(", ")", "[", "]", ",", ";", "\x7b", "\x7d"], s ∈ symbols ∧ s ≠ "." ∧ ∀ t ∈ symbols,
      s.toList.isPrefixOf t.toList = true → t.toList.length ≤ s.toList.length := by decide
  obtain ⟨known, other, final⟩ := all s member
  exact (scans_symbol known).mono fun c _ => joins_of_final other final c

theorem cut_identifier {x : String} (identifier : Names.isIdentifier x = true) : Cut (x ++ " ") [.word x] :=
  (scans_word identifier).blank ((continuesWord_of_small (by decide)).trans (by decide))

/-- What separates a reserved word from what comes behind it. -/
structure Gap (gap : String) : Prop where
  blank : ∀ c ∈ gap.toList, isBlank c = true
  filled : ∃ c rest, gap.toList = c :: rest

theorem gap_blank : Gap " " := ⟨List.all_eq_true.1 (by decide), ' ', [], rfl⟩

theorem cut_blank : Cut " " [] := cut_blanks gap_blank.blank

theorem cut_nothing : Cut "" [] := cut_blanks nofun

/-- A reserved word and a gap. -/
theorem cut_word (word : String) {gap : String} (letters : isWord word.toList = true)
    (reserved : Names.isKeyword word = true) (separates : Gap gap) : Cut (word ++ gap) [.keyword word] := by
  obtain ⟨c, rest, shape⟩ := separates.filled
  have blank := separates.blank c (by simp [shape])
  have free : ∀ c ∈ [' ', '\t', '\n', '\r', '\x0c'], continuesWord c = false := by
    simp only [List.forall_mem_cons]
    refine ⟨?_, ?_, ?_, ?_, ?_, nofun⟩ <;> exact (continuesWord_of_small (by decide)).trans (by decide)
  have apart := free c (by simpa [isBlank] using blank)
  exact (scans_keyword letters reserved).append (cut_blanks separates.blank) ⟨c, rest, shape, apart⟩

end JavaWeave.Layout.Grammar
