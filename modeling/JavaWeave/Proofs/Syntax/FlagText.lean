import JavaWeave.Proofs.Text.Pieces
import JavaWeave.Syntax.Decode
import JavaWeave.Syntax.Encode
import Mathlib.Data.List.TakeWhile
import Mathlib.Data.Nat.Bitwise

namespace JavaWeave.Text

/-- A text of which neither a bar nor white space is a part. -/
def IsWord (s : String) : Prop := s.toList ≠ [] ∧ ∀ c ∈ s.toList, c ≠ '|' ∧ isBlank c = false

instance (s : String) : Decidable (IsWord s) :=
  @instDecidableAnd _ _ inferInstance (List.decidableBAll _ s.toList)

private theorem dropWhile_blank {front rest : List Char} (blank : ∀ c ∈ front, isBlank c)
    (stop : ∀ c ∈ rest.head?, isBlank c = false) : (front ++ rest).dropWhile isBlank = rest := by
  rw [List.dropWhile_append_of_pos blank]
  cases rest with
  | nil => rfl
  | cons c _ => simp [stop c rfl]

/-- White space around a word is stripped. -/
theorem strip_padded {s : String} (word : IsWord s) (front back : List Char)
    (blankFront : ∀ c ∈ front, isBlank c) (blankBack : ∀ c ∈ back, isBlank c) :
    strip (String.ofList (front ++ (s.toList ++ back))) = s := by
  obtain ⟨nonempty, bare⟩ := word
  have starts : ∀ c ∈ (s.toList ++ back).head?, isBlank c = false := by
    intro c first
    rw [List.head?_append, Option.or_of_isSome (by simpa using nonempty)] at first
    exact (bare c (List.mem_of_mem_head? first)).2
  have ends : ∀ c ∈ s.toList.reverse.head?, isBlank c = false := fun c last =>
    (bare c (List.mem_reverse.mp (List.mem_of_mem_head? last))).2
  rw [strip, String.toList_ofList, dropWhile_blank blankFront starts, List.reverse_append,
    dropWhile_blank (fun c member => blankBack c (List.mem_reverse.mp member)) ends,
    List.reverse_reverse, String.ofList_toList]

/-- A text of white space alone is the only one of which nothing is left. -/
theorem isBlank_of_strip_isEmpty {s : String} (empty : (strip s).isEmpty) : ∀ c ∈ s.toList, isBlank c := by
  have nothing : (s.toList.dropWhile isBlank).reverse.dropWhile isBlank = [] := by
    simpa [strip, String.isEmpty_iff] using empty
  have blank : ∀ c ∈ s.toList.dropWhile isBlank, isBlank c := by
    simpa using List.dropWhile_eq_nil_iff.mp nothing
  cases left : s.toList.dropWhile isBlank with
  | nil => exact List.dropWhile_eq_nil_iff.mp left
  | cons c rest =>
    have first := List.head?_dropWhile_not isBlank s.toList
    rw [left] at first blank
    simp [blank c] at first

theorem strip_pieces_blank (rest : List Char) :
    (pieces '|' (' ' :: rest)).map (fun piece => strip (String.ofList piece)) =
      (pieces '|' rest).map fun piece => strip (String.ofList piece) := by
  have blank : isBlank ' ' = true := by decide
  simp only [pieces, show ' ' ≠ '|' by decide, if_false]
  cases found : pieces '|' rest with
  | nil => exact absurd found (pieces_ne_nil '|' rest)
  | cons head tail => simp [strip, blank]

/-- Words with bars between them are split into the same words. -/
theorem split_bars : ∀ {words : List String}, words ≠ [] → (∀ word ∈ words, IsWord word) →
    (split '|' (" | ".intercalate words)).map strip = words
  | [], nonempty, _ => absurd rfl nonempty
  | [word], _, all => by
    have isWord := all word List.mem_cons_self
    have unbarred : '|' ∉ word.toList := fun member => (isWord.2 _ member).1 rfl
    have kept := strip_padded isWord [] [] (by simp) (by simp)
    simpa [split, pieces_of_not_mem unbarred] using kept
  | word :: next :: rest, _, all => by
    have isWord := all word List.mem_cons_self
    have rests := split_bars (by simp)
      fun other member => all other (List.mem_cons_of_mem _ member)
    have unbarred : '|' ∉ word.toList ++ [' '] := by
      simpa using fun member => (isWord.2 _ member).1 rfl
    have text : (" | ".intercalate (word :: next :: rest)).toList =
        (word.toList ++ [' ']) ++ '|' :: ' ' :: (" | ".intercalate (next :: rest)).toList := by
      simp [String.intercalate_cons_cons]
    have kept := strip_padded isWord [] [' '] (by simp)
      (List.forall_mem_singleton.mpr (by decide))
    rw [split, List.map_map] at rests ⊢
    rw [text, pieces_append _ unbarred, List.map_cons]
    refine congrArg₂ (· :: ·) kept (.trans ?_ rests)
    exact strip_pieces_blank _

end JavaWeave.Text

namespace JavaWeave.Syntax

open Text

namespace Decode

/-- The bits that a list of parts names together. -/
def joined (parts : List (String × Nat)) : Nat := parts.foldl (fun bits part => bits ||| part.2) 0

private theorem foldlM_flag {names : List (String × Nat)} {bound : Nat} :
    ∀ (parts : List (String × Nat)) (bits : Nat), (∀ part ∈ parts, flag names bound part.1 = some part.2) →
      (parts.map (·.1)).foldlM (fun bits word => (flag names bound word).map (bits ||| ·)) bits =
        some (parts.foldl (fun bits part => bits ||| part.2) bits)
  | [], _, _ => rfl
  | part :: rest, bits, read => by
    simp only [List.map_cons, List.foldlM_cons, read part List.mem_cons_self, Option.map_some]
    exact foldlM_flag rest _ fun other member => read other (List.mem_cons_of_mem _ member)

theorem flags_words {names : List (String × Nat)} {bound : Nat} {parts : List (String × Nat)}
    (words : ∀ part ∈ parts, IsWord part.1) (read : ∀ part ∈ parts, flag names bound part.1 = some part.2) :
    flags names bound (.str (" | ".intercalate (parts.map (·.1)))) = some (joined parts) := by
  cases parts with
  | nil => rfl
  | cons part rest =>
    have split : (split '|' (" | ".intercalate ((part :: rest).map (·.1)))).map strip = (part :: rest).map (·.1) :=
      split_bars (by simp) (by simpa using words)
    have solid : ¬ (strip (" | ".intercalate ((part :: rest).map (·.1)))).isEmpty := by
      intro empty
      obtain ⟨nonempty, bare⟩ := words part List.mem_cons_self
      obtain ⟨c, member⟩ := List.exists_mem_of_ne_nil _ nonempty
      have inside : c ∈ (" | ".intercalate ((part :: rest).map (·.1))).toList := by
        cases rest <;> simp [String.intercalate_cons_cons, member]
      simpa [(bare c member).2] using isBlank_of_strip_isEmpty empty c inside
    calc flags names bound (.str (" | ".intercalate ((part :: rest).map (·.1))))
        = ((Text.split '|' (" | ".intercalate ((part :: rest).map (·.1)))).map strip).foldlM
            (fun bits word => (flag names bound word).map (bits ||| ·)) 0 := by
          rw [flags, if_neg solid, List.foldlM_map]
      _ = some (joined (part :: rest)) := by rw [split, foldlM_flag _ 0 read, joined]

theorem hexDigit?_digitChar : ∀ d < 16, hexDigit? d.digitChar = some d := by decide

theorem foldlM_hexDigit? (n : Nat) :
    (Nat.toDigits 16 n).foldlM (fun n c => (hexDigit? c).map (n * 16 + ·)) 0 = some n := by
  induction n using Nat.strongRecOn with
  | ind n inductionHypothesis =>
    by_cases small : n < 16
    · simp [Nat.toDigits_of_lt_base small, hexDigit?_digitChar n small]
    · rw [Nat.toDigits_of_base_le (by decide) (by omega), List.foldlM_append,
        inductionHypothesis (n / 16) (by omega)]
      simp [hexDigit?_digitChar (n % 16) (by omega)]
      omega

theorem mem_toDigits {c : Char} (n : Nat) (member : c ∈ Nat.toDigits 16 n) : ∃ d < 16, c = d.digitChar := by
  induction n using Nat.strongRecOn with
  | ind n inductionHypothesis =>
    by_cases small : n < 16
    · rw [Nat.toDigits_of_lt_base small, List.mem_singleton] at member
      exact ⟨n, small, member⟩
    · rw [Nat.toDigits_of_base_le (by decide) (by omega), List.mem_append, List.mem_singleton] at member
      obtain front | last := member
      · exact inductionHypothesis (n / 16) (by omega) front
      · exact ⟨n % 16, by omega, last⟩

theorem hex?_toDigits {n bound : Nat} (fits : n < bound) : hex? bound (Nat.toDigits 16 n) = some n := by
  have unsigned : ∀ rest, Nat.toDigits 16 n ≠ '+' :: rest := by
    intro rest signed
    obtain ⟨d, small, plus⟩ := mem_toDigits n (signed ▸ List.mem_cons_self)
    exact absurd plus (by decide +revert)
  rw [hex?.eq_2 _ _ unsigned, if_neg (by simp [Nat.toDigits_ne_nil]), foldlM_hexDigit?]
  simp [fits]

theorem toList_hexDigits (n : Nat) : (Encode.hexDigits n).toList = '0' :: 'x' :: Nat.toDigits 16 n := by
  simp [Encode.hexDigits]

theorem flag_hexDigits (names : List (String × Nat)) {n bound : Nat} (fits : n < bound) :
    flag names bound (Encode.hexDigits n) = some n := by
  rw [flag, toList_hexDigits]
  exact hex?_toDigits fits

theorem isWord_hexDigits (n : Nat) : IsWord (Encode.hexDigits n) := by
  have plain : ∀ d < 16, d.digitChar ≠ '|' ∧ isBlank d.digitChar = false := by decide
  rw [IsWord, toList_hexDigits]
  refine ⟨by simp, fun c member => ?_⟩
  simp only [List.mem_cons] at member
  obtain rfl | rfl | member := member
  · decide
  · decide
  · obtain ⟨d, small, rfl⟩ := mem_toDigits n member
    exact plain d small

/-- A set of named bits and other bits is read back from its text. -/
theorem flags_text {names parts : List (String × Nat)} {rest bound : Nat} (words : ∀ part ∈ parts, IsWord part.1)
    (read : ∀ part ∈ parts, flag names bound part.1 = some part.2) (fits : rest < bound) :
    flags names bound (.str (" | ".intercalate
      (parts.map (·.1) ++ if rest = 0 then [] else [Encode.hexDigits rest]))) = some (joined parts ||| rest) := by
  by_cases none : rest = 0
  · simp [none, flags_words words read]
  · have all : ∀ part ∈ parts ++ [(Encode.hexDigits rest, rest)],
        IsWord part.1 ∧ flag names bound part.1 = some part.2 := by
      intro part member
      obtain inside | rfl := by simpa using member
      · exact ⟨words part inside, read part inside⟩
      · exact ⟨isWord_hexDigits rest, flag_hexDigits names fits⟩
    have whole := flags_words (fun part member => (all part member).1) fun part member => (all part member).2
    simpa [none, joined] using whole

end Decode

theorem Modifier.isWord_name (modifier : Modifier) : IsWord (Encode.modifierName modifier) := by
  cases modifier <;> decide +kernel

theorem Modifier.flag_name (modifier : Modifier) :
    Decode.flag Decode.modifierNames (Nat.pow 2 16) (Encode.modifierName modifier) = some modifier.bit.toNat := by
  cases modifier <;> decide +kernel

/-- A set has a single bit, or shares nothing with it. -/
theorem and_bit {n i : Nat} : (if n &&& 2 ^ i = 2 ^ i then 2 ^ i else 0) = n &&& 2 ^ i := by
  rw [Nat.and_two_pow]
  cases n.testBit i <;> simp [(Nat.two_pow_pos i).ne]

theorem Modifier.exists_bit (modifier : Modifier) : ∃ i, modifier.bit.toNat = 2 ^ i := by
  cases modifier
  exacts [⟨0, rfl⟩, ⟨1, rfl⟩, ⟨2, rfl⟩, ⟨3, rfl⟩, ⟨4, rfl⟩, ⟨5, rfl⟩, ⟨6, rfl⟩, ⟨7, rfl⟩, ⟨8, rfl⟩, ⟨9, rfl⟩, ⟨10, rfl⟩]

theorem Modifiers.has_iff {set : Modifiers} {modifier : Modifier} :
    set.has modifier ↔ set.bits.toNat &&& modifier.bit.toNat = modifier.bit.toNat := by
  rw [has, beq_iff_eq, ← UInt16.toNat_inj, UInt16.toNat_and]

/-- The bits of the modifiers of a set, among given ones, are the set's bits at their places. -/
theorem Modifiers.joined_filter (set : Modifiers) : ∀ (modifiers : List Modifier) (bits mask : Nat),
    bits = set.bits.toNat &&& mask →
      (modifiers.filter set.has).foldl (fun bits modifier => bits ||| modifier.bit.toNat) bits =
        set.bits.toNat &&& modifiers.foldl (fun mask modifier => mask ||| modifier.bit.toNat) mask
  | [], _, _, shared => shared
  | modifier :: rest, bits, mask, shared => by
    obtain ⟨i, power⟩ := modifier.exists_bit
    have grown : bits ||| (set.bits.toNat &&& modifier.bit.toNat) =
        set.bits.toNat &&& (mask ||| modifier.bit.toNat) := by rw [shared, Nat.and_or_distrib_left]
    have single := and_bit (n := set.bits.toNat) (i := i)
    rw [← power] at single
    by_cases present : set.has modifier
    · rw [if_pos (has_iff.mp present)] at single
      rw [List.filter_cons_of_pos present]
      exact joined_filter set rest _ _ (by rw [← grown, ← single])
    · rw [if_neg (mt has_iff.mpr present)] at single
      rw [List.filter_cons_of_neg present]
      exact joined_filter set rest _ _ (by rw [← grown, ← single, Nat.or_zero])

namespace Decode

theorem modifiers_encode (set : Modifiers) : modifiers (Encode.modifiers set) = some set := by
  let parts := (Modifier.all.filter set.has).map fun modifier =>
    (Encode.modifierName modifier, modifier.bit.toNat)
  have words : ∀ part ∈ parts, IsWord part.1 := by
    intro part member
    obtain ⟨modifier, -, rfl⟩ := List.mem_map.mp member
    exact modifier.isWord_name
  have read : ∀ part ∈ parts, flag modifierNames (Nat.pow 2 16) part.1 = some part.2 := by
    intro part member
    obtain ⟨modifier, -, rfl⟩ := List.mem_map.mp member
    exact modifier.flag_name
  have whole : joined parts ||| (Encode.unnamedBits set).toNat = set.bits.toNat := by
    have all : Modifier.all.foldl (fun mask modifier => mask ||| modifier.bit.toNat) 0 |||
        (~~~(0x7FF : UInt16)).toNat = 2 ^ 16 - 1 := by decide
    rw [joined, List.foldl_map, set.joined_filter Modifier.all 0 0 (by simp), Encode.unnamedBits,
      UInt16.toNat_and, ← Nat.and_or_distrib_left, all, Nat.and_two_pow_sub_one_eq_mod,
      Nat.mod_eq_of_lt (UInt16.toNat_lt _)]
  have text := flags_text words read (UInt16.toNat_lt (Encode.unnamedBits set))
  rw [whole] at text
  have encoded : Encode.modifiers set = .str (" | ".intercalate (parts.map (·.1) ++
      if (Encode.unnamedBits set).toNat = 0 then [] else [Encode.hexDigits (Encode.unnamedBits set).toNat])) := by
    simp [Encode.modifiers, parts, ← UInt16.toNat_inj, Function.comp_def]
  simp [modifiers, encoded, text]

theorem marks_encode (bits : UInt8) : marks (Encode.marks bits) = some bits := by
  let parts := if bits &&& Origin.synthesized = Origin.synthesized then [("SYNTHESIZED", 1)] else []
  have part_eq : ∀ part ∈ parts, part = ("SYNTHESIZED", 1) := by
    intro part member
    simp only [parts] at member
    split at member
    · exact List.mem_singleton.mp member
    · cases member
  have words : ∀ part ∈ parts, IsWord part.1 := fun part member => part_eq part member ▸ by decide
  have read : ∀ part ∈ parts, flag [("SYNTHESIZED", 1)] (Nat.pow 2 8) part.1 = some part.2 :=
    fun part member => by rw [part_eq part member]; decide
  have whole : joined parts ||| (bits &&& ~~~Origin.synthesized).toNat = bits.toNat := by
    have named : joined parts = bits.toNat &&& 2 ^ 0 := by
      rw [← and_bit]
      have present : bits &&& Origin.synthesized = Origin.synthesized ↔ bits.toNat &&& 2 ^ 0 = 2 ^ 0 := by
        rw [← UInt8.toNat_inj, UInt8.toNat_and]
        rfl
      simp only [parts, present]
      split <;> rfl
    have all : 2 ^ 0 ||| (~~~Origin.synthesized).toNat = 2 ^ 8 - 1 := by decide
    rw [named, UInt8.toNat_and, ← Nat.and_or_distrib_left, all, Nat.and_two_pow_sub_one_eq_mod,
      Nat.mod_eq_of_lt (UInt8.toNat_lt _)]
  have text := flags_text words read (UInt8.toNat_lt (bits &&& ~~~Origin.synthesized))
  rw [whole] at text
  have encoded : Encode.marks bits = .str (" | ".intercalate (parts.map (·.1) ++
      if (bits &&& ~~~Origin.synthesized).toNat = 0 then []
      else [Encode.hexDigits (bits &&& ~~~Origin.synthesized).toNat])) := by
    simp only [Encode.marks, parts, ← UInt8.toNat_inj, beq_iff_eq]
    split <;> rfl
  rw [marks, encoded, text, Option.map_some, UInt8.ofNat_toNat]

end Decode

end JavaWeave.Syntax
