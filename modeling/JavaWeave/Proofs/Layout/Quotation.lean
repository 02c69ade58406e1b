import JavaWeave.Layout.Literal
import Mathlib.Data.List.Infix

namespace JavaWeave.Layout

open Syntax

namespace Quotation

/-- What stands for one character behind a backslash. -/
def escaped? : Char → Option Char
  | 'b' => some '\x08'
  | 's' => some ' '
  | 't' => some '\t'
  | 'n' => some '\n'
  | 'f' => some '\x0c'
  | 'r' => some '\r'
  | '"' => some '"'
  | '\'' => some '\''
  | '\\' => some '\\'
  | _ => none

def octals : List Char := ['0', '1', '2', '3', '4', '5', '6', '7']

def isOctal (c : Char) : Bool := octals.contains c

/-- The octal digits of an escape sequence: as many as there are, up to three if the first is at most 3, else up to
two. -/
def octalDigits : List Char → List Char
  | [] => []
  | first :: rest =>
    if isOctal first then first :: (rest.take (if first ≤ '3' then 2 else 1)).takeWhile isOctal else []

def octalValue (digits : List Char) : Char := Char.ofNat (Nat.ofDigitChars 8 digits 0)

/-- A character or an escape sequence between quotes, and the rest. An escape of a code unit by its number is
replaced before there are tokens; none is begun here. -/
def readUnit (quote : Char) : List Char → Option (Char × List Char)
  | [] => none
  | '\\' :: rest =>
    match octalDigits rest, rest with
    | [], [] => none
    | [], c :: rest => (escaped? c).map (·, rest)
    | digits, rest => some (octalValue digits, rest.drop digits.length)
  | c :: rest => if c = quote ∨ c = '\n' ∨ c = '\r' then none else some (c, rest)

theorem length_readUnit_lt {quote c : Char} {text rest : List Char} (found : readUnit quote text = some (c, rest)) :
    rest.length < text.length := by
  unfold readUnit at found
  split at found
  · cases found
  · split at found
    · cases found
    · obtain ⟨_, -, same⟩ := Option.map_eq_some_iff.1 found
      obtain rfl := (Prod.mk.inj same).2
      simp only [List.length_cons]
      omega
    · obtain rfl := (Prod.mk.inj (Option.some.inj found)).2
      simp only [List.length_drop, List.length_cons]
      omega
  · split at found
    · cases found
    · obtain rfl := (Prod.mk.inj (Option.some.inj found)).2
      simp

/-- The characters up to the closing quote, and what comes behind it. -/
def readUnits (quote : Char) (text : List Char) : Option (List Char × List Char) :=
  if text.head? = some quote then some ([], text.tail)
  else
    match _ : readUnit quote text with
    | some (c, rest) => (readUnits quote rest).map fun (cs, rest) => (c :: cs, rest)
    | none => none
termination_by text.length
decreasing_by exact length_readUnit_lt ‹_›

/-- The characters between the quotes of a text that is one literal. -/
def unquote? (quote : Char) (text : String) : Option (List Char) :=
  match text.toList with
  | [] => none
  | first :: rest =>
    match readUnits quote rest with
    | some (cs, []) => if first = quote then some cs else none
    | _ => none

/-- The string that a text is as a literal. -/
def readString (text : String) : Option String := (unquote? '"' text).map String.ofList

/-- The character that a text is as a literal. -/
def readChar (text : String) : Option Char :=
  match unquote? '\'' text with
  | some [c] => some c
  | _ => none

/-- The octal digits that an escaped NUL takes with it. -/
def digitsBehind (text : List Char) : List Char := (text.take 2).takeWhile isOctal

/-- The characters as they are read back: a NUL and the octal digits behind it are one escape sequence. -/
def fused : List Char → List Char
  | [] => []
  | c :: rest =>
    if c = '\x00' then octalValue (digitsBehind rest) :: fused (rest.drop (digitsBehind rest).length)
    else c :: fused rest
termination_by text => text.length

/-- What is no octal digit is written so that it begins with none. -/
theorem escape_head (quote : Char) {c : Char} (other : isOctal c = false) :
    ∃ first more, escape quote c = first :: more ∧ isOctal first = false := by
  have backslash : isOctal '\\' = false := by decide
  unfold escape
  repeat' split
  all_goals first | exact ⟨_, _, rfl, backslash⟩ | exact ⟨_, _, rfl, other⟩

section Escaping

variable {quote : Char}

theorem mark_cases (mark : quote ∈ ['"', '\'']) : quote = '"' ∨ quote = '\'' := by simpa using mark

/-- An escape sequence of one letter. -/
theorem readUnit_backslash {e c : Char} (plain : isOctal e = false) (stands : escaped? e = some c)
    (rest : List Char) : readUnit quote ('\\' :: e :: rest) = some (c, rest) := by
  simp [readUnit, octalDigits, plain, stands]

/-- A character that is not NUL is read back as it was written. -/
theorem readUnit_escape (mark : quote ∈ ['"', '\'']) {c : Char} (other : c ≠ '\x00') (rest : List Char) :
    readUnit quote (escape quote c ++ rest) = some (c, rest) := by
  have zero : c.toNat ≠ 0 := fun same => other (Char.toNat_inj.1 same)
  unfold escape
  split_ifs with line back tab backslash same
  · subst line
    exact readUnit_backslash (by decide) rfl rest
  · subst back
    exact readUnit_backslash (by decide) rfl rest
  · subst tab
    exact readUnit_backslash (by decide) rfl rest
  · subst backslash
    exact readUnit_backslash (by decide) rfl rest
  · subst same
    obtain rfl | rfl := mark_cases mark <;> exact readUnit_backslash (by decide) rfl rest
  · rw [List.singleton_append, readUnit]
    · simp [line, back, same]
    · simpa using backslash

variable (mark : quote ∈ ['"', '\''])
include mark

theorem escape_of_isOctal {c : Char} (octal : isOctal c = true) : escape quote c = [c] := by
  have all : octals.all (fun c => escape quote c == [c]) = true := by
    obtain rfl | rfl := mark_cases mark <;> decide
  simpa using List.all_eq_true.1 all c (List.contains_iff_mem.1 octal)

/-- Octal digits are written as they are, so as many stand at the head of the text as at the head of the
characters, and the rest of the text is that of the other characters. -/
theorem takeWhile_escape (limit : Nat) (text rest : List Char) :
    ((text.flatMap (escape quote) ++ quote :: rest).take limit).takeWhile isOctal = (text.take limit).takeWhile isOctal
      ∧ (text.flatMap (escape quote) ++ quote :: rest).drop ((text.take limit).takeWhile isOctal).length
        = (text.drop ((text.take limit).takeWhile isOctal).length).flatMap (escape quote) ++ quote :: rest := by
  induction limit generalizing text with
  | zero => simp
  | succ limit ih =>
    cases text with
    | nil =>
      have closing : isOctal quote = false := by
        obtain rfl | rfl := mark_cases mark <;> decide
      simp [closing]
    | cons c text =>
      cases octal : isOctal c with
      | true => simp [escape_of_isOctal mark octal, octal, ih text]
      | false =>
        obtain ⟨first, more, shape, other⟩ := escape_head quote octal
        simp [shape, other, octal]

/-- A NUL is read back together with the octal digits behind it. -/
theorem readUnit_nul (text rest : List Char) :
    readUnit quote (escape quote '\x00' ++ (text.flatMap (escape quote) ++ quote :: rest))
      = some (octalValue (digitsBehind text),
          (text.drop (digitsBehind text).length).flatMap (escape quote) ++ quote :: rest) := by
  obtain ⟨digits, behind⟩ := takeWhile_escape mark 2 text rest
  have zero : escape quote '\x00' = ['\\', '0'] := rfl
  have value (ds : List Char) : octalValue ('0' :: ds) = octalValue ds := by
    simp [octalValue, Nat.ofDigitChars]
  have taken : octalDigits ('0' :: (text.flatMap (escape quote) ++ quote :: rest)) = '0' :: digitsBehind text := by
    rw [octalDigits, if_pos (by decide), if_pos (by decide), digits, digitsBehind]
  simp only [zero, List.cons_append, List.nil_append, readUnit, taken]
  rw [value, List.length_cons, List.drop_succ_cons, digitsBehind, behind]

/-- No character is written so that it begins with the closing quote. -/
theorem escape_ne_quote (c : Char) (rest : List Char) : (escape quote c ++ rest).head? ≠ some quote := by
  have backslash : '\\' ≠ quote := by
    rintro rfl
    exact absurd mark (by decide)
  unfold escape
  repeat' split
  all_goals simp_all

omit mark in
theorem readUnits_of_readUnit {c : Char} {text rest : List Char} (other : text.head? ≠ some quote)
    (found : readUnit quote text = some (c, rest)) :
    readUnits quote text = (readUnits quote rest).map fun (cs, rest) => (c :: cs, rest) := by
  rw [readUnits, if_neg other]
  split
  next found' =>
    cases found.symm.trans found'
    rfl
  next none => cases found.symm.trans none

/-- The characters between the quotes are read up to the closing quote. -/
theorem readUnits_escape (text rest : List Char) :
    readUnits quote (text.flatMap (escape quote) ++ quote :: rest) = some (fused text, rest) := by
  induction text using fused.induct with
  | case1 => rw [readUnits, fused]; simp
  | case2 text ih =>
    rw [List.flatMap_cons, List.append_assoc,
      readUnits_of_readUnit (escape_ne_quote mark _ _) (readUnit_nul mark text rest), ih]
    simp [fused]
  | case3 c text other ih =>
    rw [List.flatMap_cons, List.append_assoc,
      readUnits_of_readUnit (escape_ne_quote mark _ _) (readUnit_escape mark other _), ih]
    simp [fused, other]

end Escaping

theorem length_fused_le (text : List Char) : (fused text).length ≤ text.length := by
  induction text using fused.induct with
  | case1 => simp [fused]
  | case2 text ih =>
    rw [fused, if_pos rfl]
    simp only [List.length_cons, List.length_drop] at ih ⊢
    omega
  | case3 c text other ih => simpa [fused, other] using ih

theorem digitsBehind_eq_nil_iff (text : List Char) :
    digitsBehind text = [] ↔ ∀ d, isOctal d = true → ¬ [d] <+: text := by
  cases text with
  | nil => simp [digitsBehind]
  | cons c text =>
    cases octal : isOctal c with
    | true => simp [digitsBehind, octal]
    | false =>
      have apart (d : Char) (digit : isOctal d = true) : ¬ d = c := by
        rintro rfl
        simp [octal] at digit
      simpa [digitsBehind, octal] using apart

/-- The characters stay as they are exactly if no NUL has an octal digit behind it. -/
theorem fused_eq_self_iff (text : List Char) :
    fused text = text ↔ ∀ d, isOctal d = true → ¬ ['\x00', d] <:+: text := by
  induction text using fused.induct with
  | case1 => simp [fused]
  | case2 text ih =>
    rw [fused, if_pos rfl]
    by_cases alone : digitsBehind text = []
    · have nul : octalValue [] = '\x00' := rfl
      have first := (digitsBehind_eq_nil_iff text).1 alone
      rw [alone, List.length_nil, List.drop_zero] at ih
      rw [alone, List.length_nil, List.drop_zero, nul, List.cons.injEq, eq_self, true_and, ih]
      refine forall₂_congr fun d octal => not_congr ?_
      simp [List.infix_cons_iff, first d octal]
    · -- Both sides fail: the digits are lost, and the first of them stands behind the NUL.
      refine iff_of_false (fun same => ?_) (fun apart => ?_)
      · have shorter := length_fused_le (text.drop (digitsBehind text).length)
        have filled := List.length_pos_of_ne_nil alone
        have within : (digitsBehind text).length ≤ text.length :=
          ((List.takeWhile_prefix _).trans (List.take_prefix _ _)).length_le
        have lengths := congrArg List.length same
        simp only [List.length_cons, List.length_drop] at lengths shorter
        omega
      · refine alone ((digitsBehind_eq_nil_iff text).2 fun d octal leads => apart d octal ?_)
        exact List.IsPrefix.isInfix (List.cons_prefix_cons.2 ⟨rfl, leads⟩)
  | case3 c text other ih =>
    rw [fused, if_neg other, List.cons.injEq, eq_self, true_and, ih]
    refine forall₂_congr fun d _ => not_congr ?_
    simp [List.infix_cons_iff, Ne.symm other]

theorem unquote?_quoted {quote : Char} (mark : quote ∈ ['"', '\'']) (text : List Char) :
    unquote? quote (quoted quote text) = some (fused text) := by
  have shape : (quoted quote text).toList = quote :: (text.flatMap (escape quote) ++ [quote]) := by simp [quoted]
  simp only [unquote?, shape, readUnits_escape mark text [], if_true]

/-- The text of a character literal is read back as that character. -/
theorem readChar_literal (c : Char) : readChar (literal (.char c)) = some c := by
  have single : fused [c] = [c] := by
    refine (fused_eq_self_iff [c]).2 fun d _ inside => ?_
    simpa using inside.length_le
  rw [literal, readChar, unquote?_quoted (by decide), single]

/-- The text of a string literal is read back as the string with every NUL and the octal digits behind it fused. -/
theorem readString_literal (s : String) :
    readString (literal (.string s)) = some (String.ofList (fused s.toList)) := by
  rw [literal, readString, unquote?_quoted (by decide), Option.map_some]

/-- The text of a string literal is read back as that string exactly if no NUL in it has an octal digit behind it. -/
theorem readString_literal_iff (s : String) :
    readString (literal (.string s)) = some s ↔ ∀ d, isOctal d = true → ¬ ['\x00', d] <:+: s.toList := by
  rw [readString_literal, ← fused_eq_self_iff]
  constructor
  · intro same
    have := congrArg String.toList (Option.some.inj same)
    simpa using this
  · intro same
    rw [same, String.ofList_toList]

example : literal (.string "\x001") = "\"\\01\"" := by decide

end Quotation

end JavaWeave.Layout
