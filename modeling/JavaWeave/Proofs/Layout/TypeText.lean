import JavaWeave.Layout.Literal
import JavaWeave.Proofs.Layout.Lexing
import JavaWeave.Proofs.Text.Pieces
import Mathlib.Data.List.Basic
import Mathlib.Data.Set.Function

namespace JavaWeave.Layout

open Syntax

namespace TypeText

/-- Words with points between them. Reserved words are among them, since they name the primitive types. -/
def isDotted (name : List Char) : Bool := (Text.pieces '.' name).all Grammar.isWord

/-- Types of dotted names, with type arguments, dimensions and bounds to any depth. A wildcard without bound has
nothing besides. -/
inductive Spelled : JavaType → Prop where
  | anything : Spelled .anything
  | named {name : String} {arguments : List JavaType} {dimensions : Nat} {wildcard : Option Wildcard}
      (dotted : isDotted name.toList = true) (parts : ∀ t ∈ arguments, Spelled t)
      (bounded : wildcard ≠ some .unbound) : Spelled ⟨name, arguments, dimensions, wildcard⟩

/-- What a wildcard is written as in front of its bound. -/
def lead : Option Wildcard → String
  | some .upper => "? extends "
  | some .lower => "? super "
  | some .unbound => "?"
  | none => ""

/-- The wildcard that a text begins with, and the rest. -/
def readWildcard (text : List Char) : Option Wildcard × List Char :=
  match text.dropPrefix? (lead (some .upper)).toList with
  | some rest => (some .upper, rest)
  | none =>
    match text.dropPrefix? (lead (some .lower)).toList with
    | some rest => (some .lower, rest)
    | none =>
      match text with
      | '?' :: rest => (some .unbound, rest)
      | _ => (none, text)

def continuesName (c : Char) : Bool := Grammar.startsWord c || Grammar.continuesWord c || c == '.'

/-- How many pairs of brackets a text begins with, and the rest. -/
def readBrackets : List Char → Nat × List Char
  | '[' :: ']' :: rest => ((readBrackets rest).1 + 1, (readBrackets rest).2)
  | rest => (0, rest)

/-- A rule of the reader, with the type of what it reads. -/
inductive Rule : Type → Type where
  /-- A type at the head of a text, and the rest. -/
  | javaType : Rule JavaType
  /-- A name with what belongs to it. -/
  | named (wildcard : Option Wildcard) : Rule JavaType
  /-- Type arguments between angle brackets, or none. -/
  | arguments : Rule (List JavaType)
  /-- Types up to and with the closing angle bracket. -/
  | items : Rule (List JavaType)

def Rule.read {α : Type} (rule : Rule α) (text : List Char) : Option (α × List Char) :=
  match rule with
  | .javaType =>
    match readWildcard text with
    | (some .unbound, rest) => some (.anything, rest)
    | (wildcard, rest) => Rule.named wildcard |>.read rest
  | .named wildcard =>
    if isDotted (text.takeWhile continuesName) then do
      let (ts, rest) ← Rule.arguments |>.read (text.dropWhile continuesName)
      let (dimensions, rest) := readBrackets rest
      some (⟨String.ofList (text.takeWhile continuesName), ts, dimensions, wildcard⟩, rest)
    else none
  | .arguments =>
    match text with
    | '<' :: rest => Rule.items |>.read rest
    | _ => some ([], text)
  | .items => do
    let (t, rest) ← Rule.javaType |>.read text
    match rest with
    | '>' :: rest => some ([t], rest)
    | ',' :: ' ' :: rest => do
      let (ts, rest) ← Rule.items |>.read rest
      some (t :: ts, rest)
    | _ => none
partial_fixpoint

/-- The type that a text is as a whole. -/
def parse? (text : String) : Option JavaType :=
  match Rule.javaType.read text.toList with
  | some (t, []) => some t
  | _ => none

/-- Type arguments as they stand behind a name. -/
def angled (arguments : List JavaType) : String :=
  if arguments.isEmpty then "" else "<" ++ commas (types arguments) ++ ">"

theorem type_eq {name : String} {arguments : List JavaType} {dimensions : Nat} {wildcard : Option Wildcard}
    (bounded : wildcard ≠ some .unbound) :
    type ⟨name, arguments, dimensions, wildcard⟩
      = lead wildcard ++ (name ++ (angled arguments ++ brackets dimensions)) := by
  match wildcard, bounded with
  | none, _ => simp [type, lead, angled, String.append_assoc]
  | some .upper, _ => simp [type, lead, angled, String.append_assoc]
  | some .lower, _ => simp [type, lead, angled, String.append_assoc]

theorem type_anything : type .anything = "?" := by simp [JavaType.anything, type]

theorem toList_brackets_zero : (brackets 0).toList = [] := by simp [brackets]

theorem toList_brackets_succ (n : Nat) : (brackets (n + 1)).toList = '[' :: ']' :: (brackets n).toList := by
  simp [brackets, List.replicate_succ]

theorem commas_singleton (t : JavaType) : commas (types [t]) = type t := by simp [commas, types]

theorem commas_cons (t u : JavaType) (rest : List JavaType) :
    commas (types (t :: u :: rest)) = type t ++ ", " ++ commas (types (u :: rest)) := by
  simp [commas, types, String.intercalate_cons_cons]

theorem mem_of_pieces (mark : Char) {c : Char} : ∀ {text : List Char}, c ∈ text →
    c = mark ∨ ∃ piece ∈ Text.pieces mark text, c ∈ piece
  | d :: rest, member => by
    rw [Text.pieces]
    obtain rfl | later := List.mem_cons.1 member
    · by_cases same : c = mark
      · exact .inl same
      · rw [if_neg same]
        split <;> exact .inr ⟨_, List.mem_cons_self, List.mem_cons_self⟩
    · obtain same | ⟨piece, inside, holds⟩ := mem_of_pieces mark later
      · exact .inl same
      · refine .inr ?_
        split
        · exact ⟨piece, List.mem_cons_of_mem _ inside, holds⟩
        · split
          next none => simp [none] at inside
          next found =>
            rw [found] at inside
            obtain rfl | inside := List.mem_cons.1 inside
            · exact ⟨_, List.mem_cons_self, List.mem_cons_of_mem _ holds⟩
            · exact ⟨piece, List.mem_cons_of_mem _ inside, holds⟩

theorem isDotted_continues {name : List Char} (dotted : isDotted name = true) :
    ∀ c ∈ name, continuesName c = true := by
  intro c member
  obtain rfl | ⟨piece, inside, holds⟩ := mem_of_pieces '.' member
  · simp [continuesName]
  · have word := List.all_eq_true.1 dotted piece inside
    cases piece with
    | nil => simp at holds
    | cons first rest =>
      simp only [Grammar.isWord, Bool.and_eq_true, List.all_eq_true] at word
      obtain rfl | holds := List.mem_cons.1 holds
      · simp [continuesName, word.1]
      · simp [continuesName, word.2 c holds]

theorem isDotted_filled {name : List Char} (dotted : isDotted name = true) : name ≠ [] := by
  rintro rfl
  simp [isDotted, Text.pieces, Grammar.isWord] at dotted

/-- The marks of types belong to no name. -/
theorem continuesName_mark {c : Char} (mark : c ∈ ['?', '<', '>', ',', '[']) : continuesName c = false := by
  simp only [List.mem_cons, List.not_mem_nil, or_false] at mark
  have small : c.toNat < 128 := by
    obtain rfl | rfl | rfl | rfl | rfl := mark <;> decide
  rw [continuesName, Grammar.startsWord_of_small small, Grammar.continuesWord_of_small small]
  obtain rfl | rfl | rfl | rfl | rfl := mark <;> decide

/-- A name ends before a mark. -/
theorem cut_name {name rest : List Char} (dotted : isDotted name = true)
    (marks : ∀ c ∈ rest.head?, continuesName c = false) :
    (name ++ rest).takeWhile continuesName = name ∧ (name ++ rest).dropWhile continuesName = rest := by
  have all := isDotted_continues dotted
  rw [List.takeWhile_append_of_pos all, List.dropWhile_append_of_pos all]
  cases rest with
  | nil => simp
  | cons c rest => simp [marks c rfl]

theorem readWildcard_lead {wildcard : Option Wildcard} (bounded : wildcard ≠ some .unbound) {text : List Char}
    (plain : ∀ c ∈ text.head?, c ≠ '?') : readWildcard ((lead wildcard).toList ++ text) = (wildcard, text) := by
  match wildcard, bounded with
  | some .upper, _ => simp [readWildcard, List.dropPrefix?_append_of_beq]
  | some .lower, _ =>
    have other : ((lead (some .lower)).toList ++ text).dropPrefix? (lead (some .upper)).toList = none := rfl
    simp [readWildcard, other, List.dropPrefix?_append_of_beq]
  | none, _ =>
    have nothing : (lead none).toList = [] := rfl
    rw [nothing, List.nil_append]
    cases text with
    | nil => rfl
    | cons c rest =>
      have different : c ≠ '?' := plain c rfl
      have first (w : Wildcard) : (c :: rest).dropPrefix? (lead (some w)).toList = none := by
        cases w <;> simp [lead, List.dropPrefix?, different]
      rw [readWildcard, first .upper, first .lower]
      exact fun _ same => different (List.cons.inj same).1

theorem readWildcard_unbound {rest : List Char} (apart : ∀ c ∈ rest.head?, c ≠ ' ') :
    readWildcard ('?' :: rest) = (some .unbound, rest) := by
  cases rest with
  | nil => rfl
  | cons c rest =>
    have other : (c == ' ') = false := by simpa using apart c rfl
    simp [readWildcard, lead, List.dropPrefix?, other]

theorem readBrackets_brackets {rest : List Char} (apart : ∀ c ∈ rest.head?, c ≠ '[') (n : Nat) :
    readBrackets ((brackets n).toList ++ rest) = (n, rest) := by
  induction n with
  | zero =>
    rw [toList_brackets_zero, List.nil_append]
    cases rest with
    | nil => rfl
    | cons c rest =>
      rw [readBrackets]
      exact fun _ same => apart c rfl (List.cons.inj same).1
  | succ n ih => simp [toList_brackets_succ, readBrackets, ih]

/-- What comes behind a type: nothing, or what separates and closes type arguments. -/
def Follows (rest : List Char) : Prop := ∀ c ∈ rest.head?, c = ',' ∨ c = '>'

/-- The reader finds the type at the head of a text. -/
def Found (t : JavaType) : Prop := ∀ rest, Follows rest → Rule.javaType.read ((type t).toList ++ rest) = some (t, rest)

theorem read_items {ts : List JavaType} (parts : ∀ t ∈ ts, Found t) (filled : ts ≠ []) (rest : List Char) :
    Rule.items.read ((commas (types ts)).toList ++ '>' :: rest) = some (ts, rest) := by
  induction ts with
  | nil => exact absurd rfl filled
  | cons t ts ih =>
    have first := parts t List.mem_cons_self
    cases ts with
    | nil =>
      rw [commas_singleton, Rule.read, first _ (by simp [Follows])]
      rfl
    | cons u ts =>
      have others := ih (fun v member => parts v (List.mem_cons_of_mem _ member)) (List.cons_ne_nil _ _)
      have text : (commas (types (t :: u :: ts))).toList ++ '>' :: rest
          = (type t).toList ++ ',' :: ' ' :: ((commas (types (u :: ts))).toList ++ '>' :: rest) := by
        simp [commas_cons]
      rw [text, Rule.read, first _ (by simp [Follows])]
      simp only [Option.bind_eq_bind, Option.bind_some, others]

theorem read_arguments {ts : List JavaType} (parts : ∀ t ∈ ts, Found t) {rest : List Char}
    (apart : ∀ c ∈ rest.head?, c ≠ '<') : Rule.arguments.read ((angled ts).toList ++ rest) = some (ts, rest) := by
  cases ts with
  | nil =>
    have text : (angled []).toList ++ rest = rest := by simp [angled]
    rw [text]
    cases rest with
    | nil => rw [Rule.read]; simp
    | cons c rest =>
      rw [Rule.read]
      exact fun _ same => apart c rfl (List.cons.inj same).1
  | cons t ts =>
    have text : (angled (t :: ts)).toList ++ rest = '<' :: ((commas (types (t :: ts))).toList ++ '>' :: rest) := by
      simp [angled]
    rw [text, Rule.read, read_items parts (List.cons_ne_nil _ _)]

/-- Behind the type arguments come brackets, or what comes behind the type. -/
theorem head_brackets {n : Nat} {rest : List Char} (follows : Follows rest) :
    ∀ c ∈ ((brackets n).toList ++ rest).head?, c ∈ ['[', ',', '>'] := by
  cases n with
  | zero =>
    rw [toList_brackets_zero, List.nil_append]
    intro c member
    obtain rfl | rfl := follows c member <;> decide
  | succ n => simp [toList_brackets_succ]

/-- Behind the name comes a mark. -/
theorem head_angled (ts : List JavaType) (n : Nat) {rest : List Char} (follows : Follows rest) :
    ∀ c ∈ ((angled ts).toList ++ ((brackets n).toList ++ rest)).head?, c ∈ ['?', '<', '>', ',', '['] := by
  cases ts with
  | nil =>
    intro c member
    have inside := head_brackets follows c (by simpa [angled] using member)
    have sub : ['[', ',', '>'] ⊆ ['?', '<', '>', ',', '['] := by decide
    exact sub inside
  | cons t ts => simp [angled]

theorem Spelled.found {t : JavaType} (spelled : Spelled t) : Found t := by
  induction spelled with
  | anything =>
    intro rest follows
    have apart : ∀ c ∈ rest.head?, c ≠ ' ' := by
      intro c member
      obtain rfl | rfl := follows c member <;> decide
    rw [type_anything, Rule.read]
    simp [readWildcard_unbound apart]
  | @named name arguments dimensions wildcard dotted parts bounded ih =>
    intro rest follows
    obtain ⟨taken, dropped⟩ := cut_name dotted fun c member =>
      continuesName_mark (head_angled arguments dimensions follows c member)
    have plain : ∀ c ∈ (name.toList ++ ((angled arguments).toList ++ ((brackets dimensions).toList ++ rest))).head?,
        c ≠ '?' := by
      obtain ⟨first, others, shape⟩ := List.exists_cons_of_ne_nil (isDotted_filled dotted)
      rintro _ member rfl
      have continues := isDotted_continues dotted '?' (by simp_all)
      exact absurd continues (by simp [continuesName_mark])
    have behind : ∀ c ∈ ((brackets dimensions).toList ++ rest).head?, c ≠ '<' := by
      rintro _ member rfl
      exact absurd (head_brackets follows '<' member) (by decide)
    have closing : ∀ c ∈ rest.head?, c ≠ '[' := by
      intro c member
      obtain rfl | rfl := follows c member <;> decide
    have named : (Rule.named wildcard).read
        (name.toList ++ ((angled arguments).toList ++ ((brackets dimensions).toList ++ rest)))
        = some (⟨name, arguments, dimensions, wildcard⟩, rest) := by
      rw [Rule.read, taken, dropped, if_pos dotted, read_arguments ih behind]
      simp [readBrackets_brackets closing]
    rw [type_eq bounded, Rule.read]
    simp only [String.toList_append, List.append_assoc]
    rw [readWildcard_lead bounded plain]
    match wildcard, bounded with
    | none, _ | some .upper, _ | some .lower, _ => exact named

theorem text_of_readWildcard {text rest : List Char} {wildcard : Option Wildcard}
    (read : readWildcard text = (wildcard, rest)) : text = (lead wildcard).toList ++ rest := by
  unfold readWildcard at read
  split at read
  next found =>
    obtain ⟨rfl, rfl⟩ := Prod.mk.inj read
    obtain ⟨before, rfl, same⟩ := List.dropPrefix?_eq_some_iff.1 found
    rw [eq_of_beq same]
  next =>
    split at read
    next found =>
      obtain ⟨rfl, rfl⟩ := Prod.mk.inj read
      obtain ⟨before, rfl, same⟩ := List.dropPrefix?_eq_some_iff.1 found
      rw [eq_of_beq same]
    next =>
      split at read <;>
        · obtain ⟨rfl, rfl⟩ := Prod.mk.inj read
          rfl

theorem text_of_readBrackets (text : List Char) :
    (brackets (readBrackets text).1).toList ++ (readBrackets text).2 = text := by
  induction text using readBrackets.induct with
  | case1 rest ih => rw [readBrackets, toList_brackets_succ, List.cons_append, List.cons_append, ih]
  | case2 rest other => rw [readBrackets.eq_2 rest other, toList_brackets_zero, List.nil_append]

/-- What a rule reads at the head of a text is a type or types, and the text begins with the text of it. -/
def Rule.Takes {α : Type} (rule : Rule α) (text : List Char) (read : α × List Char) : Prop :=
  match rule with
  | .javaType => Spelled read.1 ∧ text = (type read.1).toList ++ read.2
  | .named wildcard =>
    wildcard ≠ some .unbound → Spelled read.1 ∧ (lead wildcard).toList ++ text = (type read.1).toList ++ read.2
  | .arguments => (∀ t ∈ read.1, Spelled t) ∧ text = (angled read.1).toList ++ read.2
  | .items => read.1 ≠ [] ∧ (∀ t ∈ read.1, Spelled t) ∧ text = (commas (types read.1)).toList ++ '>' :: read.2

theorem Rule.takes {α : Type} {rule : Rule α} {text : List Char} {read : α × List Char}
    (found : rule.read text = some read) : rule.Takes text read := by
  refine Rule.read.partial_correctness (fun rule => rule.Takes) ?_ rule text read found
  intro again takes α rule text read found
  cases rule with
  | javaType =>
    simp only at found
    split at found
    next rest cut =>
      obtain rfl := Option.some.inj found
      exact ⟨.anything, by rw [text_of_readWildcard cut, type_anything]; rfl⟩
    next wildcard rest other cut =>
      obtain ⟨spelled, shape⟩ := takes _ _ _ found other
      exact ⟨spelled, (text_of_readWildcard cut).trans shape⟩
  | named wildcard =>
    intro bounded
    simp only at found
    split at found
    next dotted =>
      obtain ⟨⟨ts, behind⟩, first, found⟩ := Option.bind_eq_some_iff.1 found
      obtain rfl := Option.some.inj found
      obtain ⟨parts, shape⟩ := takes _ _ _ first
      refine ⟨.named (by rwa [String.toList_ofList]) parts bounded, ?_⟩
      rw [type_eq bounded]
      simp only [String.toList_append, String.toList_ofList, List.append_assoc]
      rw [text_of_readBrackets, ← shape, List.takeWhile_append_dropWhile]
    next => simp at found
  | arguments =>
    simp only at found
    split at found
    next rest =>
      obtain ⟨filled, parts, shape⟩ := takes _ _ _ found
      refine ⟨parts, ?_⟩
      simp [angled, filled, shape]
    next =>
      obtain rfl := Option.some.inj found
      exact ⟨by simp, by simp [angled]⟩
  | items =>
    obtain ⟨⟨t, behind⟩, first, found⟩ := Option.bind_eq_some_iff.1 found
    obtain ⟨spelled, shape⟩ := takes _ _ _ first
    simp only at found
    split at found
    next rest =>
      obtain rfl := Option.some.inj found
      exact ⟨by simp, by simpa using spelled, by rw [commas_singleton]; exact shape⟩
    next rest =>
      obtain ⟨⟨ts, last⟩, others, found⟩ := Option.bind_eq_some_iff.1 found
      obtain rfl := Option.some.inj found
      obtain ⟨filled, parts, shape'⟩ := takes _ _ _ others
      obtain ⟨u, us, rfl⟩ := List.exists_cons_of_ne_nil filled
      refine ⟨by simp, List.forall_mem_cons.2 ⟨spelled, parts⟩, ?_⟩
      simp only at shape shape' ⊢
      rw [shape, shape', commas_cons]
      simp
    next => simp at found

theorem parse?_eq_some_iff {text : String} {t : JavaType} : parse? text = some t ↔ Spelled t ∧ type t = text := by
  constructor
  · intro read
    unfold parse? at read
    split at read
    next found =>
      obtain rfl := Option.some.inj read
      obtain ⟨spelled, shape⟩ := Rule.takes found
      exact ⟨spelled, String.toList_inj.1 (by simpa using shape.symm)⟩
    next => simp at read
  · rintro ⟨spelled, rfl⟩
    have found := spelled.found [] (by simp [Follows])
    rw [List.append_nil] at found
    rw [parse?, found]

end TypeText

open TypeText

/-- The text of a type is read back as that type, so no two types have one text, and the reader accepts nothing but
texts of types. -/
theorem type_determined :
    (∀ t, Spelled t → parse? (type t) = some t) ∧ Set.InjOn type {t | Spelled t}
      ∧ ∀ text t, parse? text = some t → Spelled t ∧ type t = text := by
  have back (t : JavaType) (spelled : Spelled t) : parse? (type t) = some t :=
    parse?_eq_some_iff.2 ⟨spelled, rfl⟩
  refine ⟨back, ?_, fun text t => parse?_eq_some_iff.1⟩
  intro t spelled u spelled' same
  have both := (back t spelled).symm.trans ((congrArg parse? same).trans (back u spelled'))
  exact Option.some.inj both

/-- A type in which every form stands inside another. -/
def table : JavaType :=
  (JavaType.named "java.util.Map").apply
      [.extending ((JavaType.named "T").arrayOf),
        ((JavaType.named "Map.Entry").apply [.anything, .superOf (JavaType.named "int").arrayOf]).arrayOf]
    |>.arrayOf |>.arrayOf

theorem table_spelled : Spelled table := by
  have bound : Spelled (.extending ((JavaType.named "T").arrayOf)) :=
    .named (by decide) (by simp [JavaType.arrayOf, JavaType.named]) (by simp)
  have number : Spelled (.superOf (JavaType.named "int").arrayOf) :=
    .named (by decide) (by simp [JavaType.arrayOf, JavaType.named]) (by simp)
  refine .named (by decide) (List.forall_mem_cons.2 ⟨bound, List.forall_mem_singleton.2 ?_⟩) (by decide)
  exact .named (by decide) (List.forall_mem_cons.2 ⟨.anything, List.forall_mem_singleton.2 number⟩) (by decide)

theorem type_determined_table :
    Spelled table ∧ parse? "java.util.Map<? extends T[], Map.Entry<?, ? super int[]>[]>[][]" = some table := by
  have text : type table = "java.util.Map<? extends T[], Map.Entry<?, ? super int[]>[]>[][]" := by decide
  exact ⟨table_spelled, text ▸ type_determined.1 table table_spelled⟩

end JavaWeave.Layout
