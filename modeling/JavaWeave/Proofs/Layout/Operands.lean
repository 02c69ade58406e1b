import JavaWeave.Proofs.Layout.Rereading

/-! Operators in front, casts and element accesses read again. The grammar tells a sign in front of an operand from a
step and from a difference by the tokens alone, and an array creation takes every bracket behind it: an expression comes
back exactly if its outermost form keeps apart from the operand. -/

namespace JavaWeave.Layout

open Syntax Grammar

namespace Operands

/-- What a token begins. -/
inductive Lead where
  | inFront (op : UnaryOp)
  | operand (e : Expression)
  | creation
  | opening

/-- The greatest numeral stands only behind a sign, where it is the least number. -/
def lead? : Token → Option Lead
  | .word x => some (.operand (.name x))
  | .integer n => if n ≤ 2 ^ 31 then some (.operand (.literal (.int (.ofNat n)))) else none
  | .keyword word =>
    if word = "new" then some .creation else (wordLiteral word).map fun value => .operand (.literal value)
  | .symbol text => if text = "(" then some .opening else (inFront? (.symbol text)).map .inFront
  | .number _ => none

def additive? : Token → Option BinaryOp
  | .symbol text => [.add, .sub].find? (BinaryOp.symbol · == text)
  | _ => none

/-- The name of a type. -/
def readName : List Token → Option (String × List Token)
  | .word x :: rest => some (x, rest)
  | .keyword word :: rest => if word ∈ JavaType.primitives then some (word, rest) else none
  | _ => none

/-- Empty brackets, and how many pairs there are. -/
def readDimensions : List Token → Nat × List Token
  | .symbol "[" :: .symbol "]" :: rest =>
    let (count, rest) := readDimensions rest
    (count + 1, rest)
  | ts => (0, ts)

/-- Whether an operand comes next that begins with none of the operators in front that may also stand between or behind
operands. -/
def beginsPlainly (ts : List Token) : Bool :=
  match ts.head?.bind lead? with
  | some (.inFront op) => op == .not || op == .bitNot
  | some _ => true
  | none => false

/-- The type of a cast and the closing parenthesis. Behind a name in parentheses a sign is that of a sum. -/
def readCast (ts : List Token) : Option (JavaType × List Token) := do
  let (name, rest) ← readName ts
  let (dimensions, rest) := readDimensions rest
  let rest ← expect ")" rest
  let type : JavaType := { name, dimensions }
  if type.isPrimitive || beginsPlainly rest then some (type, rest) else none

/-- A rule of the reader, with the type of what it reads. -/
inductive Rule : Type → Type where
  /-- A sum of operands at the head of the tokens. -/
  | sum : Rule Expression
  /-- The terms behind what is read of a sum. -/
  | terms (left : Expression) : Rule Expression
  /-- An operand with all that stands in front of it and is selected from it. -/
  | unary : Rule Expression
  /-- An array creation. Nothing is selected from one that lists no elements. -/
  | creation : Rule Expression
  | selections (array : Expression) : Rule Expression
  | sizes : Rule (List Expression)
  /-- The elements of an array and the closing brace; a comma may stand behind the last one. -/
  | elements : Rule (List Expression)

def Rule.read {α : Type} (rule : Rule α) (ts : List Token) : Option (α × List Token) :=
  match rule with
  | .sum => do
    let (e, rest) ← Rule.unary |>.read ts
    Rule.terms e |>.read rest
  | .terms left =>
    match ts.head?.bind additive? with
    | some op => do
      let (right, rest) ← Rule.unary |>.read ts.tail
      Rule.terms (.binary op left right) |>.read rest
    | none => some (left, ts)
  | .unary =>
    match ts.head?.bind lead? with
    | some (.inFront op) => do
      let (e, rest) ← Rule.unary |>.read ts.tail
      some (.unary op e, rest)
    | some .opening =>
      match readCast ts.tail with
      | some (type, rest) => do
        let (e, rest) ← Rule.unary |>.read rest
        some (.cast type e, rest)
      | none => do
        let (e, rest) ← Rule.sum |>.read ts.tail
        let rest ← expect ")" rest
        Rule.selections e |>.read rest
    | some .creation => Rule.creation |>.read ts.tail
    | some (.operand e) => Rule.selections e |>.read ts.tail
    | none => none
  | .creation => do
    let (name, rest) ← readName ts
    let (unsized, behind) := readDimensions rest
    if unsized = 0 then do
      let (es, rest) ← Rule.sizes |>.read rest
      let (unsized, rest) := readDimensions rest
      if es.isEmpty then none else some (.createArray { name } es unsized none, rest)
    else do
      let rest ← expect "\x7b" behind
      let (es, rest) ← Rule.elements |>.read rest
      Rule.selections (.createArray { name } [] unsized (some es)) |>.read rest
  | .selections array =>
    match expect "[" ts with
    | some rest => do
      let (index, rest) ← Rule.sum |>.read rest
      let rest ← expect "]" rest
      Rule.selections (.element array index) |>.read rest
    | none => some (array, ts)
  | .sizes =>
    match expect "[" ts with
    | some rest =>
      if rest.head? = some (.symbol "]") then some ([], ts)
      else do
        let (e, rest) ← Rule.sum |>.read rest
        let rest ← expect "]" rest
        let (es, rest) ← Rule.sizes |>.read rest
        some (e :: es, rest)
    | none => some ([], ts)
  | .elements =>
    match expect "\x7d" ts with
    | some rest => some ([], rest)
    | none => do
      let (e, rest) ← Rule.sum |>.read ts
      match expect "," rest with
      | some rest => do
        let (es, rest) ← Rule.elements |>.read rest
        some (e :: es, rest)
      | none => do
        let rest ← expect "\x7d" rest
        some ([e], rest)
partial_fixpoint

/-- A text read as an expression. -/
def ReadsOperand (text : String) (tree : Expression) : Prop :=
  ∃ tokens, Lexed text.toList tokens ∧ Rule.sum.read tokens = some (tree, [])

/-- Operands of names, literals, operators in front, casts, elements and array creations. -/
inductive IsOperand : Expression → Prop where
  | name {x : String} (identifier : Names.isIdentifier x = true) : IsOperand (.name x)
  | integer (value : Int32) : IsOperand (.literal (.int value))
  | boolean (value : Bool) : IsOperand (.literal (.bool value))
  | null : IsOperand (.literal .null)
  | inFront {op : UnaryOp} {e : Expression} (follows : op.follows = false) (operand : IsOperand e) :
      IsOperand (.unary op e)
  | cast {t : String} {dimensions : Nat} {e : Expression} (name : IsName t) (operand : IsOperand e) :
      IsOperand (.cast { name := t, dimensions } e)
  | element {a i : Expression} (array : IsOperand a) (index : IsOperand i) : IsOperand (.element a i)
  | sized {t : String} {sizes : List Expression} {unsized : Nat} (name : IsName t) (filled : sizes ≠ [])
      (parts : ∀ e ∈ sizes, IsOperand e) : IsOperand (.createArray { name := t } sizes unsized none)
  | listed {t : String} {unsized : Nat} {es : List Expression} (name : IsName t) (parts : ∀ e ∈ es, IsOperand e) :
      IsOperand (.createArray { name := t } [] (unsized + 1) (some es))

def negative : Expression → Bool
  | .literal (.int value) => decide (value < 0)
  | _ => false

mutual

/-- The tree as it is spelled: a negative number is the opposite of a positive one. -/
def spelled : Expression → Expression
  | .literal (.int value) =>
    if value < 0 then .unary .neg (.literal (.int (-value))) else .literal (.int value)
  | .unary op e => .unary op (spelled e)
  | .cast t e => .cast t (spelled e)
  | .element a i => .element (spelled a) (spelled i)
  | .createArray t sizes unsized elements =>
    .createArray t (allSpelled sizes) unsized (match elements with | some es => some (allSpelled es) | none => none)
  | e => e

def allSpelled : List Expression → List Expression
  | [] => []
  | e :: es => spelled e :: allSpelled es

end

/-- Whether the text of an expression begins with an operator that may also stand between or behind operands. -/
def signed : Expression → Bool
  | .unary op _ => !(op == .not || op == .bitNot)
  | e => negative e

/-- Whether an expression is an array creation that lists no elements. -/
def unlisted : Expression → Bool
  | .createArray _ _ _ none => true
  | _ => false

/-- Whether the outermost form of an expression keeps apart from its operand: no minus before a negative number, no sign
behind the name of a class in parentheses, no element of a negative number or of an array creation. -/
def apart : Expression → Bool
  | .unary .neg e => !negative e
  | .cast t e => t.isPrimitive || !signed e
  | .element a _ => !negative a && !unlisted a
  | _ => true

mutual

/-- Whether all forms in an expression keep apart from their operands. -/
def clear : Expression → Bool
  | .unary op e => apart (.unary op e) && clear e
  | .cast t e => apart (.cast t e) && clear e
  | .element a i => apart (.element a i) && clear a && clear i
  | .createArray _ sizes _ elements => allClear sizes && (match elements with | some es => allClear es | none => true)
  | _ => true

def allClear : List Expression → Bool
  | [] => true
  | e :: es => clear e && allClear es

end

/-- Whether all forms inside the outermost one keep apart from their operands. -/
def clearInside : Expression → Bool
  | .unary _ e | .cast _ e => clear e
  | .element a i => clear a && clear i
  | e => clear e

theorem clear_eq (e : Expression) : clear e = (apart e && clearInside e) := by
  cases e with
  | unary op => rw [clear, clearInside]
  | cast => rw [clear, clearInside]
  | element => rw [clear, clearInside, Bool.and_assoc]
  | _ => rfl

def dimensionTokens (count : Nat) : List Token := (List.replicate count [Token.symbol "[", .symbol "]"]).flatten

theorem readName_nameToken {t : String} (name : IsName t) (rest : List Token) :
    readName (nameToken t :: rest) = some (t, rest) := by
  obtain identifier | primitive := name
  · rw [nameToken_identifier identifier, readName]
  · rw [nameToken_primitive primitive, readName, if_pos primitive]

theorem cut_brackets (count : Nat) : Cut (brackets count) (dimensionTokens count) := by
  have pair : Cut "[]" [.symbol "[", .symbol "]"] :=
    Cut.append (cut_symbol (s := "[") (by decide)) (cut_symbol (s := "]") (by decide))
  induction count with
  | zero => exact cut_nothing
  | succ count ih =>
    have whole := pair.append ih
    simpa [brackets, dimensionTokens, List.replicate_succ] using whole

theorem readDimensions_tokens (count : Nat) {rest : List Token} (none : readDimensions rest = (0, rest)) :
    readDimensions (dimensionTokens count ++ rest) = (count, rest) := by
  induction count with
  | zero => exact none
  | succ count ih => simp [dimensionTokens, List.replicate_succ] at ih ⊢; simp [readDimensions, ih]

/-- Nothing more belongs to an operand in front of these tokens. -/
def Ended (rest : List Token) : Prop :=
  ∀ t ∈ rest.head?, t ∈ [Token.symbol ")", .symbol "]", .symbol ",", .symbol "\x7d"]

section

variable {rest : List Token}

theorem Ended.expect_bracket (ended : Ended rest) : expect "[" rest = none := by
  cases rest with
  | nil => rfl
  | cons t rest =>
    have other : Token.symbol "[" ∉ [Token.symbol ")", .symbol "]", .symbol ",", .symbol "\x7d"] := by decide
    exact expect_of_ne (ne_of_mem_of_not_mem (ended t rfl) other) rest

theorem Ended.read_terms (ended : Ended rest) (e : Expression) : (Rule.terms e).read rest = some (e, rest) := by
  have none : rest.head?.bind additive? = none := by
    cases rest with
    | nil => rfl
    | cons t rest =>
      have all : ∀ t ∈ [Token.symbol ")", .symbol "]", .symbol ",", .symbol "\x7d"], additive? t = Option.none := by
        decide
      exact all t (ended t rfl)
  rw [Rule.read, none]

theorem read_selections_of_none (none : expect "[" rest = none) (e : Expression) :
    (Rule.selections e).read rest = some (e, rest) := by
  rw [Rule.read, none]

theorem read_sizes_of_none (none : expect "[" rest = none) : Rule.sizes.read rest = some ([], rest) := by
  rw [Rule.read, none]

theorem readDimensions_of_none (none : expect "[" rest = none) : readDimensions rest = (0, rest) := by
  unfold readDimensions
  split
  · simp at none
  · rfl

theorem Ended.read_sum (ended : Ended rest) {ts : List Token} {e : Expression}
    (found : Rule.unary.read (ts ++ rest) = some (e, rest)) : Rule.sum.read (ts ++ rest) = some (e, rest) := by
  rw [Rule.read, found]
  exact ended.read_terms e

end

/-- What the first token of an operand tells. -/
structure Heads (e : Expression) (t : Token) : Prop where
  plainly : ∀ rest, beginsPlainly (t :: rest) = !signed e
  other : t ∉ [.symbol "]", .symbol "\x7d"]
  loose : strength e ≠ 15 → ∃ s, t = .symbol s

/-- The text of an operand: how it is cut, how it begins, and what it is read as. Where nothing stands in front of the
operand, the reader goes on from it to what is selected; an array creation that lists no elements takes it instead. -/
structure Shown (text : String) (e : Expression) (ts : List Token) : Prop where
  scans : Scans (· ∈ closers) text ts
  heads : ∃ t more, ts = t :: more ∧ Heads e t
  begins : (∀ op f, e ≠ .unary op f) → negative e = false → Begins text
  found : ∀ rest, Ended rest → Rule.unary.read (ts ++ rest) = some (spelled e, rest)
  goesOn : strength e = 15 → negative e = false → unlisted e = false →
    ∀ rest, Rule.unary.read (ts ++ rest) = (Rule.selections (spelled e)).read rest
  takes : unlisted e = true → ∀ rest read, Rule.unary.read (ts ++ rest) = some read → unlisted read.1 = true

section Forms

variable {place : Place} {e a i : Expression} {ts us : List Token}

theorem IsOperand.tight (operand : IsOperand e) : unaryLevel ≤ strength e := by
  cases operand with
  | inFront follows => simp [strength, follows, unaryLevel]
  | _ => simp [strength, unaryLevel, primaryLevel]

theorem expression_operand (tight : unaryLevel ≤ strength e) {required : Nat} (loose : required ≤ unaryLevel) :
    expression place required e = expression place unaryLevel e := by
  rw [expression_of_le place (Nat.le_trans loose tight), expression_of_le place tight]

theorem continuesWord_closer {c : Char} (member : c ∈ closers) : continuesWord c = false :=
  Follows.not_continuesWord (follows_closer member : Follows 0 (.name "") c)

theorem continuesNumber_closer {c : Char} (member : c ∈ closers) : continuesNumber c = false := by
  have point : c ≠ '.' := ne_of_mem_of_not_mem member (by decide)
  simp [continuesNumber, continuesWord_closer member, point]

theorem ne_unary_of_primary (primary : strength e = primaryLevel) (op : UnaryOp) (f : Expression) :
    e ≠ .unary op f := by
  rintro rfl
  rw [strength] at primary
  split at primary <;> cases primary

theorem signed_eq_negative (other : ∀ op f, e ≠ .unary op f) : signed e = negative e := by
  cases e with
  | unary op f => exact absurd rfl (other op f)
  | _ => rfl

/-- A name or a literal that is no negative number. -/
theorem shown_leaf {t : Token} (rendered : Rendered place 15 e [t]) (lead : lead? t = some (.operand e))
    (tight : strength e = 15) (same : spelled e = e) (plain : signed e = false) (listed : unlisted e = false) :
    Shown (expression place unaryLevel e) e [t] := by
  have text : expression place unaryLevel e = expression place 15 e := by
    rw [expression_of_le place (by simp [tight, unaryLevel]), tight]
  have goesOn (rest : List Token) : Rule.unary.read ([t] ++ rest) = (Rule.selections (spelled e)).read rest := by
    rw [List.singleton_append, Rule.read, List.head?_cons, Option.bind_some, lead, same]
    rfl
  rw [text]
  refine ⟨rendered.scans.mono fun c => follows_closer, ⟨t, [], rfl, ?_⟩, fun _ _ => rendered.begins (by decide),
    fun rest ended => ?_, fun _ _ _ => goesOn, fun other => by simp [listed] at other⟩
  · refine ⟨fun rest => by simp [beginsPlainly, lead, plain], fun member => ?_, fun loose => absurd tight loose⟩
    have all : ∀ t ∈ [Token.symbol "]", .symbol "\x7d"], (lead? t).isNone = true := by decide
    simpa [lead] using all t member
  · rw [goesOn, read_selections_of_none ended.expect_bracket]

theorem exists_negative {value : Int32} (below : value < 0) :
    ∃ n : Nat, n ≤ 2 ^ 31 ∧ literal (.int value) = "-" ++ toString n ∧ Int32.ofNat n = -value := by
  rw [Int32.lt_iff_toInt_lt] at below
  obtain ⟨m, shape⟩ := Int.eq_negSucc_of_lt_zero below
  refine ⟨m + 1, ?_, by rw [literal, shape]; rfl, ?_⟩
  · have := value.le_toInt
    omega
  · rw [← Int32.ofInt_toInt value, shape, ← Int32.ofInt_neg, Int.neg_negSucc, Int32.ofInt_eq_ofNat]

/-- A negative number is a sign and a numeral. -/
theorem shown_negative (place : Place) {value : Int32} (below : value < 0) :
    ∃ n, Shown (expression place unaryLevel (.literal (.int value))) (.literal (.int value))
      [.symbol "-", .integer n] := by
  obtain ⟨n, bound, text, opposite⟩ := exists_negative below
  obtain ⟨c, more, shape, digit⟩ := exists_digit n
  have minus : negative (.literal (.int value)) = true := by simp [negative, below]
  have sign : lead? (.symbol "-") = some (.inFront .neg) := rfl
  refine ⟨n, ?_, ⟨_, _, rfl, ?_⟩, fun _ other => by simp [minus] at other, fun rest ended => ?_,
    fun _ other => by simp [minus] at other, nofun⟩
  · have whole := (scans_symbol (s := "-") (by decide)).append (scans_numeral n)
      ⟨c, more, shape, joins_of_isDigit (by decide) digit⟩
    rw [expression, text]
    exact whole.mono fun c => continuesNumber_closer
  · exact ⟨fun rest => by simp [beginsPlainly, sign, signed, minus], by decide, fun _ => ⟨_, rfl⟩⟩
  · have numeral : lead? (.integer n) = some (.operand (.literal (.int (-value)))) := by
      rw [lead?, if_pos bound, opposite]
    have operand : Rule.unary.read (.integer n :: rest) = some (.literal (.int (-value)), rest) := by
      rw [Rule.read, List.head?_cons, Option.bind_some, numeral]
      exact read_selections_of_none ended.expect_bracket _
    rw [List.cons_append, Rule.read, List.head?_cons, Option.bind_some, sign]
    simp only [List.tail_cons, List.singleton_append, operand, Option.bind_eq_bind, Option.bind_some, spelled, below,
      if_true]

theorem exists_of_negative (minus : negative e = true) : ∃ value, e = .literal (.int value) ∧ value < 0 := by
  unfold negative at minus
  split at minus
  · exact ⟨_, rfl, by simpa using minus⟩
  · cases minus

/-- The operand begins with nothing that the operator before it would run into. -/
theorem gap_apart {op : UnaryOp} (follows : op.follows = false) (operand : IsOperand e)
    (shown : Shown (expression place unaryLevel e) e ts) (apart : Operands.apart (.unary op e) = true) :
    operatorGap op e = " " ∨ operatorGap op e = "" ∧
      ∃ c rest, (expression place unaryLevel e).toList = c :: rest ∧ joins op.symbol c = false := by
  by_cases minus : negative e = true
  · obtain ⟨value, rfl, below⟩ := exists_of_negative minus
    obtain ⟨n, -, text, -⟩ := exists_negative below
    refine .inr ⟨rfl, '-', (toString n).toList, by rw [expression, text]; simp, ?_⟩
    have all : ∀ op : UnaryOp, op.follows = false → op ≠ .neg → joins op.symbol '-' = false := by
      intro op
      cases op <;> decide
    refine all op follows ?_
    rintro rfl
    simp [Operands.apart, minus] at apart
  · cases operand with
    | @inFront inner f follows' =>
      cases split : Text.startsWith inner.symbol op.symbol with
      | true => exact .inl (by simp [operatorGap, follows', split])
      | false =>
        obtain ⟨c, rest, shape, separate⟩ := joins_inner follows follows' split
        have text : (expression place unaryLevel (.unary inner f)).toList = c :: (rest
            ++ (operatorGap inner f ++ expression place unaryLevel f).toList) := by
          rw [expression, if_neg (by simp [follows']), parenthesize, if_neg (by decide)]
          simp [shape]
        exact .inr ⟨by simp [operatorGap, follows', split], c, _, text, separate⟩
    | _ => exact .inr ⟨rfl, joins_of_begins (shown.begins (by rintro op f ⟨⟩) (by simpa using minus))⟩

theorem shown_inFront {op : UnaryOp} (follows : op.follows = false) (operand : IsOperand e)
    (shown : Shown (expression place unaryLevel e) e ts) (apart : Operands.apart (.unary op e) = true) :
    Shown (expression place unaryLevel (.unary op e)) (.unary op e) (.symbol op.symbol :: ts) := by
  have text : expression place unaryLevel (.unary op e)
      = op.symbol ++ operatorGap op e ++ expression place unaryLevel e := by
    rw [expression, if_neg (by simp [follows]), parenthesize, if_neg (by decide)]
  have known : op.symbol ∈ symbols := by cases op <;> decide
  have lead : lead? (.symbol op.symbol) = some (.inFront op) := by
    cases op <;> first | rfl | cases follows
  refine ⟨?_, ⟨_, _, rfl, ?_⟩, fun other => absurd rfl (other op e), fun rest ended => ?_, fun tight => ?_,
    (by rintro ⟨⟩)⟩
  · rw [text]
    have symbol := scans_symbol known
    obtain blank | ⟨none, first⟩ := gap_apart follows operand shown apart
    · rw [blank]
      exact Cut.before (symbol.blank (joins_blank _)) shown.scans
    · rw [none, String.append_empty]
      exact symbol.append shown.scans first
  · refine ⟨fun rest => by simp [beginsPlainly, lead, signed], ?_, fun _ => ⟨_, rfl⟩⟩
    cases op <;> decide
  · rw [List.cons_append, Rule.read, List.head?_cons, Option.bind_some, lead]
    simp only [List.tail_cons, shown.found rest ended, Option.bind_eq_bind, Option.bind_some, spelled]
  · simp [strength, follows, unaryLevel] at tight

theorem type_name (t : String) (dimensions : Nat) : type { name := t, dimensions } = t ++ brackets dimensions := by
  simp [type]

/-- The type of a cast with its closing parenthesis. -/
theorem cut_castType {t : String} (name : IsName t) (dimensions : Nat) :
    Cut (type { name := t, dimensions } ++ ")") (nameToken t :: (dimensionTokens dimensions ++ [.symbol ")"])) := by
  obtain ⟨c, rest, shape, closer⟩ : ∃ c rest, (brackets dimensions ++ ")").toList = c :: rest ∧ c ∈ closers := by
    cases dimensions with
    | zero => exact ⟨')', [], rfl, by decide⟩
    | succ count => exact ⟨'[', _, by simp [brackets, List.replicate_succ]; rfl, by decide⟩
  rw [type_name, String.append_assoc]
  exact (scans_name name).append ((cut_brackets dimensions).append (cut_symbol (by decide)))
    ⟨c, rest, shape, continuesWord_closer closer⟩

theorem readCast_eq {t : String} (name : IsName t) (dimensions : Nat) (rest : List Token) :
    readCast (nameToken t :: (dimensionTokens dimensions ++ .symbol ")" :: rest))
      = if JavaType.isPrimitive { name := t, dimensions } || beginsPlainly rest then
          some ({ name := t, dimensions }, rest)
        else none := by
  have ends : readDimensions (.symbol ")" :: rest) = (0, .symbol ")" :: rest) := readDimensions_of_none rfl
  have counted := readDimensions_tokens dimensions ends
  simp [readCast, readName_nameToken name, counted]

theorem scans_cast {t : String} {dimensions : Nat} (name : IsName t)
    (scans : Scans (· ∈ closers) (expression place unaryLevel e) ts) :
    Scans (· ∈ closers) (expression place unaryLevel (.cast { name := t, dimensions } e))
      (.symbol "(" :: nameToken t :: (dimensionTokens dimensions ++ .symbol ")" :: ts)) := by
  have text : expression place unaryLevel (.cast { name := t, dimensions } e)
      = "(" ++ (type { name := t, dimensions } ++ ")") ++ " " ++ expression place unaryLevel e := by
    rw [expression, parenthesize, if_neg (by decide), show ") " = ")" ++ " " from rfl]
    simp only [String.append_assoc]
  have head := ((cut_symbol (s := "(") (by decide)).append (cut_castType name dimensions)).append cut_blank
  rw [text]
  simpa using head.before scans

theorem shown_cast {t : String} {dimensions : Nat} (name : IsName t)
    (shown : Shown (expression place unaryLevel e) e ts)
    (apart : Operands.apart (.cast { name := t, dimensions } e) = true) :
    Shown (expression place unaryLevel (.cast { name := t, dimensions } e)) (.cast { name := t, dimensions } e)
      (.symbol "(" :: nameToken t :: (dimensionTokens dimensions ++ .symbol ")" :: ts)) := by
  have opening : lead? (.symbol "(") = some .opening := rfl
  refine ⟨scans_cast name shown.scans, ⟨_, _, rfl, ?_⟩, fun _ _ => ?_, fun rest ended => ?_, fun tight => ?_, nofun⟩
  · exact ⟨fun rest => by simp [beginsPlainly, opening, signed, negative], by decide, fun _ => ⟨_, rfl⟩⟩
  · exact ⟨'(', _, by simp [expression, parenthesize]; rfl, .inr (.inr rfl)⟩
  · obtain ⟨t', more, shape, heads⟩ := shown.heads
    have plain : (JavaType.isPrimitive { name := t, dimensions } || beginsPlainly (ts ++ rest)) = true := by
      rw [shape, List.cons_append, heads.plainly]
      exact apart
    have found := readCast_eq name dimensions (ts ++ rest)
    rw [if_pos plain] at found
    simp only [List.cons_append, List.append_assoc]
    rw [Rule.read, List.head?_cons, Option.bind_some, opening]
    simp only [List.tail_cons, found, shown.found rest ended, Option.bind_eq_bind, Option.bind_some, spelled]
  · simp [strength, unaryLevel] at tight

/-- What an element is selected from. -/
structure Received (text : String) (e : Expression) (ts : List Token) : Prop where
  scans : Scans (· ∈ closers) text ts
  begins : Begins text
  heads : ∃ t more, ts = t :: more ∧ (∀ rest, beginsPlainly (t :: rest) = true)
    ∧ t ∉ [Token.symbol "]", .symbol "\x7d"]
  goesOn : ∀ rest, Rule.unary.read (ts ++ rest) = (Rule.selections (spelled e)).read rest

theorem Shown.received (shown : Shown (expression place unaryLevel e) e ts) (tight : unaryLevel ≤ strength e)
    (positive : negative e = false) (listed : unlisted e = false) :
    ∃ us, Received (expression place primaryLevel e) e us := by
  obtain ⟨t, more, shape, heads⟩ := shown.heads
  by_cases primary : strength e = primaryLevel
  · have text : expression place unaryLevel e = expression place primaryLevel e := by
      rw [expression_of_le place tight, primary]
    have other := ne_unary_of_primary primary
    have plain : signed e = false := (signed_eq_negative other).trans positive
    rw [← text]
    exact ⟨ts, shown.scans, shown.begins other positive,
      ⟨t, more, shape, fun rest => by simp [heads.plainly, plain], heads.other⟩, shown.goesOn primary positive listed⟩
  · have lt : strength e < primaryLevel := Nat.lt_of_le_of_ne (strength_le e) primary
    obtain ⟨s, rfl⟩ := heads.loose primary
    subst shape
    have opening : lead? (.symbol "(") = some .opening := rfl
    rw [expression_of_lt place lt (by decide), ← expression_of_le place tight]
    refine ⟨.symbol "(" :: (.symbol s :: more ++ [.symbol ")"]), ?_, begins_parenthesis _,
      ⟨_, _, rfl, fun rest => by simp [beginsPlainly, opening], by decide⟩, fun rest => ?_⟩
    · have inner := (cut_symbol (s := "(") (by decide)).before shown.scans
      have whole := inner.append (cut_symbol (s := ")") (by decide)) ⟨')', [], rfl, by decide⟩
      exact whole.mono fun _ _ => trivial
    · have ended : Ended (.symbol ")" :: rest) := by simp [Ended]
      have inside := ended.read_sum (shown.found _ ended)
      have noCast : readCast (.symbol s :: more ++ .symbol ")" :: rest) = none := rfl
      rw [List.cons_append, List.append_assoc, List.singleton_append, Rule.read, List.head?_cons, Option.bind_some,
        opening]
      simp only [List.tail_cons, noCast, inside, Option.bind_eq_bind, Option.bind_some, expect_symbol]

theorem scans_element (array : Scans (· ∈ closers) (expression place primaryLevel a) ts)
    (index : Scans (· ∈ closers) (expression place unaryLevel i) us) (tight : unaryLevel ≤ strength i) :
    Scans (· ∈ closers) (expression place unaryLevel (.element a i)) (ts ++ .symbol "[" :: (us ++ [.symbol "]"])) := by
  have text : expression place unaryLevel (.element a i)
      = expression place primaryLevel a ++ "[" ++ (expression place unaryLevel i ++ "]") := by
    rw [expression, expression_operand tight (Nat.zero_le _), String.append_assoc]
  have opened := array.append (cut_symbol (s := "[") (by decide)) ⟨'[', [], rfl, by decide⟩
  have closed := index.append (cut_symbol (s := "]") (by decide)) ⟨']', [], rfl, by decide⟩
  rw [text, List.append_cons]
  exact (Cut.append opened closed).mono fun _ _ => trivial

theorem shown_element (received : Received (expression place primaryLevel a) a ts)
    (shown : Shown (expression place unaryLevel i) i us) (tight : unaryLevel ≤ strength i) :
    Shown (expression place unaryLevel (.element a i)) (.element a i) (ts ++ .symbol "[" :: (us ++ [.symbol "]"])) := by
  obtain ⟨t, more, shape, plainly, other⟩ := received.heads
  have goesOn (rest : List Token) : Rule.unary.read (ts ++ .symbol "[" :: (us ++ [.symbol "]"]) ++ rest)
      = (Rule.selections (spelled (.element a i))).read rest := by
    have ended : Ended (.symbol "]" :: rest) := by simp [Ended]
    have index := ended.read_sum (shown.found _ ended)
    rw [List.append_assoc, received.goesOn, Rule.read]
    simp only [List.cons_append, List.append_assoc, List.nil_append, expect_symbol, index, Option.bind_eq_bind,
      Option.bind_some, spelled]
  refine ⟨scans_element received.scans shown.scans tight, ⟨t, _, by rw [shape]; rfl, ?_⟩, fun _ _ => ?_,
    fun rest ended => ?_, fun _ _ _ => goesOn, nofun⟩
  · exact ⟨fun rest => by simp [plainly, signed, negative], other, fun loose => absurd rfl loose⟩
  · rw [expression]
    exact ((received.begins.append _).append _).append _
  · rw [goesOn, read_selections_of_none ended.expect_bracket]

/-- Sizes in brackets are read up to the first pair of brackets without one. -/
theorem exists_sizes {sizes : List Expression} (tight : ∀ e ∈ sizes, unaryLevel ≤ strength e)
    (parts : ∀ e ∈ sizes, ∃ ts, Shown (expression place unaryLevel e) e ts) :
    ∃ us, Cut (String.join ((expressions place 0 sizes).map fun size => "[" ++ size ++ "]")) us
      ∧ (sizes ≠ [] → ∃ t more, us = .symbol "[" :: t :: more ∧ t ≠ .symbol "]")
      ∧ ∀ rest, Rule.sizes.read rest = some ([], rest) → Rule.sizes.read (us ++ rest) = some (allSpelled sizes, rest) := by
  induction sizes with
  | nil => exact ⟨[], cut_nothing, fun other => absurd rfl other, fun rest none => none⟩
  | cons e sizes ih =>
    obtain ⟨ts, shown⟩ := parts e List.mem_cons_self
    obtain ⟨us, cut, -, found⟩ := ih (fun e member => tight e (List.mem_cons_of_mem _ member))
      fun e member => parts e (List.mem_cons_of_mem _ member)
    obtain ⟨t, more, rfl, heads⟩ := shown.heads
    have other : t ≠ .symbol "]" := fun same => heads.other (by simp [same])
    refine ⟨.symbol "[" :: (t :: more ++ [.symbol "]"]) ++ us, ?_, fun _ => ⟨t, _, rfl, other⟩, fun rest none => ?_⟩
    · have inner := (cut_symbol (s := "[") (by decide)).before shown.scans
      have size : Cut _ _ := inner.append (cut_symbol (s := "]") (by decide)) ⟨']', [], rfl, by decide⟩
      rw [expressions, expression_operand (tight e List.mem_cons_self) (Nat.zero_le _)]
      simpa using size.append cut
    · have ended : Ended (.symbol "]" :: (us ++ rest)) := by simp [Ended]
      have size := ended.read_sum (shown.found _ ended)
      have filled : (t :: more ++ .symbol "]" :: (us ++ rest)).head? ≠ some (.symbol "]") := by simpa using other
      simp only [List.cons_append, List.append_assoc, List.nil_append] at size filled ⊢
      rw [Rule.read, expect_symbol]
      simp only [if_neg filled, size, Option.bind_eq_bind, Option.bind_some, expect_symbol, found rest none, allSpelled]

/-- The elements of an array are read up to the closing brace. -/
theorem exists_elements {es : List Expression} (tight : ∀ e ∈ es, unaryLevel ≤ strength e)
    (parts : ∀ e ∈ es, ∃ ts, Shown (expression place unaryLevel e) e ts) :
    ∃ us, Cut (commas (expressions place assignLevel es) ++ "\x7d") us
      ∧ ∀ rest, Rule.elements.read (us ++ rest) = some (allSpelled es, rest) := by
  have closing : Cut "\x7d" [.symbol "\x7d"] := cut_symbol (by decide)
  induction es with
  | nil =>
    refine ⟨[.symbol "\x7d"], by simpa [commas, expressions] using closing, fun rest => ?_⟩
    rw [List.singleton_append, Rule.read, expect_symbol, allSpelled]
  | cons e es ih =>
    obtain ⟨ts, shown⟩ := parts e List.mem_cons_self
    obtain ⟨us, cut, found⟩ := ih (fun e member => tight e (List.mem_cons_of_mem _ member))
      fun e member => parts e (List.mem_cons_of_mem _ member)
    obtain ⟨t, more, rfl, heads⟩ := shown.heads
    have other : t ≠ .symbol "\x7d" := fun same => heads.other (by simp [same])
    have alone : expression place assignLevel e = expression place unaryLevel e :=
      expression_operand (tight e List.mem_cons_self) (by decide)
    cases es with
    | nil =>
      refine ⟨t :: more ++ [.symbol "\x7d"], ?_, fun rest => ?_⟩
      · have last := shown.scans.append closing ⟨'\x7d', [], rfl, by decide⟩
        simpa [commas, expressions, alone] using last
      · have ended : Ended (.symbol "\x7d" :: rest) := by simp [Ended]
        have last := ended.read_sum (shown.found _ ended)
        have noComma : expect "," (.symbol "\x7d" :: rest) = none := expect_of_ne (by decide) rest
        simp only [List.cons_append, List.append_assoc, List.nil_append] at last ⊢
        rw [Rule.read, expect_of_ne other]
        simp only [last, noComma, Option.bind_eq_bind, Option.bind_some, expect_symbol, allSpelled]
    | cons f es =>
      refine ⟨t :: more ++ .symbol "," :: us, ?_, fun rest => ?_⟩
      · have text : commas (expressions place assignLevel (e :: f :: es)) ++ "\x7d"
            = expression place unaryLevel e ++ "," ++ " "
              ++ (commas (expressions place assignLevel (f :: es)) ++ "\x7d") := by
          simp [commas, expressions, String.intercalate_cons_cons, String.append_assoc, alone]
        have comma := shown.scans.append (cut_symbol (s := ",") (by decide)) ⟨',', [], rfl, by decide⟩
        rw [text, List.append_cons]
        exact Cut.append (comma.blank trivial) cut
      · have ended : Ended (.symbol "," :: (us ++ rest)) := by simp [Ended]
        have first := ended.read_sum (shown.found _ ended)
        simp only [List.cons_append, List.append_assoc] at first ⊢
        rw [Rule.read, expect_of_ne other]
        simp only [first, Option.bind_eq_bind, Option.bind_some, expect_symbol, found rest]
        rfl

theorem read_unary_new (rest : List Token) : Rule.unary.read (.keyword "new" :: rest) = Rule.creation.read rest := by
  have lead : lead? (.keyword "new") = some .creation := rfl
  rw [Rule.read, List.head?_cons, Option.bind_some, lead]
  rfl

theorem heads_new {t : JavaType} {sizes : List Expression} {unsized : Nat} {elements : Option (List Expression)} :
    Heads (.createArray t sizes unsized elements) (.keyword "new") := by
  have lead : lead? (.keyword "new") = some .creation := rfl
  exact ⟨fun rest => by simp [beginsPlainly, lead, signed, negative], by decide, fun loose => absurd rfl loose⟩

theorem read_sizes_dimensions (count : Nat) {rest : List Token} (none : expect "[" rest = none) :
    Rule.sizes.read (dimensionTokens count ++ rest) = some ([], dimensionTokens count ++ rest) := by
  cases count with
  | zero => exact read_sizes_of_none none
  | succ count =>
    simp only [dimensionTokens, List.replicate_succ, List.flatten_cons, List.cons_append]
    rw [Rule.read, expect_symbol]
    rfl

theorem readDimensions_of_size {t : Token} (other : t ≠ .symbol "]") (rest : List Token) :
    readDimensions (.symbol "[" :: t :: rest) = (0, .symbol "[" :: t :: rest) := by
  unfold readDimensions
  split
  next same => simp_all
  next => rfl

theorem shown_sized {t : String} {sizes : List Expression} {unsized : Nat} (name : IsName t) (filled : sizes ≠ [])
    (tight : ∀ e ∈ sizes, unaryLevel ≤ strength e)
    (parts : ∀ e ∈ sizes, ∃ ts, Shown (expression place unaryLevel e) e ts) :
    ∃ us, Shown (expression place unaryLevel (.createArray { name := t } sizes unsized none))
      (.createArray { name := t } sizes unsized none) us := by
  obtain ⟨us, cut, first, found⟩ := exists_sizes tight parts
  obtain ⟨u, more, shape, other⟩ := first filled
  have text : expression place unaryLevel (.createArray { name := t } sizes unsized none)
      = "new " ++ (t ++ (String.join ((expressions place 0 sizes).map fun size => "[" ++ size ++ "]")
        ++ brackets unsized)) := by
    simp [expression, type_name, brackets, String.append_assoc]
  have begins : ∃ c rest, (String.join ((expressions place 0 sizes).map fun size => "[" ++ size ++ "]")
      ++ brackets unsized).toList = c :: rest ∧ continuesWord c = false := by
    obtain ⟨e, rest, rfl⟩ := List.exists_cons_of_ne_nil filled
    exact ⟨'[', _, by simp [expressions]; rfl, continuesWord_closer (by decide)⟩
  have noPair (rest : List Token) : readDimensions (us ++ rest) = (0, us ++ rest) := by
    rw [shape]
    exact readDimensions_of_size other _
  refine ⟨.keyword "new" :: nameToken t :: (us ++ dimensionTokens unsized), ?_, ⟨_, _, rfl, heads_new⟩, fun _ _ => ?_,
    fun rest ended => ?_, (by rintro _ _ ⟨⟩), fun _ rest read found => ?_⟩
  · have word := cut_word "new" (by decide) (by decide) gap_blank
    have named := (scans_name name).append (cut.append (cut_brackets unsized)) begins
    rw [text]
    exact (word.append named).mono fun _ _ => trivial
  · rw [text]
    exact ⟨'n', _, by simp; rfl, .inl ((startsWord_of_small (by decide)).trans (by decide))⟩
  · have sized := found _ (read_sizes_dimensions unsized ended.expect_bracket)
    have counted := readDimensions_tokens unsized (readDimensions_of_none ended.expect_bracket)
    have some : (allSpelled sizes).isEmpty = false := by
      obtain ⟨e, rest, rfl⟩ := List.exists_cons_of_ne_nil filled
      rfl
    simp only [List.cons_append, List.append_assoc]
    rw [read_unary_new, Rule.read]
    simp only [readName_nameToken name, noPair, sized, counted, some, Option.bind_eq_bind, Option.bind_some, if_true,
      Bool.false_eq_true, if_false, spelled]
  · simp only [List.cons_append, List.append_assoc] at found
    rw [read_unary_new, Rule.read] at found
    simp only [readName_nameToken name, noPair, Option.bind_eq_bind, Option.bind_some, if_true] at found
    obtain ⟨⟨taken, behind⟩, -, found⟩ := Option.bind_eq_some_iff.1 found
    simp only at found
    split at found
    · cases found
    · obtain rfl := Option.some.inj found
      rfl

theorem shown_listed {t : String} {unsized : Nat} {es : List Expression} (name : IsName t)
    (tight : ∀ e ∈ es, unaryLevel ≤ strength e)
    (parts : ∀ e ∈ es, ∃ ts, Shown (expression place unaryLevel e) e ts) :
    ∃ us, Shown (expression place unaryLevel (.createArray { name := t } [] (unsized + 1) (some es)))
      (.createArray { name := t } [] (unsized + 1) (some es)) us := by
  obtain ⟨us, cut, found⟩ := exists_elements tight parts
  have text : expression place unaryLevel (.createArray { name := t } [] (unsized + 1) (some es))
      = "new " ++ (t ++ (brackets (unsized + 1) ++ " " ++ "\x7b"
        ++ (commas (expressions place assignLevel es) ++ "\x7d"))) := by
    simp [expression, expressions, type_name, brackets, String.append_assoc]
  have goesOn (rest : List Token) : Rule.unary.read (.keyword "new" :: nameToken t ::
        (dimensionTokens (unsized + 1) ++ .symbol "\x7b" :: us) ++ rest)
      = (Rule.selections (spelled (.createArray { name := t } [] (unsized + 1) (some es)))).read rest := by
    have ends : readDimensions (.symbol "\x7b" :: (us ++ rest)) = (0, .symbol "\x7b" :: (us ++ rest)) :=
      readDimensions_of_none rfl
    have counted := readDimensions_tokens (unsized + 1) ends
    simp only [List.cons_append, List.append_assoc]
    rw [read_unary_new, Rule.read]
    simp only [readName_nameToken name, counted, found, expect_symbol, Option.bind_eq_bind, Option.bind_some,
      Nat.succ_ne_zero, if_false, spelled, allSpelled]
  refine ⟨.keyword "new" :: nameToken t :: (dimensionTokens (unsized + 1) ++ .symbol "\x7b" :: us), ?_,
    ⟨_, _, rfl, heads_new⟩, fun _ _ => ?_, fun rest ended => ?_, fun _ _ _ => goesOn, (by rintro ⟨⟩)⟩
  · have word := cut_word "new" (by decide) (by decide) gap_blank
    have opening : Cut "\x7b" [.symbol "\x7b"] := cut_symbol (by decide)
    have listed := (((cut_brackets (unsized + 1)).append cut_blank).append opening).append cut
    have named := (scans_name name).append listed
      ⟨'[', _, by simp [brackets, List.replicate_succ]; rfl, continuesWord_closer (by decide)⟩
    rw [text]
    have whole := Cut.append word named
    exact (by simpa using whole : Cut _ _).mono fun _ _ => trivial
  · rw [text]
    exact ⟨'n', _, by simp; rfl, .inl ((startsWord_of_small (by decide)).trans (by decide))⟩
  · rw [goesOn, read_selections_of_none ended.expect_bracket]

end Forms

theorem allClear_iff (es : List Expression) : allClear es = true ↔ ∀ e ∈ es, clear e = true := by
  induction es with
  | nil => simp [allClear]
  | cons e es ih => simp [allClear, ih]

/-- Where all forms keep apart from their operands the text is read back. -/
theorem IsOperand.shown (place : Place) {e : Expression} (operand : IsOperand e) (tidy : clear e = true) :
    ∃ ts, Shown (expression place unaryLevel e) e ts := by
  induction operand with
  | name identifier => exact ⟨_, shown_leaf (rendered_name identifier) rfl rfl rfl rfl rfl⟩
  | integer value =>
    by_cases below : value < 0
    · obtain ⟨n, shown⟩ := shown_negative place below
      exact ⟨_, shown⟩
    · have natural : 0 ≤ value := Int32.not_lt.1 below
      have lead : lead? (.integer value.toNatClampNeg) = some (.operand (.literal (.int value))) := by
        rw [lead?, if_pos (Nat.le_of_lt value.toNatClampNeg_lt), Int32.ofNat_toNatClampNeg value natural]
      exact ⟨_, shown_leaf (rendered_integer natural) lead rfl (by simp [spelled, below])
        (by simp [signed, negative, below]) rfl⟩
  | boolean value =>
    cases value with
    | true => exact ⟨_, shown_leaf (rendered_word (by decide) (by decide) (.boolean true)) rfl rfl rfl rfl rfl⟩
    | false => exact ⟨_, shown_leaf (rendered_word (by decide) (by decide) (.boolean false)) rfl rfl rfl rfl rfl⟩
  | null => exact ⟨_, shown_leaf (rendered_word (by decide) (by decide) .null) rfl rfl rfl rfl rfl⟩
  | inFront follows operand ih =>
    rw [clear, Bool.and_eq_true] at tidy
    obtain ⟨ts, shown⟩ := ih tidy.2
    exact ⟨_, shown_inFront follows operand shown tidy.1⟩
  | cast name _ ih =>
    rw [clear, Bool.and_eq_true] at tidy
    obtain ⟨ts, shown⟩ := ih tidy.2
    exact ⟨_, shown_cast name shown tidy.1⟩
  | @element a i array index ihArray ihIndex =>
    rw [clear, Bool.and_eq_true, Bool.and_eq_true] at tidy
    obtain ⟨⟨apart, first⟩, second⟩ := tidy
    obtain ⟨positive, listed⟩ : negative a = false ∧ unlisted a = false := by simpa [Operands.apart] using apart
    obtain ⟨ts, shown⟩ := ihArray first
    obtain ⟨us, shown'⟩ := ihIndex second
    obtain ⟨vs, received⟩ := shown.received array.tight positive listed
    exact ⟨_, shown_element received shown' index.tight⟩
  | sized name filled parts ih =>
    have sizes := (allClear_iff _).1 (by simpa [clear] using tidy)
    exact shown_sized name filled (fun e member => (parts e member).tight) fun e member => ih e member (sizes e member)
  | listed name parts ih =>
    have elements := (allClear_iff _).1 (by simpa [clear, allClear] using tidy)
    exact shown_listed name (fun e member => (parts e member).tight) fun e member => ih e member (elements e member)

/-- What terms and selections make of the operand in front of them keeps a property of it. -/
def Rule.Keeps (P Q : Expression → Prop) {α : Type} (rule : Rule α) (read : α) : Prop :=
  match rule with
  | .terms left => P left → P read
  | .selections array => Q array → Q read
  | _ => True

/-- Terms and selections behind an operand only make sums and elements of it. -/
theorem Rule.keeps {P Q : Expression → Prop} (sum : ∀ op a b, P (.binary op a b))
    (selection : ∀ a i, Q (.element a i)) {α : Type} {rule : Rule α} {ts : List Token} {read : α × List Token}
    (found : rule.read ts = some read) : rule.Keeps P Q read.1 := by
  refine Rule.read.partial_correctness (fun rule _ read => rule.Keeps P Q read.1) ?_ rule ts read found
  intro again keeps α rule ts read found
  cases rule with
  | terms left =>
    intro start
    simp only at found
    split at found
    next op _ =>
      obtain ⟨⟨right, rest⟩, -, found⟩ := Option.bind_eq_some_iff.1 found
      exact keeps _ _ _ found (sum op left right)
    next =>
      obtain rfl := Option.some.inj found
      exact start
  | selections array =>
    intro start
    simp only at found
    split at found
    next =>
      obtain ⟨⟨index, rest⟩, -, found⟩ := Option.bind_eq_some_iff.1 found
      obtain ⟨rest, -, found⟩ := Option.bind_eq_some_iff.1 found
      exact keeps _ _ _ found (selection array index)
    next =>
      obtain rfl := Option.some.inj found
      exact start
  | _ => trivial

theorem of_read_sum {P : Expression → Prop} (sum : ∀ op a b, P (.binary op a b)) {ts : List Token}
    (start : ∀ read, Rule.unary.read ts = some read → P read.1) {read : Expression × List Token}
    (found : Rule.sum.read ts = some read) : P read.1 := by
  rw [Rule.read] at found
  obtain ⟨⟨e, rest⟩, first, found⟩ := Option.bind_eq_some_iff.1 found
  exact Rule.keeps (Q := fun _ => True) sum (fun _ _ => trivial) found (start _ first)

theorem of_read_selections {P : Expression → Prop} (selection : ∀ a i, P (.element a i)) {e : Expression}
    {ts : List Token} {read : Expression × List Token} (found : (Rule.selections e).read ts = some read) (start : P e) :
    P read.1 :=
  Rule.keeps (P := fun _ => True) (fun _ _ _ => trivial) selection found start

/-- The text is cut into tokens that are not read as the expression. -/
def Lost (place : Place) (e : Expression) : Prop :=
  ∃ tokens, Lexed (expression place unaryLevel e).toList tokens
    ∧ ∀ read, Rule.sum.read tokens = some read → read.1 ≠ spelled e

section Losses

variable {place : Place} {e a i : Expression} {ts us : List Token}

theorem read_unary_inFront {t : Token} {op : UnaryOp} (lead : lead? t = some (.inFront op)) {rest : List Token}
    {read : Expression × List Token} (found : Rule.unary.read (t :: rest) = some read) : ∃ f, read.1 = .unary op f := by
  rw [Rule.read, List.head?_cons, Option.bind_some, lead] at found
  obtain ⟨⟨f, rest⟩, -, found⟩ := Option.bind_eq_some_iff.1 found
  obtain rfl := Option.some.inj found
  exact ⟨f, rfl⟩

/-- The minus in front of a negative number becomes a step. -/
theorem lost_opposite {value : Int32} (below : value < 0) : Lost place (.unary .neg (.literal (.int value))) := by
  obtain ⟨n, -, text, -⟩ := exists_negative below
  obtain ⟨c, rest, shape, digit⟩ := exists_digit n
  have whole : expression place unaryLevel (.unary .neg (.literal (.int value))) = "--" ++ toString n := by
    have number : expression place unaryLevel (.literal (.int value)) = "-" ++ toString n := by rw [expression, text]
    rw [expression, if_neg (by decide), parenthesize, if_neg (by decide), number, ← String.append_assoc]
    rfl
  have scans := (scans_symbol (s := "--") (by decide)).append (scans_numeral n)
    ⟨c, rest, shape, joins_of_isDigit (by decide) digit⟩
  have step : lead? (.symbol "--") = some (.inFront .preDec) := rfl
  refine ⟨[.symbol "--", .integer n], whole ▸ scans.lexed, fun read found same => ?_⟩
  refine of_read_sum (P := fun e => ∀ f, e ≠ .unary .neg f) (by rintro _ _ _ _ ⟨⟩) (fun read first f => ?_) found _ same
  obtain ⟨g, shape⟩ := read_unary_inFront step first
  rw [shape]
  rintro ⟨⟩

/-- The name of a class in parentheses is an operand of its own in front of a sign. -/
theorem lost_cast {t : String} {dimensions : Nat} (name : IsName t)
    (shown : Shown (expression place unaryLevel e) e ts)
    (runs : apart (.cast { name := t, dimensions } e) = false) : Lost place (.cast { name := t, dimensions } e) := by
  refine ⟨_, (scans_cast name shown.scans).lexed, fun read found same => ?_⟩
  refine of_read_sum (P := fun e => ∀ t f, e ≠ .cast t f) nofun (fun read first => ?_) found _ _ same
  obtain ⟨u, more, shape, heads⟩ := shown.heads
  have sign : (JavaType.isPrimitive { name := t, dimensions } || beginsPlainly ts) = false := by
    rw [shape, heads.plainly]
    exact runs
  have noCast := readCast_eq name dimensions ts
  rw [sign] at noCast
  have opening : lead? (.symbol "(") = some .opening := rfl
  rw [Rule.read, List.head?_cons, Option.bind_some, opening] at first
  simp only [List.tail_cons, noCast, Bool.false_eq_true, if_false] at first
  obtain ⟨⟨inside, rest⟩, first, found⟩ := Option.bind_eq_some_iff.1 first
  obtain ⟨rest, -, found⟩ := Option.bind_eq_some_iff.1 found
  refine of_read_selections (P := fun e => ∀ t f, e ≠ .cast t f) nofun found ?_
  refine of_read_sum (P := fun e => ∀ t f, e ≠ .cast t f) nofun (fun read start => ?_) first
  obtain identifier | primitive := name
  · have lead : lead? (nameToken t) = some (.operand (.name t)) := by
      rw [nameToken_identifier identifier, lead?]
    rw [Rule.read, List.head?_cons, Option.bind_some, lead] at start
    exact of_read_selections (P := fun e => ∀ t f, e ≠ .cast t f) nofun start nofun
  · have none : ∀ t ∈ JavaType.primitives, (lead? (nameToken t)).isNone = true := by decide
    rw [Rule.read, List.head?_cons, Option.bind_some, Option.isNone_iff_eq_none.1 (none t primitive)] at start
    cases start

theorem lost_element (array : Scans (· ∈ closers) (expression place primaryLevel a) ts)
    (shown : Shown (expression place unaryLevel i) i us) (tight : unaryLevel ≤ strength i)
    (taken : ∀ rest read, Rule.unary.read (ts ++ rest) = some read → ∀ b j, read.1 ≠ .element b j) :
    Lost place (.element a i) := by
  refine ⟨_, (scans_element array shown.scans tight).lexed, fun read found same => ?_⟩
  exact of_read_sum (P := fun e => ∀ b j, e ≠ .element b j) nofun (taken _) found _ _ same

theorem IsOperand.lost (place : Place) (operand : IsOperand e) (inside : clearInside e = true)
    (runs : apart e = false) : Lost place e := by
  cases operand with
  | @inFront op f follows operand =>
    have minus : op = .neg ∧ negative f = true := by
      cases op <;> simp_all [apart]
    obtain ⟨rfl, minus⟩ := minus
    obtain ⟨value, rfl, below⟩ := exists_of_negative minus
    exact lost_opposite below
  | cast name operand =>
    obtain ⟨ts, shown⟩ := operand.shown place inside
    exact lost_cast name shown runs
  | @element a i array index =>
    rw [clearInside, Bool.and_eq_true] at inside
    obtain ⟨ts, shown⟩ := array.shown place inside.1
    obtain ⟨us, shown'⟩ := index.shown place inside.2
    by_cases minus : negative a = true
    · obtain ⟨value, rfl, below⟩ := exists_of_negative minus
      obtain ⟨n, shown⟩ := shown_negative place below
      refine lost_element shown.scans shown' index.tight fun rest read found b j => ?_
      have sign : lead? (.symbol "-") = some (.inFront .neg) := rfl
      obtain ⟨f, shape⟩ := read_unary_inFront sign found
      rw [shape]
      nofun
    · have creation : unlisted a = true := by simpa [apart, minus] using runs
      have primary : strength a = primaryLevel := by
        unfold unlisted at creation
        split at creation
        · rfl
        · cases creation
      have text : expression place primaryLevel a = expression place unaryLevel a := by
        rw [expression_of_le place array.tight, primary]
      refine lost_element (text ▸ shown.scans) shown' index.tight fun rest read found b j same => ?_
      have kept := shown.takes creation rest read found
      rw [same] at kept
      cases kept
  | _ => cases runs

end Losses

/-- An expression whose parts keep apart from their operands is read back, and read as nothing else, exactly if it keeps
apart from its operand itself. -/
theorem printExpression_reads_iff (settings : Settings) {e : Expression} (operand : IsOperand e)
    (inside : clearInside e = true) :
    (∀ tree, ReadsOperand (printExpression settings e) tree ↔ tree = spelled e) ↔ apart e = true := by
  have text : printExpression settings e = expression { settings } unaryLevel e :=
    expression_operand operand.tight (Nat.zero_le _)
  rw [text]
  constructor
  · intro faithful
    obtain ⟨tokens, lexed, found⟩ := (faithful _).2 rfl
    cases runs : apart e with
    | true => rfl
    | false =>
      obtain ⟨tokens', lexed', other⟩ := operand.lost { settings } inside runs
      rw [lexed.unique lexed'] at found
      exact absurd rfl (other _ found)
  · intro apart tree
    obtain ⟨ts, shown⟩ := operand.shown { settings } (by rw [clear_eq, apart, inside]; rfl)
    have ended : Ended [] := nofun
    have found : Rule.sum.read ts = some (spelled e, []) := by
      simpa using ended.read_sum (by simpa using shown.found [] ended)
    constructor
    · rintro ⟨tokens, lexed, read⟩
      rw [lexed.unique shown.scans.lexed, found] at read
      exact (Prod.mk.inj (Option.some.inj read)).1.symm
    · rintro rfl
      exact ⟨ts, shown.scans.lexed, found⟩

example : printExpression {} (.unary .neg (.literal (.int (-5)))) = "--5" := by decide

example : printExpression {} (.cast (.named "Foo") (.unary .neg (.name "x"))) = "(Foo) -x" := by decide

example : printExpression {} (.element (.createArray (.named "int") [.literal (.int 3)] 0 none) (.literal (.int 0)))
    = "new int[3][0]" := by decide

end Operands

end JavaWeave.Layout
