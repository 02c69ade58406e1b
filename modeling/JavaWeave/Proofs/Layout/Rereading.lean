import JavaWeave.Layout.Source
import JavaWeave.Proofs.Layout.Lexing
import JavaWeave.Proofs.Layout.Unambiguous

/-! The text of an expression is read back as that expression and as no other: every operand is set at a
strength that the grammar asks for in its place, and no two tokens of the text run together. -/

namespace JavaWeave.Layout

open Syntax Grammar

/-- A simple or dotted name of a type. -/
inductive IsTypeName : String → Prop where
  | simple {x : String} (identifier : Names.isIdentifier x = true) : IsTypeName x
  | dotted {x name : String} (identifier : Names.isIdentifier x = true) (inner : IsTypeName name) :
      IsTypeName (x ++ "." ++ name)

/-- Expressions of names, literals, selections, calls and operators. A point behind a numeral would belong to
the number, so none is selected from. -/
inductive Plain : Expression → Prop where
  | name {x : String} (identifier : Names.isIdentifier x = true) : Plain (.name x)
  | integer {value : Int32} (natural : 0 ≤ value) : Plain (.literal (.int value))
  | boolean (value : Bool) : Plain (.literal (.bool value))
  | null : Plain (.literal .null)
  | field {e : Expression} {x : String} (receiver : Plain e) (other : ∀ value, e ≠ .literal (.int value))
      (identifier : Names.isIdentifier x = true) : Plain (.field e x)
  | element {e i : Expression} (array : Plain e) (index : Plain i) : Plain (.element e i)
  | call {x : String} {es : List Expression} (identifier : Names.isIdentifier x = true)
      (arguments : ∀ e ∈ es, Plain e) : Plain (.call none x [] es)
  | callOn {e : Expression} {x : String} {es : List Expression} (receiver : Plain e)
      (other : ∀ value, e ≠ .literal (.int value)) (identifier : Names.isIdentifier x = true)
      (arguments : ∀ e ∈ es, Plain e) : Plain (.call (some e) x [] es)
  | binary {op : BinaryOp} {a b : Expression} (left : Plain a) (right : Plain b) : Plain (.binary op a b)
  | unary {op : UnaryOp} {e : Expression} (operand : Plain e) : Plain (.unary op e)
  | instanceOf {e : Expression} {name : String} (operand : Plain e) (type : IsTypeName name) :
      Plain (.instanceOf e { name })
  | conditional {c a b : Expression} (condition : Plain c) (whenTrue : Plain a) (whenFalse : Plain b) :
      Plain (.conditional c a b)
  | assign {op : Option BinaryOp} {a b : Expression} (known : ∀ o ∈ op, o ∈ compound) (target : Plain a)
      (value : Plain b) : Plain (.assign op a b)

theorem strength_le (e : Expression) : strength e ≤ 15 := by
  cases e with
  | binary op =>
    have := precedence_bounds op
    simp only [strength]
    omega
  | unary op => simp only [strength]; split <;> decide
  | _ => simp [strength, assignLevel, conditionalLevel, relationalLevel, unaryLevel, primaryLevel]

/-- What the required strength changes about a text is a pair of parentheses. -/
theorem expression_eq (place : Place) {required : Nat} (small : required ≤ 15) (e : Expression) :
    expression place required e = parenthesize (strength e) required (expression place 0 e) := by
  have outermost (level : Nat) (text : String) :
      parenthesize level required text = parenthesize level required (parenthesize level 0 text) :=
    congrArg (parenthesize level required) (if_neg (Nat.not_lt_zero level)).symm
  have primary (text : String) : text = parenthesize primaryLevel required text :=
    (if_neg (by simp only [primaryLevel]; omega)).symm
  cases e with
  | binary | assign | instanceOf | cast | conditional => exact outermost _ _
  | unary op operand =>
    cases follows : op.follows with
    | true =>
      have written (required : Nat) : expression place required (.unary op operand) =
          parenthesize stepLevel required (expression place stepLevel operand ++ op.symbol) := if_pos follows
      rw [written, written 0, show strength (.unary op operand) = stepLevel from if_pos follows]
      exact outermost _ _
    | false =>
      have written (required : Nat) : expression place required (.unary op operand) =
          parenthesize unaryLevel required
            (op.symbol ++ operatorGap op operand ++ expression place unaryLevel operand) := if_neg (by simp [follows])
      rw [written, written 0, show strength (.unary op operand) = unaryLevel from if_neg (by simp [follows])]
      exact outermost _ _
  | call part | create _ _ part | createArray _ _ _ part => cases part <;> exact primary _
  | _ => exact primary _

theorem expression_of_le (place : Place) {required : Nat} {e : Expression} (le : required ≤ strength e) :
    expression place required e = expression place (strength e) e := by
  have small := strength_le e
  rw [expression_eq place (by omega), expression_eq place small, parenthesize, parenthesize,
    if_neg (by omega), if_neg (by omega)]

theorem expression_of_lt (place : Place) {required : Nat} {e : Expression} (lt : strength e < required)
    (small : required ≤ 15) :
    expression place required e = "(" ++ expression place (strength e) e ++ ")" := by
  rw [expression_eq place small, expression_eq place (strength_le e), parenthesize, parenthesize,
    if_pos lt, if_neg (by omega)]

theorem Grammar.Derives.loosen {ts : List Token} {level tight : Nat} {e : Expression} (le : level ≤ tight)
    (derived : Derives ts (.expression tight e)) : Derives ts (.expression level e) := by
  induction le with
  | refl => exact derived
  | step _ ih => exact ih derived.tighter

/-- The characters that come behind an expression. -/
def closers : List Char := [' ', ')', ']', ',', '[', '+', '-', ';', '\x7d']

/-- What may come behind an expression in a place of some strength: behind a primary also a point, unless it is
a numeral. -/
def Follows (required : Nat) (e : Expression) (c : Char) : Prop :=
  c ∈ closers ∨ c = '.' ∧ required = primaryLevel ∧ ∀ value, e ≠ .literal (.int value)

theorem Follows.not_continuesWord {required : Nat} {e : Expression} {c : Char} (follows : Follows required e c) :
    continuesWord c = false := by
  have all : ∀ c ∈ '.' :: closers, continuesWord c = false := by
    simp only [closers, List.forall_mem_cons]
    refine ⟨?_, ?_, ?_, ?_, ?_, ?_, ?_, ?_, ?_, ?_, nofun⟩ <;>
      exact (continuesWord_of_small (by decide)).trans (by decide)
  obtain member | ⟨rfl, -⟩ := follows
  · exact all c (List.mem_cons_of_mem _ member)
  · exact all '.' (by simp)

theorem follows_closer {required : Nat} {e : Expression} {c : Char} (member : c ∈ closers) :
    Follows required e c := .inl member

/-- What may come behind a form looser than a primary may come behind any expression. -/
theorem Follows.loose {required : Nat} {e : Expression} {c : Char} (follows : Follows required e c)
    (loose : required < 15) {other : Nat} {f : Expression} : Follows other f c := by
  obtain member | ⟨-, same, -⟩ := follows
  · exact .inl member
  · simp only [primaryLevel] at same
    omega

/-- An operand of an operator in front begins with a name, a numeral or a parenthesis. -/
def Begins (text : String) : Prop :=
  ∃ c rest, text.toList = c :: rest ∧ (startsWord c = true ∨ c.isDigit = true ∨ c = '(')

/-- The text of an expression at a required strength, cut and derived as that expression. -/
structure Rendered (place : Place) (required : Nat) (e : Expression) (ts : List Token) : Prop where
  derived : Derives ts (.expression required e)
  scans : Scans (Follows required e) (expression place required e) ts
  begins : 14 ≤ required → Begins (expression place required e)

theorem joins_bracket {s : String} (member : s ∈ ["(", ")", "[", "]", ",", "++", "--"]) (c : Char) :
    joins s c = false := by
  have all : ∀ s ∈ ["(", ")", "[", "]", ",", "++", "--"], s ≠ "." ∧ ∀ t ∈ symbols,
      s.toList.isPrefixOf t.toList = true → t.toList.length ≤ s.toList.length := by decide
  exact joins_of_final (all s member).1 (all s member).2 c

theorem scans_bracket {s : String} (member : s ∈ ["(", ")", "[", "]", ",", "++", "--"]) :
    Scans (fun _ => True) s [.symbol s] := by
  have known : ∀ s ∈ ["(", ")", "[", "]", ",", "++", "--"], s ∈ symbols := by decide
  exact (scans_symbol (known s member)).mono fun c _ => joins_bracket member c

theorem Rendered.filled {place : Place} {required : Nat} {e : Expression} {ts : List Token}
    (rendered : Rendered place required e ts) : ∃ c rest, (expression place required e).toList = c :: rest := by
  cases shape : (expression place required e).toList with
  | cons c rest => exact ⟨c, rest, rfl⟩
  | nil =>
    obtain ⟨t, others, rfl, -⟩ := rendered.derived.opens
    have lexed := rendered.scans.lexed
    rw [shape] at lexed
    have := lexed.unique .nil
    simp at this

theorem begins_parenthesis (text : String) : Begins ("(" ++ text ++ ")") :=
  ⟨'(', text.toList ++ [')'], by simp, .inr (.inr rfl)⟩

/-- A text with parentheses around it. -/
theorem Rendered.parenthesized {place : Place} {e : Expression} {ts : List Token}
    (rendered : Rendered place (strength e) e ts) {required : Nat} (lt : strength e < required)
    (small : required ≤ 15) : Rendered place required e (.symbol "(" :: ts ++ [.symbol ")"]) where
  derived := (Derives.parentheses (rendered.derived.loosen (Nat.zero_le _))).loosen small
  scans := by
    obtain ⟨c, rest, shape⟩ := rendered.filled
    rw [expression_of_lt place lt small]
    have inner := (scans_bracket (s := "(") (by decide)).append rendered.scans ⟨c, rest, shape, trivial⟩
    have whole := inner.append (scans_bracket (s := ")") (by decide)) ⟨')', [], rfl, follows_closer (by decide)⟩
    exact whole.mono fun _ _ => trivial
  begins _ := by
    rw [expression_of_lt place lt small]
    exact begins_parenthesis _

/-- A text that binds tightly enough stands as it is. -/
theorem Rendered.unparenthesized {place : Place} {e : Expression} {ts : List Token}
    (rendered : Rendered place (strength e) e ts) {required : Nat} (le : required ≤ strength e) :
    Rendered place required e ts where
  derived := rendered.derived.loosen le
  scans := by
    rw [expression_of_le place le]
    refine rendered.scans.mono fun c follows => ?_
    obtain member | ⟨point, same, other⟩ := follows
    · exact .inl member
    · have := strength_le e
      simp only [primaryLevel] at same
      exact .inr ⟨point, by simp only [primaryLevel]; omega, other⟩
  begins tight := by
    rw [expression_of_le place le]
    exact rendered.begins (by omega)

/-- An expression at its own strength is set right at every strength that a place may require. -/
theorem rendered_at {place : Place} {e : Expression} (required : Nat) (small : required ≤ 15)
    (own : ∃ ts, Rendered place (strength e) e ts) : ∃ us, Rendered place required e us := by
  obtain ⟨ts, rendered⟩ := own
  by_cases lt : strength e < required
  · exact ⟨_, rendered.parenthesized lt small⟩
  · exact ⟨ts, rendered.unparenthesized (by omega)⟩

theorem Begins.append {x : String} (begins : Begins x) (y : String) : Begins (x ++ y) := by
  obtain ⟨c, rest, shape, kind⟩ := begins
  exact ⟨c, rest ++ y.toList, by simp [shape], kind⟩

theorem identifier_begins {x : String} (identifier : Names.isIdentifier x = true) :
    ∃ c rest, x.toList = c :: rest ∧ startsWord c = true := by
  unfold Names.isIdentifier at identifier
  cases shape : x.toList with
  | nil => simp [shape] at identifier
  | cons c rest => exact ⟨c, rest, rfl, by simp_all [startsWord]⟩

section Forms

variable {place : Place} {e a b c i : Expression} {ts us vs : List Token} {x : String}

theorem rendered_name (identifier : Names.isIdentifier x = true) : Rendered place 15 (.name x) [.word x] where
  derived := .name x
  scans := by
    rw [expression]
    exact (scans_word identifier).mono fun _ follows => follows.not_continuesWord
  begins _ := by
    obtain ⟨c, rest, shape, starts⟩ := identifier_begins identifier
    rw [expression]
    exact ⟨c, rest, shape, .inl starts⟩

theorem rendered_integer {value : Int32} (natural : 0 ≤ value) :
    Rendered place 15 (.literal (.int value)) [.integer value.toNatClampNeg] := by
  have text : expression place 15 (.literal (.int value)) = toString value.toNatClampNeg := by
    rw [expression, literal, ← Int32.cast_toNatClampNeg value natural]
    rfl
  have derived := Derives.integer value.toNatClampNeg_lt
  rw [Int32.ofNat_toNatClampNeg value natural] at derived
  refine ⟨derived, ?_, fun _ => ?_⟩
  · rw [text]
    refine (scans_numeral _).mono fun c follows => ?_
    obtain member | ⟨-, -, other⟩ := id follows
    · have apart : c ≠ '.' := ne_of_mem_of_not_mem member (by decide)
      simp [continuesNumber, follows.not_continuesWord, apart]
    · exact absurd rfl (other value)
  · obtain ⟨first, rest, shape, digit⟩ := exists_digit value.toNatClampNeg
    rw [text]
    exact ⟨first, rest, shape, .inr (.inl digit)⟩

/-- The literals that are words. -/
theorem rendered_word {value : Literal} (word : isWord (literal value).toList = true)
    (reserved : Names.isKeyword (literal value) = true)
    (derived : Derives [.keyword (literal value)] (.expression 15 (.literal value))) :
    Rendered place 15 (.literal value) [.keyword (literal value)] where
  derived := derived
  scans := by
    rw [expression]
    exact (scans_keyword word reserved).mono fun _ follows => follows.not_continuesWord
  begins _ := by
    rw [expression]
    cases shape : (literal value).toList with
    | nil => simp [shape, isWord] at word
    | cons c rest =>
      rw [shape, isWord, Bool.and_eq_true] at word
      exact ⟨c, rest, shape, .inl word.1⟩

theorem rendered_field (receiver : Rendered place 15 e ts) (other : ∀ value, e ≠ .literal (.int value))
    (identifier : Names.isIdentifier x = true) :
    Rendered place 15 (.field e x) (ts ++ [.symbol ".", .word x]) where
  derived := .field receiver.derived x
  scans := by
    obtain ⟨c, rest, shape, starts⟩ := identifier_begins identifier
    have pointed := receiver.scans.append (scans_symbol (s := ".") (by decide)) ⟨'.', [], rfl, .inr ⟨rfl, rfl, other⟩⟩
    have whole := pointed.append (scans_word identifier) ⟨c, rest, shape, joins_of_startsWord "." starts⟩
    rw [expression, List.append_cons]
    exact whole.mono fun _ follows => follows.not_continuesWord
  begins tight := by
    rw [expression]
    exact ((receiver.begins tight).append ".").append x

theorem rendered_element (array : Rendered place 15 e ts) (index : Rendered place 0 i us) :
    Rendered place 15 (.element e i) (ts ++ .symbol "[" :: us ++ [.symbol "]"]) where
  derived := .element array.derived index.derived
  scans := by
    obtain ⟨c, rest, shape⟩ := index.filled
    have opened := array.scans.append (scans_bracket (s := "[") (by decide)) ⟨'[', [], rfl, follows_closer (by decide)⟩
    have filled := opened.append index.scans ⟨c, rest, shape, trivial⟩
    have whole := filled.append (scans_bracket (s := "]") (by decide)) ⟨']', [], rfl, follows_closer (by decide)⟩
    rw [expression, List.append_cons ts]
    exact whole.mono fun _ _ => trivial
  begins tight := by
    rw [expression]
    exact (((array.begins tight).append "[").append _).append "]"

theorem rendered_items {es : List Expression} (parts : ∀ e ∈ es, ∃ ts, Rendered place assignLevel e ts)
    (some : es ≠ []) :
    ∃ us, Derives us (.arguments es) ∧ Scans (· ∈ closers) (commas (expressions place assignLevel es)) us
      ∧ ∃ c rest, (commas (expressions place assignLevel es)).toList = c :: rest := by
  induction es with
  | nil => exact absurd rfl some
  | cons e es ih =>
    obtain ⟨ts, first⟩ := parts e (by simp)
    have derived := first.derived.loosen (Nat.zero_le _)
    have scans := first.scans.mono fun c member => follows_closer member
    obtain ⟨c, rest, shape⟩ := first.filled
    cases es with
    | nil => exact ⟨ts, .lastArgument derived, by simpa [commas, expressions] using scans, c, rest, by
        simpa [commas, expressions] using shape⟩
    | cons f es =>
      obtain ⟨us, others, following, d, more, shape'⟩ := ih (fun e member => parts e (by simp_all)) (by simp)
      have text : commas (expressions place assignLevel (e :: f :: es))
          = expression place assignLevel e ++ "," ++ " " ++ commas (expressions place assignLevel (f :: es)) := by
        simp [commas, expressions, String.intercalate_cons_cons, String.append_assoc]
      have separated := scans.append (scans_bracket (s := ",") (by decide)) ⟨',', [], rfl, by decide⟩
      have whole := (separated.blank trivial).append following ⟨d, more, shape', trivial⟩
      refine ⟨_, .moreArguments derived others, ?_, c, _, by rw [text]; simp [shape]; rfl⟩
      rw [text, List.append_cons]
      exact whole

/-- The arguments of a call with the parentheses around them. -/
theorem rendered_arguments {es : List Expression}
    (parts : ∀ e ∈ es, ∃ ts, Rendered place assignLevel e ts) :
    ∃ us, Derives us (.arguments es) ∧
      Scans (fun _ => True) ("(" ++ commas (expressions place assignLevel es) ++ ")")
        (.symbol "(" :: us ++ [.symbol ")"]) := by
  have opening := scans_bracket (s := "(") (by decide)
  have closing := scans_bracket (s := ")") (by decide)
  by_cases empty : es = []
  · subst empty
    exact ⟨[], .noArguments, opening.append closing ⟨')', [], rfl, trivial⟩⟩
  · obtain ⟨us, derived, scans, c, rest, shape⟩ := rendered_items parts empty
    refine ⟨us, derived, ?_⟩
    exact (opening.append scans ⟨c, rest, shape, trivial⟩).append closing ⟨')', [], rfl, by decide⟩

theorem rendered_call {es : List Expression} (identifier : Names.isIdentifier x = true)
    (parts : ∀ e ∈ es, ∃ ts, Rendered place assignLevel e ts) :
    ∃ ts, Rendered place 15 (.call none x [] es) ts := by
  obtain ⟨us, derived, scans⟩ := rendered_arguments parts
  have text : expression place 15 (.call none x [] es)
      = x ++ ("(" ++ commas (expressions place assignLevel es) ++ ")") := by
    simp [expression, String.append_assoc]
  refine ⟨_, .call x derived, ?_, fun _ => ?_⟩
  · rw [text]
    have whole := (scans_word identifier).append scans ⟨'(', _, by simp; rfl, (continuesWord_of_small (by decide)).trans (by decide)⟩
    exact whole.mono fun _ _ => trivial
  · rw [text]
    obtain ⟨c, rest, shape, starts⟩ := identifier_begins identifier
    exact Begins.append ⟨c, rest, shape, .inl starts⟩ _

theorem rendered_callOn {es : List Expression} (receiver : Rendered place 15 e ts)
    (other : ∀ value, e ≠ .literal (.int value)) (identifier : Names.isIdentifier x = true)
    (parts : ∀ e ∈ es, ∃ ts, Rendered place assignLevel e ts) :
    ∃ ts, Rendered place 15 (.call (some e) x [] es) ts := by
  obtain ⟨us, derived, scans⟩ := rendered_arguments parts
  obtain ⟨c, rest, shape, starts⟩ := identifier_begins identifier
  have text : expression place 15 (.call (some e) x [] es)
      = expression place 15 e ++ "." ++ x ++ ("(" ++ commas (expressions place assignLevel es) ++ ")") := by
    simp [expression, primaryLevel, String.append_assoc]
  refine ⟨_, .callOn receiver.derived x derived, ?_, fun tight => ?_⟩
  · have pointed := receiver.scans.append (scans_symbol (s := ".") (by decide)) ⟨'.', [], rfl, .inr ⟨rfl, rfl, other⟩⟩
    have named := pointed.append (scans_word identifier) ⟨c, rest, shape, joins_of_startsWord "." starts⟩
    have whole := named.append scans ⟨'(', _, by simp; rfl, (continuesWord_of_small (by decide)).trans (by decide)⟩
    rw [text]
    simpa using whole.mono fun _ (_ : Follows 15 (.call (some e) x [] es) _) => trivial
  · rw [text]
    exact (((receiver.begins tight).append ".").append x).append _

theorem rendered_binary {op : BinaryOp} (left : Rendered place op.precedence a ts)
    (right : Rendered place (op.precedence + 1) b us) :
    Rendered place op.precedence (.binary op a b) (ts ++ .symbol op.symbol :: us) := by
  have bounds := precedence_bounds op
  obtain ⟨known, filled⟩ : op.symbol ∈ symbols ∧ op.symbol.toList ≠ [] := by cases op <;> decide
  refine ⟨.binary left.derived right.derived, ?_, fun tight => by omega⟩
  rw [expression, parenthesize, if_neg (Nat.lt_irrefl _)]
  have whole := left.scans.spaced (follows_closer (by decide)) (scans_symbol known) filled (joins_blank _)
    right.scans right.filled
  exact whole.mono fun c follows => follows.loose (by omega)

theorem rendered_assign {op : Option BinaryOp} (known : ∀ o ∈ op, o ∈ compound)
    (target : Rendered place stepLevel a ts) (value : Rendered place assignLevel b us) :
    Rendered place 1 (.assign op a b) (ts ++ .symbol (assignSymbol op) :: us) := by
  obtain ⟨member, filled⟩ : assignSymbol op ∈ symbols ∧ (assignSymbol op).toList ≠ [] := by
    have all : ∀ op ∈ none :: compound.map some, assignSymbol op ∈ symbols ∧ (assignSymbol op).toList ≠ [] := by
      decide
    refine all op ?_
    cases op with
    | none => simp
    | some o => simpa using known o rfl
  have text : expression place 1 (.assign op a b)
      = expression place stepLevel a ++ " " ++ assignSymbol op ++ " " ++ expression place assignLevel b := by
    cases op <;>
      simp [expression, parenthesize, assignSymbol, assignLevel, String.append_assoc]
  refine ⟨.assign known (target.derived.loosen (by decide)) value.derived, ?_, fun tight => by omega⟩
  rw [text]
  have whole := target.scans.spaced (follows_closer (by decide)) (scans_symbol member) filled (joins_blank _)
    value.scans value.filled
  exact whole.mono fun c follows => follows.loose (by omega)

theorem rendered_conditional (condition : Rendered place (conditionalLevel + 1) c ts)
    (whenTrue : Rendered place assignLevel a us) (whenFalse : Rendered place conditionalLevel b vs) :
    Rendered place 2 (.conditional c a b) (ts ++ .symbol "?" :: us ++ .symbol ":" :: vs) := by
  have text : expression place 2 (.conditional c a b)
      = expression place (conditionalLevel + 1) c ++ " " ++ "?" ++ " " ++ expression place assignLevel a ++ " "
        ++ ":" ++ " " ++ expression place conditionalLevel b := by
    rw [expression, parenthesize, if_neg (by decide)]
    simp only [String.append_assoc]
    rfl
  refine ⟨.conditional condition.derived (whenTrue.derived.loosen (Nat.zero_le _)) whenFalse.derived, ?_,
    fun tight => by omega⟩
  rw [text]
  have first := condition.scans.spaced (follows_closer (by decide)) (scans_symbol (s := "?") (by decide))
    (by decide) (joins_blank _) whenTrue.scans whenTrue.filled
  have whole := first.spaced (follows_closer (by decide)) (scans_symbol (s := ":") (by decide))
    (by decide) (joins_blank _) whenFalse.scans whenFalse.filled
  exact whole.mono fun c follows => follows.loose (by omega)

theorem rendered_typeName {name : String} (isName : IsTypeName name) :
    ∃ us, Derives us (.typeName name) ∧ Scans (fun c => continuesWord c = false) name us
      ∧ ∃ c rest, name.toList = c :: rest ∧ startsWord c = true := by
  induction isName with
  | simple identifier => exact ⟨_, .simpleType _, scans_word identifier, identifier_begins identifier⟩
  | @dotted x name identifier inner ih =>
    obtain ⟨us, derived, scans, c, rest, shape, starts⟩ := ih
    obtain ⟨d, more, shape', starts'⟩ := identifier_begins identifier
    have pointed := (scans_word identifier).append (scans_symbol (s := ".") (by decide))
      ⟨'.', [], rfl, (continuesWord_of_small (by decide)).trans (by decide)⟩
    have whole := pointed.append scans ⟨c, rest, shape, joins_of_startsWord "." starts⟩
    exact ⟨_, .dottedType x derived, whole, d, _, by simp [shape']; rfl, starts'⟩

theorem rendered_instanceOf {name : String} (operand : Rendered place relationalLevel e ts)
    (isName : IsTypeName name) : ∃ us, Rendered place 9 (.instanceOf e { name }) us := by
  obtain ⟨us, derived, scans, c, rest, shape, -⟩ := rendered_typeName isName
  have text : expression place 9 (.instanceOf e { name })
      = expression place relationalLevel e ++ " " ++ "instanceof" ++ " " ++ name := by
    rw [expression, parenthesize, if_neg (by decide)]
    simp [type, brackets, String.append_assoc]
  have keyword := scans_keyword (x := "instanceof") (by decide) (by decide)
  refine ⟨_, .instanceOf operand.derived derived, ?_, fun tight => by omega⟩
  rw [text]
  have whole := operand.scans.spaced (follows_closer (by decide)) keyword (by decide) ((continuesWord_of_small (by decide)).trans (by decide)) scans
    ⟨c, rest, shape⟩
  exact whole.mono fun c follows => follows.not_continuesWord

theorem rendered_behind {op : UnaryOp} (follows : op.follows = true) (operand : Rendered place stepLevel e ts) :
    Rendered place 14 (.unary op e) (ts ++ [.symbol op.symbol]) := by
  have text : expression place 14 (.unary op e) = expression place stepLevel e ++ op.symbol := by
    rw [expression, if_pos follows, parenthesize, if_neg (by decide)]
  obtain ⟨first, rest, shape, member⟩ : ∃ first rest, op.symbol.toList = first :: rest ∧ first ∈ closers := by
    revert follows
    cases op <;> intro follows <;> first | exact ⟨_, _, rfl, by decide⟩ | cases follows
  have step : op.symbol ∈ ["(", ")", "[", "]", ",", "++", "--"] := by
    revert follows
    cases op <;> decide
  refine ⟨.behind operand.derived follows, ?_, fun tight => ?_⟩
  · rw [text]
    exact (operand.scans.append (scans_bracket step) ⟨first, rest, shape, follows_closer member⟩).mono
      fun _ _ => trivial
  · rw [text]
    exact (operand.begins tight).append op.symbol

/-- Two operators in front are kept apart by a blank exactly where they would run together. -/
theorem joins_inner {op inner : UnaryOp} (follows : op.follows = false) (follows' : inner.follows = false)
    (apart : Text.startsWith inner.symbol op.symbol = false) :
    ∃ c rest, inner.symbol.toList = c :: rest ∧ joins op.symbol c = false := by
  have all : ∀ op ∈ [UnaryOp.not, .neg, .plus, .bitNot, .preInc, .preDec],
      ∀ inner ∈ [UnaryOp.not, .neg, .plus, .bitNot, .preInc, .preDec],
      Text.startsWith inner.symbol op.symbol = false →
      inner.symbol.toList.head?.all (fun c => !joins op.symbol c) = true := by decide
  have listed : ∀ op : UnaryOp, op.follows = false → op ∈ [UnaryOp.not, .neg, .plus, .bitNot, .preInc, .preDec] := by
    intro op
    cases op <;> decide
  obtain ⟨c, rest, shape⟩ : ∃ c rest, inner.symbol.toList = c :: rest := by
    cases inner <;> exact ⟨_, _, rfl⟩
  have separate := all op (listed op follows) inner (listed inner follows') apart
  simp only [shape, List.head?_cons, Option.all_some, Bool.not_eq_true'] at separate
  exact ⟨c, rest, shape, separate⟩

theorem joins_of_begins {op : UnaryOp} {text : String} (begins : Begins text) :
    ∃ c rest, text.toList = c :: rest ∧ joins op.symbol c = false := by
  obtain ⟨c, rest, shape, kind⟩ := begins
  refine ⟨c, rest, shape, ?_⟩
  obtain starts | digit | rfl := kind
  · exact joins_of_startsWord _ starts
  · exact joins_of_isDigit (by cases op <;> decide) digit
  · exact joins_parenthesis (by cases op <;> decide)

/-- An operand that is no operator in front itself begins with a name, a numeral or a parenthesis. -/
theorem begins_operand (rendered : Rendered place (strength e) e ts) (other : strength e ≠ 13) :
    Begins (expression place unaryLevel e) := by
  by_cases lt : strength e < unaryLevel
  · rw [expression_of_lt place lt (by decide)]
    exact begins_parenthesis _
  · have le : unaryLevel ≤ strength e := Nat.le_of_not_lt lt
    rw [expression_of_le place le]
    simp only [unaryLevel] at le
    exact rendered.begins (by omega)

/-- The operand begins with nothing that the operator before it would run into. -/
theorem operatorGap_apart {op : UnaryOp} (follows : op.follows = false) (plain : Plain e)
    (rendered : Rendered place (strength e) e ts) :
    operatorGap op e = " " ∨ operatorGap op e = "" ∧
      ∃ c rest, (expression place unaryLevel e).toList = c :: rest ∧ joins op.symbol c = false := by
  cases plain with
  | @unary inner f =>
    cases follows' : inner.follows with
    | true =>
      refine .inr ⟨by simp [operatorGap, follows'], joins_of_begins (begins_operand rendered ?_)⟩
      simp [strength, follows', stepLevel]
    | false =>
      cases apart : Text.startsWith inner.symbol op.symbol with
      | true => exact .inl (by simp [operatorGap, follows', apart])
      | false =>
        obtain ⟨c, rest, shape, separate⟩ := joins_inner follows follows' apart
        have text : (expression place unaryLevel (.unary inner f)).toList = c :: (rest
            ++ (operatorGap inner f ++ expression place unaryLevel f).toList) := by
          rw [expression, if_neg (by simp [follows']), parenthesize, if_neg (by decide)]
          simp [shape]
        exact .inr ⟨by simp [operatorGap, follows', apart], c, _, text, separate⟩
  | @binary inner =>
    have := precedence_bounds inner
    exact .inr ⟨rfl, joins_of_begins (begins_operand rendered (by simp only [strength]; omega))⟩
  | _ =>
    refine .inr ⟨rfl, joins_of_begins (begins_operand rendered ?_)⟩
    simp [strength, assignLevel, conditionalLevel, relationalLevel, primaryLevel]

theorem rendered_inFront {op : UnaryOp} (follows : op.follows = false)
    (operand : Rendered place unaryLevel e ts)
    (apart : operatorGap op e = " " ∨ operatorGap op e = "" ∧
      ∃ c rest, (expression place unaryLevel e).toList = c :: rest ∧ joins op.symbol c = false) :
    Rendered place 13 (.unary op e) (.symbol op.symbol :: ts) := by
  have text : expression place 13 (.unary op e)
      = op.symbol ++ operatorGap op e ++ expression place unaryLevel e := by
    rw [expression, if_neg (by simp [follows]), parenthesize, if_neg (by decide)]
  have known : op.symbol ∈ symbols := by cases op <;> decide
  refine ⟨.inFront follows operand.derived, ?_, fun tight => by omega⟩
  rw [text]
  have symbol := scans_symbol known
  obtain blank | ⟨none, first⟩ := apart
  · obtain ⟨c, rest, shape⟩ := operand.filled
    rw [blank]
    exact ((symbol.blank (joins_blank _)).append operand.scans ⟨c, rest, shape, trivial⟩).mono
      fun _ follows => follows.loose (by omega)
  · rw [none, String.append_empty]
    exact (symbol.append operand.scans first).mono fun _ follows => follows.loose (by omega)

end Forms

/-- The text of an expression is cut and derived as that expression. -/
theorem Plain.rendered (place : Place) {e : Expression} (plain : Plain e) :
    ∃ ts, Rendered place (strength e) e ts := by
  induction plain with
  | name identifier => exact ⟨_, rendered_name identifier⟩
  | integer natural => exact ⟨_, rendered_integer natural⟩
  | boolean value =>
    refine ⟨_, rendered_word ?_ ?_ (.boolean value)⟩ <;> cases value <;> decide
  | null => exact ⟨_, rendered_word (by decide) (by decide) .null⟩
  | field _ other identifier ih =>
    obtain ⟨_, receiver⟩ := rendered_at 15 (by decide) ih
    exact ⟨_, rendered_field receiver other identifier⟩
  | element _ _ iha ihi =>
    obtain ⟨_, array⟩ := rendered_at 15 (by decide) iha
    obtain ⟨_, index⟩ := rendered_at 0 (by decide) ihi
    exact ⟨_, rendered_element array index⟩
  | call identifier _ ih =>
    exact rendered_call identifier fun e member => rendered_at _ (by decide) (ih e member)
  | callOn _ other identifier _ ihr ih =>
    obtain ⟨_, receiver⟩ := rendered_at 15 (by decide) ihr
    exact rendered_callOn receiver other identifier fun e member => rendered_at _ (by decide) (ih e member)
  | @binary op a b _ _ iha ihb =>
    have bounds := precedence_bounds op
    obtain ⟨_, left⟩ := rendered_at op.precedence (by omega) iha
    obtain ⟨_, right⟩ := rendered_at (op.precedence + 1) (by omega) ihb
    exact ⟨_, rendered_binary left right⟩
  | @unary op e plain ih =>
    rw [strength]
    cases follows : op.follows with
    | true =>
      obtain ⟨_, operand⟩ := rendered_at stepLevel (by decide) ih
      exact ⟨_, rendered_behind follows operand⟩
    | false =>
      obtain ⟨_, operand⟩ := rendered_at unaryLevel (by decide) ih
      obtain ⟨_, own⟩ := ih
      exact ⟨_, rendered_inFront follows operand (operatorGap_apart follows plain own)⟩
  | instanceOf _ isName ih =>
    obtain ⟨_, operand⟩ := rendered_at relationalLevel (by decide) ih
    exact rendered_instanceOf operand isName
  | conditional _ _ _ ihc iha ihb =>
    obtain ⟨_, condition⟩ := rendered_at (conditionalLevel + 1) (by decide) ihc
    obtain ⟨_, whenTrue⟩ := rendered_at assignLevel (by decide) iha
    obtain ⟨_, whenFalse⟩ := rendered_at conditionalLevel (by decide) ihb
    exact ⟨_, rendered_conditional condition whenTrue whenFalse⟩
  | assign known _ _ iht ihv =>
    obtain ⟨_, target⟩ := rendered_at stepLevel (by decide) iht
    obtain ⟨_, value⟩ := rendered_at assignLevel (by decide) ihv
    exact ⟨_, rendered_assign known target value⟩

/-- The text of an expression is read back as that expression and as no other. -/
theorem reads_printExpression_iff (settings : Settings) {e : Expression} (plain : Plain e) (tree : Expression) :
    Reads (printExpression settings e) tree ↔ tree = e := by
  obtain ⟨ts, rendered⟩ := rendered_at 0 (by decide) (plain.rendered { settings })
  have lexed : Lexed (printExpression settings e).toList ts := rendered.scans.lexed
  constructor
  · rintro ⟨us, lexed', derived⟩
    obtain rfl := lexed.unique lexed'
    exact derived.unique rendered.derived
  · rintro rfl
    exact ⟨ts, lexed, rendered.derived⟩

/-- An expression in which every form stands where its text needs care. -/
def nested : Expression :=
  .assign (some .ushr) (.element (.name "a") (.assign none (.name "i") (.literal (.int 0))))
    (.conditional
      (.binary .sub (.name "b") (.binary .sub (.unary .neg (.unary .preDec (.name "c"))) (.literal (.int 1))))
      (.assign none (.name "d") (.call (some (.binary .add (.name "x") (.name "y"))) "f" [] [.name "z", .literal .null]))
      (.unary .not (.instanceOf (.field (.unary .postInc (.name "e")) "g") { name := "p.T" })))

example : printExpression {} nested
    = "a[i = 0] >>>= b - (- --c - 1) ? d = (x + y).f(z, null) : !((e++).g instanceof p.T)" := by decide

theorem nested_plain : Plain nested := by
  have letter : ∀ x ∈ ["a", "b", "c", "d", "e", "f", "g", "i", "p", "T", "x", "y", "z"],
      Names.isIdentifier x = true := by decide
  have name : ∀ x ∈ ["a", "b", "c", "d", "e", "f", "g", "i", "p", "T", "x", "y", "z"], Plain (.name x) :=
    fun x member => .name (letter x member)
  have target : Plain (.element (.name "a") (.assign none (.name "i") (.literal (.int 0)))) :=
    .element (name _ (by simp)) (.assign (by simp) (name _ (by simp)) (.integer (by decide)))
  have condition : Plain (.binary .sub (.name "b")
      (.binary .sub (.unary .neg (.unary .preDec (.name "c"))) (.literal (.int 1)))) :=
    .binary (name _ (by simp)) (.binary (.unary (.unary (name _ (by simp)))) (.integer (by decide)))
  have call : Plain (.call (some (.binary .add (.name "x") (.name "y"))) "f" [] [.name "z", .literal .null]) := by
    refine .callOn (.binary (name _ (by simp)) (name _ (by simp))) (by simp) (letter _ (by simp)) ?_
    simp only [List.mem_cons, List.not_mem_nil, or_false]
    rintro e (rfl | rfl)
    · exact name _ (by simp)
    · exact .null
  have test : Plain (.unary .not (.instanceOf (.field (.unary .postInc (.name "e")) "g") { name := "p.T" })) :=
    .unary (.instanceOf (.field (.unary (name _ (by simp))) (by simp) (letter _ (by simp)))
      (.dotted (x := "p") (letter _ (by simp)) (.simple (letter "T" (by simp)))))
  exact .assign (by decide) target (.conditional condition (.assign (by simp) (name _ (by simp)) call) test)

theorem reads_printExpression_nested :
    Plain nested ∧ ∀ tree, Reads (printExpression {} nested) tree ↔ tree = nested :=
  ⟨nested_plain, reads_printExpression_iff {} nested_plain⟩

end JavaWeave.Layout
