import JavaWeave.Proofs.Layout.Grammar

/-! The grammar of expressions derives a run of tokens as at most one tree. A reader by descent through the
levels decides at each token from that token alone; whatever the grammar derives is what the reader finds. -/

namespace JavaWeave.Layout.Grammar

open Syntax

/-- What a token does to the expression before it. -/
inductive Link where
  | binary (op : BinaryOp)
  | instanceOf
  | question
  | assign (op : Option BinaryOp)
  | step (op : UnaryOp)
  | point
  | bracket
  deriving DecidableEq

def operators : List BinaryOp :=
  [.add, .sub, .mul, .div, .rem, .and, .or, .bitAnd, .bitOr, .bitXor, .shl, .shr, .ushr, .eq, .ne, .lt, .le,
   .gt, .ge]

/-- What a token does behind an expression, and at which level. -/
def link : Token → Option (Nat × Link)
  | .keyword word => if word = "instanceof" then some (9, .instanceOf) else none
  | .symbol text =>
    match operators.find? (·.symbol == text) with
    | some op => some (op.precedence, .binary op)
    | none =>
      match (none :: compound.map some).find? (assignSymbol · == text) with
      | some op => some (1, .assign op)
      | none =>
        if text = "?" then some (2, .question)
        else if text = "++" then some (14, .step .postInc)
        else if text = "--" then some (14, .step .postDec)
        else if text = "." then some (15, .point)
        else if text = "[" then some (15, .bracket)
        else none
  | _ => none

/-- The operator that a token is in front of an expression. -/
def inFront? : Token → Option UnaryOp
  | .symbol text => [.not, .neg, .plus, .bitNot, .preInc, .preDec].find? (UnaryOp.symbol · == text)
  | _ => none

/-- The rest after a symbol that comes next. -/
def expect (text : String) : List Token → Option (List Token)
  | .symbol found :: rest => if found = text then some rest else none
  | _ => none

def wordLiteral (word : String) : Option Literal :=
  if word = "true" then some (.bool true)
  else if word = "false" then some (.bool false)
  else if word = "null" then some .null
  else none

def readType : List Token → Option (String × List Token)
  | .word x :: .symbol "." :: rest => do
    let (name, rest) ← readType rest
    some (x ++ "." ++ name, rest)
  | .word x :: rest => some (x, rest)
  | _ => none

/-- A rule of the reader, with the type of what it reads. -/
inductive Rule : Type → Type where
  /-- An expression of a level at the head of the tokens, as far as the level goes. -/
  | expression (level : Nat) : Rule Expression
  | primary : Rule Expression
  /-- What a link appends to the expression before it, read from behind its token. -/
  | append (level : Nat) (left : Expression) (kind : Link) : Rule Expression
  /-- Goes on from an expression with all that its level appends to it. -/
  | extend (level : Nat) (left : Expression) : Rule Expression
  /-- Arguments up to and with the closing parenthesis. -/
  | arguments : Rule (List Expression)
  | items : Rule (List Expression)

def Rule.read {α : Type} (rule : Rule α) (ts : List Token) : Option (α × List Token) :=
  match rule with
  | .expression level =>
    if level = 15 then Rule.primary |>.read ts
    else if level = 13 then
      match ts.head?.bind inFront? with
      | some op => do
        let (e, rest) ← Rule.expression 13 |>.read ts.tail
        some (.unary op e, rest)
      | none => Rule.expression 14 |>.read ts
    else do
      let (e, rest) ← Rule.expression (level + 1) |>.read ts
      Rule.extend level e |>.read rest
  | .primary =>
    match ts with
    | .word x :: rest =>
      match expect "(" rest with
      | some rest => do
        let (es, rest) ← Rule.arguments |>.read rest
        Rule.extend 15 (.call none x [] es) |>.read rest
      | none => Rule.extend 15 (.name x) |>.read rest
    | .integer n :: rest => if n < 2 ^ 31 then Rule.extend 15 (.literal (.int (.ofNat n))) |>.read rest else none
    | .keyword word :: rest => do
      let value ← wordLiteral word
      Rule.extend 15 (.literal value) |>.read rest
    | ts => do
      let rest ← expect "(" ts
      let (e, rest) ← Rule.expression 0 |>.read rest
      let rest ← expect ")" rest
      Rule.extend 15 e |>.read rest
  | .append level left kind =>
    match kind with
    | .binary op => do
      let (right, rest) ← Rule.expression (level + 1) |>.read ts
      Rule.extend level (.binary op left right) |>.read rest
    | .instanceOf => do
      let (name, rest) ← readType ts
      Rule.extend level (.instanceOf left { name }) |>.read rest
    | .question => do
      let (a, rest) ← Rule.expression 0 |>.read ts
      let rest ← expect ":" rest
      let (b, rest) ← Rule.expression 2 |>.read rest
      some (.conditional left a b, rest)
    | .assign op => do
      let (value, rest) ← Rule.expression 1 |>.read ts
      some (.assign op left value, rest)
    | .step op => Rule.extend level (.unary op left) |>.read ts
    | .point =>
      match ts with
      | .word x :: rest =>
        match expect "(" rest with
        | some rest => do
          let (es, rest) ← Rule.arguments |>.read rest
          Rule.extend level (.call (some left) x [] es) |>.read rest
        | none => Rule.extend level (.field left x) |>.read rest
      | _ => none
    | .bracket => do
      let (i, rest) ← Rule.expression 0 |>.read ts
      let rest ← expect "]" rest
      Rule.extend level (.element left i) |>.read rest
  | .extend level left =>
    match ts.head?.bind link with
    | some (reached, kind) => if reached = level then Rule.append level left kind |>.read ts.tail else some (left, ts)
    | none => some (left, ts)
  | .arguments =>
    match expect ")" ts with
    | some rest => some ([], rest)
    | none => Rule.items |>.read ts
  | .items => do
    let (e, rest) ← Rule.expression 0 |>.read ts
    match expect "," rest with
    | some rest => do
      let (es, rest) ← Rule.items |>.read rest
      some (e :: es, rest)
    | none => do
      let rest ← expect ")" rest
      some ([e], rest)
partial_fixpoint

theorem precedence_bounds (op : BinaryOp) : 3 ≤ op.precedence ∧ op.precedence ≤ 12 := by
  cases op <;> decide

/-- The tokens do not begin with anything that a level or a tighter one would append. -/
def Stops (level : Nat) (rest : List Token) : Prop :=
  ∀ t ∈ rest.head?, t ≠ .symbol "(" ∧ ∀ l kind, link t = some (l, kind) → l < level

theorem stops_nil (level : Nat) : Stops level [] := by simp [Stops]

theorem Stops.mono {level tighter : Nat} {rest : List Token} (stops : Stops level rest)
    (le : level ≤ tighter) : Stops tighter rest :=
  fun t member => ⟨(stops t member).1, fun l kind found => Nat.lt_of_lt_of_le ((stops t member).2 l kind found) le⟩

/-- A token that links at one level ends all tighter ones. -/
theorem stops_of_link {t : Token} {l level : Nat} {kind : Link} (found : link t = some (l, kind))
    (lt : l < level) (rest : List Token) : Stops level (t :: rest) := by
  intro t' member
  obtain rfl : t = t' := by simpa using member
  refine ⟨?_, ?_⟩
  · rintro rfl
    simp [show link (.symbol "(") = none by decide] at found
  · intro l' kind' found'
    rw [found] at found'
    simp only [Option.some.injEq, Prod.mk.injEq] at found'
    omega

/-- A symbol that only closes or separates ends every level. -/
theorem stops_of_no_link {t : Token} (none : link t = none) (other : t ≠ .symbol "(") (level : Nat)
    (rest : List Token) : Stops level (t :: rest) := by
  intro t' member
  obtain rfl : t = t' := by simpa using member
  exact ⟨other, by simp [none]⟩

theorem extend_of_stops {level : Nat} {rest : List Token} (stops : Stops level rest) (left : Expression) :
    (Rule.extend level left).read rest = some (left, rest) := by
  rw [Rule.read]
  split
  case h_1 reached kind found =>
    obtain ⟨t, first, linked⟩ := Option.bind_eq_some_iff.1 found
    have below := (stops t first).2 reached kind linked
    rw [if_neg (by omega)]
  case h_2 => rfl

theorem link_binary (op : BinaryOp) : link (.symbol op.symbol) = some (op.precedence, .binary op) := by
  cases op <;> decide

theorem link_assign {op : Option BinaryOp} (known : ∀ o ∈ op, o ∈ compound) :
    link (.symbol (assignSymbol op)) = some (1, .assign op) := by
  cases op with
  | none => decide
  | some op =>
    have := known op rfl
    revert this
    cases op <;> decide

theorem link_step {op : UnaryOp} (follows : op.follows = true) :
    link (.symbol op.symbol) = some (14, .step op) := by
  revert follows
  cases op <;> decide

theorem inFront?_symbol {op : UnaryOp} (follows : op.follows = false) :
    inFront? (.symbol op.symbol) = some op := by
  revert follows
  cases op <;> decide

theorem link_ne_inFront {t : Token} {level : Nat} {kind : Link} (found : link t = some (level, kind)) :
    level ≠ 13 := by
  have := precedence_bounds
  unfold link at found
  grind

/-- At a token that links at the level, the level goes on. -/
theorem extend_of_link {level : Nat} {t : Token} {kind : Link} (found : link t = some (level, kind))
    (left : Expression) (rest : List Token) :
    (Rule.extend level left).read (t :: rest) = (Rule.append level left kind).read rest := by
  rw [Rule.read]
  simp [found]

theorem Derives.level_le {ts : List Token} {phrase : Phrase} (derived : Derives ts phrase) :
    ∀ level e, phrase = .expression level e → level ≤ 15 := by
  induction derived with
  | @binary _ _ _ _ op =>
    have := precedence_bounds op
    grind
  | tighter _ ih =>
    have := ih _ _ rfl
    grind
  | _ => grind

/-- How a phrase begins: no expression begins with a closing parenthesis, and no operand of an operator in
front with another such operator unless it is one. -/
def Phrase.Opens (ts : List Token) : Phrase → Prop
  | .expression level _ =>
    ∃ t rest, ts = t :: rest ∧ t ≠ .symbol ")" ∧ (14 ≤ level → inFront? t = none)
  | .arguments [] => ts = []
  | .arguments (_ :: _) => ∃ t rest, ts = t :: rest ∧ t ≠ .symbol ")"
  | .typeName _ => True

theorem Derives.opens {ts : List Token} {phrase : Phrase} (derived : Derives ts phrase) :
    phrase.Opens ts := by
  induction derived with
  | name | integer | boolean | null | call => simp [Phrase.Opens, inFront?]
  | parentheses => exact ⟨_, _, rfl, by decide, fun _ => by decide⟩
  | @inFront ts e op =>
    exact ⟨_, _, rfl, by cases op <;> decide, fun h => by omega⟩
  | field _ _ ih | element _ _ ih _ | callOn _ _ _ ih _ | behind _ _ ih | binary _ _ ih _
    | instanceOf _ _ ih _ | conditional _ _ _ ih _ _ | assign _ _ _ ih _ =>
    obtain ⟨t, rest, rfl, other, tight⟩ := ih
    exact ⟨t, _, rfl, other, fun h => tight (by omega)⟩
  | tighter _ ih =>
    obtain ⟨t, rest, rfl, other, tight⟩ := ih
    exact ⟨t, _, rfl, other, fun h => tight (by omega)⟩
  | noArguments => rfl
  | lastArgument _ ih | moreArguments _ _ ih _ =>
    obtain ⟨t, rest, rfl, other, _⟩ := ih
    exact ⟨t, _, rfl, other⟩
  | simpleType | dottedType => trivial

@[simp] theorem expect_symbol (text : String) (rest : List Token) :
    expect text (.symbol text :: rest) = some rest := by simp [expect]

theorem expect_of_ne {text : String} {t : Token} (other : t ≠ .symbol text) (rest : List Token) :
    expect text (t :: rest) = none := by
  unfold expect
  split <;> simp_all

theorem Stops.expect_parenthesis {level : Nat} {rest : List Token} (stops : Stops level rest) :
    expect "(" rest = none := by
  cases rest with
  | nil => rfl
  | cons t rest => exact expect_of_ne (stops t rfl).1 rest

theorem Stops.expect_point {level : Nat} {rest : List Token} (stops : Stops level rest) (le : level ≤ 15) :
    expect "." rest = none := by
  cases rest with
  | nil => rfl
  | cons t rest =>
    refine expect_of_ne ?_ rest
    rintro rfl
    have := (stops _ rfl).2 15 .point (by decide)
    omega

/-- A closing or separating symbol ends every level. -/
theorem stops_symbol (text : String) (closing : text ∈ [")", "]", ",", ":"]) (level : Nat)
    (rest : List Token) : Stops level (.symbol text :: rest) := by
  simp only [List.mem_cons, List.not_mem_nil, or_false] at closing
  obtain rfl | rfl | rfl | rfl := closing <;> exact stops_of_no_link (by decide) (by decide) level rest

/-- The level whose links may not follow a phrase of the given one: its own if the level associates to the
right, else only the tighter ones, since its own links would go on from the phrase. -/
def bound (level : Nat) : Nat := if level ≤ 2 then level else level + 1

/-- The reader finds a phrase at the head of the tokens whatever comes behind it. -/
def Phrase.Found (ts : List Token) : Phrase → Prop
  | .expression level e =>
    ∀ rest, Stops (bound level) rest → (Rule.expression level).read (ts ++ rest) = (Rule.extend level e).read rest
  | .arguments [] => True
  | .arguments (e :: es) => ∀ rest, Rule.items.read (ts ++ .symbol ")" :: rest) = some (e :: es, rest)
  | .typeName name => ∀ rest, Stops 15 rest → readType (ts ++ rest) = some (name, rest)

theorem Phrase.Found.read_eq {ts : List Token} {level : Nat} {e : Expression}
    (found : (Phrase.expression level e).Found ts) {rest : List Token} (stops : Stops level rest) :
    (Rule.expression level).read (ts ++ rest) = some (e, rest) := by
  rw [found rest (stops.mono (by unfold bound; split <;> omega)), extend_of_stops stops]

theorem Phrase.Found.readArguments_eq {ts : List Token} {es : List Expression}
    (found : (Phrase.arguments es).Found ts) (opens : (Phrase.arguments es).Opens ts) (rest : List Token) :
    Rule.arguments.read (ts ++ .symbol ")" :: rest) = some (es, rest) := by
  rw [Rule.read]
  cases es with
  | nil =>
    obtain rfl : ts = [] := opens
    rw [List.nil_append, expect_symbol]
  | cons e es =>
    obtain ⟨t, others, rfl, other⟩ := opens
    rw [List.cons_append, expect_of_ne other]
    exact found rest

/-- The levels that begin with the next tighter one and go on from there. -/
theorem read_eq {level : Nat} (other : level ≠ 13 ∧ level ≠ 15) (ts : List Token) :
    (Rule.expression level).read ts =
      ((Rule.expression (level + 1)).read ts).bind fun (e, rest) => (Rule.extend level e).read rest := by
  rw [Rule.read, if_neg other.2, if_neg other.1]
  rfl

theorem read_primary (ts : List Token) : (Rule.expression 15).read ts = Rule.primary.read ts := by
  rw [Rule.read, if_pos rfl]

/-- No token goes on from an operand of an operator in front. -/
theorem extend_inFront (e : Expression) (rest : List Token) : (Rule.extend 13 e).read rest = some (e, rest) := by
  rw [Rule.read]
  split
  case h_1 reached kind found =>
    obtain ⟨t, -, linked⟩ := Option.bind_eq_some_iff.1 found
    rw [if_neg (link_ne_inFront linked)]
  case h_2 => rfl

theorem read_of_inFront {t : Token} {op : UnaryOp} (found : inFront? t = some op) (rest : List Token) :
    (Rule.expression 13).read (t :: rest) =
      ((Rule.expression 13).read rest).bind fun (e, rest) => some (.unary op e, rest) := by
  rw [Rule.read, if_neg (by decide), if_pos rfl, List.head?_cons, Option.bind_some, found]
  rfl

theorem read_of_operand {t : Token} (none : inFront? t = none) (rest : List Token) :
    (Rule.expression 13).read (t :: rest) = (Rule.expression 14).read (t :: rest) := by
  rw [Rule.read, if_neg (by decide), if_pos rfl, List.head?_cons, Option.bind_some, none]

theorem Derives.found {ts : List Token} {phrase : Phrase} (derived : Derives ts phrase) :
    phrase.Found ts := by
  induction derived with
  | name x =>
    intro rest stops
    rw [read_primary, List.singleton_append, Rule.read, stops.expect_parenthesis]
  | integer small =>
    intro rest stops
    rw [read_primary, List.singleton_append, Rule.read, if_pos small]
  | boolean value =>
    intro rest stops
    rw [read_primary, List.singleton_append, Rule.read]
    cases value <;> rfl
  | null =>
    intro rest stops
    rw [read_primary, List.singleton_append, Rule.read]
    rfl
  | @parentheses ts e inside ih =>
    intro rest stops
    have inner := Phrase.Found.read_eq ih (stops_symbol ")" (by decide) 0 rest)
    rw [read_primary, List.append_assoc, List.cons_append, Rule.read]
    simp only [expect_symbol, List.singleton_append, inner, Option.bind_eq_bind, Option.bind_some]
    all_goals simp
  | @field ts e receiver x ih =>
    intro rest stops
    have link : link (.symbol ".") = some (15, .point) := by decide
    rw [List.append_assoc, List.cons_append, List.singleton_append, ih _ (stops_of_link link (by decide) _),
      extend_of_link link, Rule.read, stops.expect_parenthesis]
  | @element ts us e i array index iha ihi =>
    intro rest stops
    have link : link (.symbol "[") = some (15, .bracket) := by decide
    have inner := Phrase.Found.read_eq ihi (stops_symbol "]" (by decide) 0 rest)
    rw [List.append_assoc, List.append_assoc, List.cons_append, iha _ (stops_of_link link (by decide) _),
      extend_of_link link, Rule.read, List.singleton_append, inner]
    simp only [expect_symbol, Option.bind_eq_bind, Option.bind_some]
  | @call us es x arguments ih =>
    intro rest stops
    have inner := ih.readArguments_eq arguments.opens rest
    rw [read_primary, List.append_assoc, List.cons_append, List.cons_append, Rule.read, expect_symbol]
    simp only [List.singleton_append, inner, Option.bind_eq_bind, Option.bind_some]
  | @callOn ts us e es receiver x arguments ihr iha =>
    intro rest stops
    have link : link (.symbol ".") = some (15, .point) := by decide
    have inner := iha.readArguments_eq arguments.opens rest
    rw [List.append_assoc, List.append_assoc, List.cons_append, ihr _ (stops_of_link link (by decide) _),
      extend_of_link link, List.cons_append, List.cons_append, Rule.read, expect_symbol]
    simp only [List.singleton_append, inner, Option.bind_eq_bind, Option.bind_some]
  | @behind ts e operand op follows ih =>
    intro rest stops
    rw [List.append_assoc, List.singleton_append, ih _ (stops_of_link (link_step follows) (by decide) _),
      extend_of_link (link_step follows), Rule.read]
  | @inFront ts e op follows operand ih =>
    intro rest stops
    rw [List.cons_append, read_of_inFront (inFront?_symbol follows), ih rest stops, extend_inFront,
      extend_inFront]
    rfl
  | @binary ts us a b op left right ihl ihr =>
    intro rest stops
    have bounds := precedence_bounds op
    have above : bound op.precedence = op.precedence + 1 := if_neg (by omega)
    rw [above] at stops
    rw [List.append_assoc, List.cons_append,
      ihl _ (stops_of_link (link_binary op) (by omega) _), extend_of_link (link_binary op), Rule.read,
      ihr.read_eq stops]
    rfl
  | @instanceOf ts us e name operand type iho iht =>
    intro rest stops
    have link : link (.keyword "instanceof") = some (9, .instanceOf) := by decide
    rw [List.append_assoc, List.cons_append, iho _ (stops_of_link link (by decide) _), extend_of_link link, Rule.read,
      iht rest (stops.mono (by decide))]
    rfl
  | @conditional ts us vs c a b condition whenTrue whenFalse ihc iha ihb =>
    intro rest stops
    have link : link (.symbol "?") = some (2, .question) := by decide
    have middle := Phrase.Found.read_eq iha (stops_symbol ":" (by decide) 0 (vs ++ rest))
    have last := Phrase.Found.read_eq ihb stops
    rw [extend_of_stops (show Stops 2 rest from stops), List.append_assoc, List.append_assoc, List.cons_append,
      List.cons_append, read_eq (by decide), Phrase.Found.read_eq ihc (stops_of_link link (by decide) _)]
    simp only [Option.bind_some, extend_of_link link]
    rw [Rule.read]
    simp only [middle, expect_symbol, Option.bind_eq_bind, Option.bind_some, last]
  | @assign ts us a b op known target value iht ihv =>
    intro rest stops
    have first := Phrase.Found.read_eq iht (stops_of_link (link_assign known) (by decide) (us ++ rest))
    rw [extend_of_stops (show Stops 1 rest from stops), List.append_assoc, List.cons_append, read_eq (by decide), first]
    simp only [Option.bind_some, extend_of_link (link_assign known)]
    rw [Rule.read]
    simp only [ihv.read_eq stops, Option.bind_eq_bind, Option.bind_some]
  | @tighter ts e level derived ih =>
    intro rest stops
    have small := derived.level_le _ _ rfl
    have found := Phrase.Found.read_eq ih (stops.mono (by unfold bound; split <;> omega))
    by_cases same : level = 13
    · subst same
      obtain ⟨t, others, rfl, -, operand⟩ := derived.opens
      rw [List.cons_append, read_of_operand (operand (by decide)), extend_inFront]
      exact found
    · rw [read_eq ⟨same, by omega⟩, found]
      rfl
  | noArguments => trivial
  | @lastArgument ts e last ih =>
    intro rest
    rw [Rule.read, Phrase.Found.read_eq ih (stops_symbol _ (by decide) 0 rest)]
    simp only [Option.bind_eq_bind, Option.bind_some, expect_symbol]
    rw [expect_of_ne (by decide)]
  | @moreArguments ts us e f es first others ihf iho =>
    intro rest
    rw [List.append_assoc, List.cons_append, Rule.read,
      Phrase.Found.read_eq ihf (stops_symbol _ (by decide) 0 _)]
    simp only [Option.bind_eq_bind, Option.bind_some, expect_symbol, iho rest]
  | simpleType x =>
    intro rest stops
    rw [List.singleton_append, readType]
    rintro others rfl
    simpa using stops.expect_point (by decide)
  | dottedType x inner ih =>
    intro rest stops
    rw [List.cons_append, List.cons_append, readType]
    simp only [ih rest stops, Option.bind_eq_bind, Option.bind_some]

/-- Tokens are derived as one tree at most. -/
theorem Derives.unique {ts : List Token} {level : Nat} {e f : Expression}
    (first : Derives ts (.expression level e)) (second : Derives ts (.expression level f)) : e = f := by
  have left := Phrase.Found.read_eq first.found (stops_nil level)
  have right := Phrase.Found.read_eq second.found (stops_nil level)
  simpa using left.symm.trans right

end JavaWeave.Layout.Grammar
