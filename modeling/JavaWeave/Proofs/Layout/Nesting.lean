import JavaWeave.Proofs.Layout.Branches
import JavaWeave.Proofs.Layout.Rereading

/-! Which `if` an `else` belongs to when the text of a statement is read again. The first branch of an `if` is set
without braces unless it is a block, and an `else` belongs to the nearest `if` before it that has none: the
statement comes back exactly if no first branch in front of an `else` ends in an open `if`. -/

namespace JavaWeave.Layout

open Syntax Grammar

namespace Nesting

/-- What the first token of a statement can tell. Every other token begins an expression or a label. -/
inductive Start where
  | block
  | empty
  | conditional
  | whileLoop
  | forLoop
  | jump (word : String)
  | returns
  | throws
  deriving DecidableEq

def start? : Token → Option Start
  | .symbol text => [("\x7b", .block), (";", .empty)].lookup text
  | .keyword word =>
    [("if", .conditional), ("while", .whileLoop), ("for", .forLoop), ("break", .jump "break"),
      ("continue", .jump "continue"), ("return", .returns), ("throw", .throws)].lookup word
  | _ => none

/-- The rest after a reserved word that comes next. -/
def expectWord (word : String) : List Token → Option (List Token)
  | .keyword found :: rest => if found = word then some rest else none
  | _ => none

theorem expectWord_of_ne {word : String} {t : Token} (other : t ≠ .keyword word) (rest : List Token) :
    expectWord word (t :: rest) = none := by
  cases t with
  | keyword found => simpa [expectWord] using other
  | _ => rfl

/-- An expression and the symbol behind it. -/
def readUntil (close : String) (ts : List Token) : Option (Expression × List Token) := do
  let (e, rest) ← (Grammar.Rule.expression 0).read ts
  let rest ← expect close rest
  some (e, rest)

/-- An expression that may be missing, and the symbol behind it. -/
def readOptional (close : String) (ts : List Token) : Option (Option Expression × List Token) :=
  match expect close ts with
  | some rest => some (none, rest)
  | none => (readUntil close ts).map fun (e, rest) => (some e, rest)

/-- The condition of an `if` or a loop. -/
def readCondition (ts : List Token) : Option (Expression × List Token) := do
  let rest ← expect "(" ts
  readUntil ")" rest

/-- The label of a jump, if it has one, and the semicolon. -/
def readLabel : List Token → Option (Option String × List Token)
  | .word label :: rest => (expect ";" rest).map (some label, ·)
  | ts => (expect ";" ts).map (none, ·)

def jumpOf (word : String) (label : Option String) : Statement :=
  if word = "break" then .breaks label else .continues label

/-- The type and the name of a variable. -/
def readItem : List Token → Option (LocalVariable × List Token)
  | .word t :: .word x :: rest => some ({ type := .named t, name := x }, rest)
  | .keyword t :: .word x :: rest => some ({ type := .named t, name := x }, rest)
  | _ => none

/-- What a `for` loop says about its passes. -/
inductive Head where
  | counted (start : List Statement) (condition : Option Expression) (update : List Expression)
  | each (item : LocalVariable) (iterable : Expression)

/-- The loop with the given body. -/
def Head.over : Head → Statement → Statement
  | .counted start condition update, body => .forLoop start condition update body
  | .each item iterable, body => .forEach item iterable body

/-- The condition and the updates of a counting loop. -/
def readCounted (start : List Statement) (ts : List Token) : Option (Head × List Token) := do
  let (condition, rest) ← readOptional ";" ts
  let (update, rest) ← Grammar.Rule.arguments.read rest
  some (.counted start condition update, rest)

/-- The head of a `for` loop from behind the opening parenthesis. -/
def readHead (ts : List Token) : Option (Head × List Token) :=
  match readItem ts with
  | some (item, rest) =>
    match expect ":" rest with
    | some rest => (readUntil ")" rest).map fun (e, rest) => (.each item e, rest)
    | none =>
      match expect "=" rest with
      | some rest => do
        let (e, rest) ← readUntil ";" rest
        readCounted [.declare { item with initial := some e }] rest
      | none => do
        let rest ← expect ";" rest
        readCounted [.declare item] rest
  | none => do
    let (e, rest) ← readOptional ";" ts
    readCounted (e.toList.map .expression) rest

/-- A rule of the reader, with the type of what it reads. -/
inductive Rule : Type → Type where
  /-- A statement at the head of the tokens. An `else` that comes next behind the first branch of an `if` is taken for
  it. -/
  | statement : Rule Statement
  /-- Statements up to and with the closing brace. -/
  | block : Rule (List Statement)

def Rule.read {α : Type} (rule : Rule α) (ts : List Token) : Option (α × List Token) :=
  match rule with
  | .statement =>
    match ts.head?.bind start? with
    | some .block => do
      let (body, rest) ← Rule.block |>.read ts.tail
      some (.block body, rest)
    | some .empty => some (.empty, ts.tail)
    | some .conditional => do
      let (condition, rest) ← readCondition ts.tail
      let (whenTrue, rest) ← Rule.statement |>.read rest
      match expectWord "else" rest with
      | some rest => do
        let (whenFalse, rest) ← Rule.statement |>.read rest
        some (.ifElse condition whenTrue (some whenFalse), rest)
      | none => some (.ifElse condition whenTrue none, rest)
    | some .whileLoop => do
      let (condition, rest) ← readCondition ts.tail
      let (body, rest) ← Rule.statement |>.read rest
      some (.whileLoop condition body, rest)
    | some .forLoop => do
      let rest ← expect "(" ts.tail
      let (head, rest) ← readHead rest
      let (body, rest) ← Rule.statement |>.read rest
      some (head.over body, rest)
    | some (.jump word) => (readLabel ts.tail).map fun (label, rest) => (jumpOf word label, rest)
    | some .returns => (readOptional ";" ts.tail).map fun (value, rest) => (.returns value, rest)
    | some .throws => (readUntil ";" ts.tail).map fun (value, rest) => (.throws value, rest)
    | none => do
      let (e, rest) ← (Grammar.Rule.expression 0).read ts
      match e, expect ":" rest with
      | .name label, some rest => do
        let (body, rest) ← Rule.statement |>.read rest
        some (.labeled label body, rest)
      | e, _ => (expect ";" rest).map (.expression e, ·)
  | .block =>
    match expect "\x7d" ts with
    | some rest => some ([], rest)
    | none => do
      let (s, rest) ← Rule.statement |>.read ts
      let (ss, rest) ← Rule.block |>.read rest
      some (s :: ss, rest)
partial_fixpoint

/-- A text read as a statement. -/
def ReadsStatement (text : String) (tree : Statement) : Prop :=
  ∃ tokens, Lexed text.toList tokens ∧ Rule.statement.read tokens = some (tree, [])

/-- Whether a statement ends in an `if` without `else`, which would take one that follows. -/
def endsOpen : Statement → Bool
  | .ifElse _ _ whenFalse =>
    match whenFalse with
    | some s => endsOpen s
    | none => true
  | .whileLoop _ body | .forLoop _ _ _ body | .forEach _ _ body | .labeled _ body => endsOpen body
  | _ => false

mutual

/-- Whether no first branch in front of an `else` ends in an open `if`. -/
def settled : Statement → Bool
  | .block body => allSettled body
  | .ifElse _ whenTrue whenFalse =>
    settled whenTrue &&
      match whenFalse with
      | some s => !endsOpen whenTrue && settled s
      | none => true
  | .whileLoop _ body | .forLoop _ _ _ body | .forEach _ _ body | .labeled _ body => settled body
  | _ => true

def allSettled : List Statement → Bool
  | [] => true
  | s :: rest => settled s && allSettled rest

end

/-- What is read has no `else` behind a first branch that ends in an open `if`, and a statement has taken an `else` that
comes behind it if it could. -/
def Rule.Took {α : Type} (rule : Rule α) (read : α × List Token) : Prop :=
  match rule with
  | .statement => settled read.1 = true ∧ (endsOpen read.1 = true → expectWord "else" read.2 = none)
  | .block => allSettled read.1 = true

theorem Head.settled_over (head : Head) (body : Statement) : settled (head.over body) = settled body := by
  cases head <;> simp [Head.over, settled]

theorem Head.endsOpen_over (head : Head) (body : Statement) : endsOpen (head.over body) = endsOpen body := by
  cases head <;> simp [Head.over, endsOpen]

theorem Rule.took {α : Type} {rule : Rule α} {ts : List Token} {read : α × List Token}
    (found : rule.read ts = some read) : rule.Took read := by
  refine Rule.read.partial_correctness (fun rule _ read => rule.Took read) ?_ rule ts read found
  intro again took α rule ts read found
  cases rule with
  | statement =>
    simp only at found
    split at found
    next =>
      obtain ⟨⟨body, rest⟩, first, found⟩ := Option.bind_eq_some_iff.1 found
      obtain rfl := Option.some.inj found
      exact ⟨took _ _ _ first, by simp [endsOpen]⟩
    next =>
      obtain rfl := Option.some.inj found
      exact ⟨by simp [settled], by simp [endsOpen]⟩
    next =>
      obtain ⟨⟨condition, rest⟩, -, found⟩ := Option.bind_eq_some_iff.1 found
      obtain ⟨⟨whenTrue, rest⟩, first, found⟩ := Option.bind_eq_some_iff.1 found
      obtain ⟨tidy, closed⟩ := took _ _ _ first
      simp only at found tidy closed
      split at found
      next behind word =>
        obtain ⟨⟨whenFalse, rest⟩, second, found⟩ := Option.bind_eq_some_iff.1 found
        obtain rfl := Option.some.inj found
        obtain ⟨tidy', closed'⟩ := took _ _ _ second
        have shut : endsOpen whenTrue = false := by
          rw [← Bool.not_eq_true]
          intro opened
          simp [closed opened] at word
        exact ⟨by simpa [settled, tidy, shut] using tidy', by simpa [endsOpen] using closed'⟩
      next none =>
        obtain rfl := Option.some.inj found
        exact ⟨by simpa [settled] using tidy, fun _ => none⟩
    next =>
      obtain ⟨⟨condition, rest⟩, -, found⟩ := Option.bind_eq_some_iff.1 found
      obtain ⟨⟨body, rest⟩, first, found⟩ := Option.bind_eq_some_iff.1 found
      obtain rfl := Option.some.inj found
      obtain ⟨tidy, closed⟩ := took _ _ _ first
      exact ⟨by simpa [settled] using tidy, by simpa [endsOpen] using closed⟩
    next =>
      obtain ⟨rest, -, found⟩ := Option.bind_eq_some_iff.1 found
      obtain ⟨⟨head, rest⟩, -, found⟩ := Option.bind_eq_some_iff.1 found
      obtain ⟨⟨body, rest⟩, first, found⟩ := Option.bind_eq_some_iff.1 found
      obtain rfl := Option.some.inj found
      obtain ⟨tidy, closed⟩ := took _ _ _ first
      exact ⟨by simpa [head.settled_over] using tidy, by simpa [head.endsOpen_over] using closed⟩
    next word _ =>
      obtain ⟨⟨label, rest⟩, -, rfl⟩ := Option.map_eq_some_iff.1 found
      by_cases leaves : word = "break" <;> exact ⟨by simp [jumpOf, leaves, settled], by simp [jumpOf, leaves, endsOpen]⟩
    next =>
      obtain ⟨⟨value, rest⟩, -, rfl⟩ := Option.map_eq_some_iff.1 found
      exact ⟨by simp [settled], by simp [endsOpen]⟩
    next =>
      obtain ⟨⟨value, rest⟩, -, rfl⟩ := Option.map_eq_some_iff.1 found
      exact ⟨by simp [settled], by simp [endsOpen]⟩
    next =>
      obtain ⟨⟨e, rest⟩, -, found⟩ := Option.bind_eq_some_iff.1 found
      simp only at found
      split at found
      next label behind =>
        obtain ⟨⟨body, rest⟩, first, found⟩ := Option.bind_eq_some_iff.1 found
        obtain rfl := Option.some.inj found
        obtain ⟨tidy, closed⟩ := took _ _ _ first
        exact ⟨by simpa [settled] using tidy, by simpa [endsOpen] using closed⟩
      next =>
        obtain ⟨rest, -, rfl⟩ := Option.map_eq_some_iff.1 found
        exact ⟨by simp [settled], by simp [endsOpen]⟩
  | block =>
    change allSettled read.1 = true
    simp only at found
    split at found
    next =>
      obtain rfl := Option.some.inj found
      simp [allSettled]
    next =>
      obtain ⟨⟨s, rest⟩, first, found⟩ := Option.bind_eq_some_iff.1 found
      obtain ⟨⟨ss, rest⟩, others, found⟩ := Option.bind_eq_some_iff.1 found
      obtain rfl := Option.some.inj found
      have tidy : settled s = true := (took _ _ _ first).1
      have tidies : allSettled ss = true := took _ _ _ others
      simp [allSettled, tidy, tidies]

/-- What a counting loop may start with. -/
inductive IsStart : List Statement → Prop where
  | nothing : IsStart []
  | expression {e : Expression} (plain : Plain e) : IsStart [.expression e]
  | declared {t x : String} {initial : Option Expression} (type : IsName t) (name : Names.isIdentifier x = true)
      (plain : ∀ e ∈ initial, Plain e) :
      IsStart [.declare { type := .named t, name := x, initial }]

/-- Branches, loops and labels over blocks and over other statements, in any nesting. -/
inductive Nested : Statement → Prop where
  | empty : Nested .empty
  | expression {e : Expression} (plain : Plain e) : Nested (.expression e)
  | jump {word : String} {label : Option String} (known : word ∈ ["break", "continue"])
      (identifier : ∀ x ∈ label, Names.isIdentifier x = true) : Nested (jumpOf word label)
  | returns {value : Option Expression} (plain : ∀ e ∈ value, Plain e) : Nested (.returns value)
  | throws {e : Expression} (plain : Plain e) : Nested (.throws e)
  | block {body : List Statement} (parts : ∀ s ∈ body, Nested s) : Nested (.block body)
  | ifElse {c : Expression} {whenTrue : Statement} {whenFalse : Option Statement} (condition : Plain c)
      (first : Nested whenTrue) (second : ∀ s ∈ whenFalse, Nested s) : Nested (.ifElse c whenTrue whenFalse)
  | whileLoop {c : Expression} {body : Statement} (condition : Plain c) (inner : Nested body) :
      Nested (.whileLoop c body)
  | forLoop {start : List Statement} {condition : Option Expression} {update : List Expression} {body : Statement}
      (starts : IsStart start) (ends : ∀ e ∈ condition, Plain e) (steps : ∀ e ∈ update, Plain e)
      (inner : Nested body) : Nested (.forLoop start condition update body)
  | forEach {t x : String} {e : Expression} {body : Statement} (type : IsName t)
      (name : Names.isIdentifier x = true) (plain : Plain e) (inner : Nested body) : Nested (.forEach { type := .named t, name := x } e body)
  | labeled {x : String} {body : Statement} (identifier : Names.isIdentifier x = true) (inner : Nested body) :
      Nested (.labeled x body)

/-- Line ends and indentation are blanks, and there is a line end. -/
structure Spaced (settings : Settings) : Prop where
  newline : settings.newline.toList ≠ []
  lineBlank : ∀ c ∈ settings.newline.toList, isBlank c = true
  indentBlank : ∀ c ∈ settings.indent.toList, isBlank c = true

/-- An expression in a place that a symbol closes: how it is cut, and that it is read up to the symbol. -/
structure Closed (text : String) (e : Expression) (ts : List Token) : Prop where
  derived : Derives ts (.expression 0 e)
  cut : ∀ close ∈ [")", ";"], Cut (text ++ close) (ts ++ [.symbol close])
  filled : ∃ c rest, text.toList = c :: rest

theorem closed_of_plain (place : Place) {e : Expression} (plain : Plain e) :
    ∃ ts, Closed (expression place 0 e) e ts := by
  obtain ⟨ts, rendered⟩ := rendered_at 0 (by decide) (plain.rendered place)
  refine ⟨ts, rendered.derived, fun close member => ?_, rendered.filled⟩
  have known : ∀ close ∈ [")", ";"], close ∈ ["(", ")", "[", "]", ",", ";", "\x7b", "\x7d"]
      ∧ ∃ c rest, close.toList = c :: rest ∧ c ∈ closers := by
    simp only [List.forall_mem_cons]
    exact ⟨⟨by decide, ')', [], rfl, by decide⟩, ⟨by decide, ';', [], rfl, by decide⟩, nofun⟩
  obtain ⟨symbol, c, rest, shape, closer⟩ := known close member
  exact rendered.scans.append (cut_symbol symbol) ⟨c, rest, shape, follows_closer closer⟩

theorem Closed.readUntil {text : String} {e : Expression} {ts : List Token} (closed : Closed text e ts)
    (close : String) (member : close ∈ [")", ";"]) (rest : List Token) :
    readUntil close (ts ++ .symbol close :: rest) = some (e, rest) := by
  have all : ∀ close ∈ [")", ";"], link (.symbol close) = none ∧ Token.symbol close ≠ .symbol "(" := by decide
  obtain ⟨ends, other⟩ := all close member
  rw [Nesting.readUntil, Phrase.Found.read_eq closed.derived.found (stops_of_no_link ends other 0 rest)]
  simp

theorem Closed.readCondition {text : String} {e : Expression} {ts : List Token} (closed : Closed text e ts)
    (rest : List Token) : readCondition (.symbol "(" :: (ts ++ .symbol ")" :: rest)) = some (e, rest) := by
  simp [Nesting.readCondition, closed.readUntil]

/-- A token that begins no other statement and ends none. -/
def Leads (t : Token) : Prop :=
  start? t = none ∧ t ∉ [.keyword "else", .symbol "\x7d", .symbol ";", .symbol ")"]

/-- The tokens of an expression begin as those of an expression do, and never with the declaration of a variable. -/
def Phrase.Leads (ts : List Token) : Phrase → Prop
  | .expression _ _ =>
    (∃ t rest, ts = t :: rest ∧ Nesting.Leads t)
      ∧ ∀ t rest, (∀ x, t ≠ .word x) → readItem (ts ++ t :: rest) = none
  | _ => True

theorem leads_of_derives {ts : List Token} {phrase : Phrase} (derived : Derives ts phrase) :
    Phrase.Leads ts phrase := by
  induction derived with
  | name x =>
    refine ⟨⟨_, _, rfl, rfl, by simp⟩, fun t rest other => ?_⟩
    cases t with
    | word y => exact absurd rfl (other y)
    | _ => rfl
  | integer | call => exact ⟨⟨_, _, rfl, rfl, by simp⟩, fun _ _ _ => rfl⟩
  | boolean value =>
    refine ⟨⟨_, _, rfl, ?_⟩, fun t rest other => ?_⟩
    · cases value <;> exact ⟨rfl, by decide⟩
    · cases t with
      | word y => exact absurd rfl (other y)
      | _ => rfl
  | null =>
    refine ⟨⟨_, _, rfl, rfl, by decide⟩, fun t rest other => ?_⟩
    cases t with
    | word y => exact absurd rfl (other y)
    | _ => rfl
  | parentheses => exact ⟨⟨_, _, rfl, rfl, by decide⟩, fun _ _ _ => rfl⟩
  | @inFront ts e op =>
    refine ⟨⟨_, _, rfl, ?_⟩, fun _ _ _ => rfl⟩
    cases op <;> exact ⟨rfl, by decide⟩
  | field _ _ ih | element _ _ ih _ | callOn _ _ _ ih _ | behind _ _ ih | binary _ _ ih _
    | instanceOf _ _ ih _ | conditional _ _ _ ih _ _ | assign _ _ _ ih _ =>
    obtain ⟨⟨t, more, rfl, leads⟩, apart⟩ := ih
    refine ⟨⟨t, _, rfl, leads⟩, fun u rest _ => ?_⟩
    simpa using apart _ _ (by simp)
  | tighter _ ih => exact ih
  | _ => trivial

theorem Closed.readOptional {text : String} {e : Expression} {ts : List Token} (closed : Closed text e ts)
    (rest : List Token) : readOptional ";" (ts ++ .symbol ";" :: rest) = some (some e, rest) := by
  obtain ⟨⟨t, more, shape, -, apart⟩, -⟩ := leads_of_derives closed.derived
  have other : t ≠ .symbol ";" := by
    rintro rfl
    simp at apart
  have none : expect ";" (ts ++ .symbol ";" :: rest) = none := by rw [shape, List.cons_append, expect_of_ne other]
  rw [Nesting.readOptional, none]
  simp only [closed.readUntil ";" (by decide), Option.map_some]

/-- The text of a statement: how it is cut, how it begins, and that it is read as that statement up to what the
statement does not take for itself. -/
structure Laid (text : String) (s : Statement) (ts : List Token) : Prop where
  cut : Cut text ts
  begins : ∃ t more, ts = t :: more ∧ t ∉ [.keyword "else", .symbol "\x7d"]
  found : settled s = true → ∀ rest, (endsOpen s = true → expectWord "else" rest = none) →
    Rule.statement.read (ts ++ rest) = some (s, rest)

section Forms

variable {place : Place} {text : String} {s : Statement} {ts : List Token}

theorem Laid.indented (laid : Laid text s ts) {gap : String} (blank : ∀ c ∈ gap.toList, isBlank c = true) :
    Laid (gap ++ text) s ts where
  cut := (cut_blanks blank).append laid.cut
  begins := laid.begins
  found := laid.found

theorem line_blank (spaced : Spaced place.settings) :
    (∀ c ∈ place.line.toList, isBlank c = true) ∧ ∃ c rest, place.line.toList = c :: rest := by
  have text : place.line.toList
      = place.settings.newline.toList ++ (List.replicate place.level place.settings.indent).flatMap String.toList := by
    simp [Place.line]
  obtain ⟨c, rest, shape⟩ := List.exists_cons_of_ne_nil spaced.newline
  refine ⟨fun d member => ?_, c, _, by rw [text, shape]; rfl⟩
  rw [text, List.mem_append, List.mem_flatMap] at member
  obtain newline | ⟨indent, copy, inside⟩ := member
  · exact spaced.lineBlank d newline
  · obtain rfl := List.eq_of_mem_replicate copy
    exact spaced.indentBlank d inside

theorem gap_line (spaced : Spaced place.settings) : Gap place.line :=
  ⟨(line_blank spaced).1, (line_blank spaced).2⟩

/-- The text of the statement is set right at every place. -/
def Lays (s : Statement) : Prop := ∀ place : Place, Spaced place.settings → ∃ ts, Laid (statement place s) s ts

theorem Lays.exists_set (lays : Lays s) (spaced : Spaced place.settings) (here : Bool) :
    ∃ gap text ts, (if here then " " ++ statement place s else place.deeper.line ++ statement place.deeper s)
        = gap ++ text
      ∧ Gap gap ∧ Laid text s ts := by
  split
  · obtain ⟨ts, laid⟩ := lays place spaced
    exact ⟨" ", _, ts, rfl, gap_blank, laid⟩
  · have deeper : Spaced place.deeper.settings := spaced
    obtain ⟨ts, laid⟩ := lays place.deeper deeper
    exact ⟨_, _, ts, rfl, gap_line deeper, laid⟩

theorem Lays.exists_branch (lays : Lays s) (spaced : Spaced place.settings) :
    ∃ gap text ts, branch place s = gap ++ text ∧ Gap gap ∧ Laid text s ts :=
  lays.exists_set spaced (isBlock s)

theorem Lays.exists_alternative (lays : Lays s) (spaced : Spaced place.settings) :
    ∃ gap text ts, alternative place s = gap ++ text ∧ Gap gap ∧ Laid text s ts :=
  lays.exists_set spaced (isConditional s || isBlock s)

/-- A reserved word with a condition in parentheses. -/
theorem cut_guard {e : Expression} (word : String) (letters : isWord word.toList = true)
    (reserved : Names.isKeyword word = true) (closed : Closed text e ts) :
    Cut (word ++ " (" ++ text ++ ")") (.keyword word :: .symbol "(" :: (ts ++ [.symbol ")"])) := by
  have opening := (cut_word word letters reserved gap_blank).append (cut_symbol (s := "(") (by decide))
  have whole := opening.append (closed.cut ")" (by decide))
  simpa [String.append_assoc] using whole

variable {e : Expression} {body gap : String} {us vs : List Token}

theorem laid_whileLoop (closed : Closed text e ts) (separates : Gap gap) (inner : Laid body s us) :
    Laid ("while (" ++ text ++ ")" ++ (gap ++ body)) (.whileLoop e s)
      (.keyword "while" :: .symbol "(" :: (ts ++ .symbol ")" :: us)) where
  cut := by
    have guarded := cut_guard "while" (by decide) (by decide) closed
    simpa using guarded.append (inner.indented separates.blank).cut
  begins := ⟨_, _, rfl, by decide⟩
  found := by
    intro tidy rest shut
    rw [settled] at tidy
    rw [endsOpen] at shut
    have start : start? (.keyword "while") = some .whileLoop := rfl
    simp only [List.cons_append, List.append_assoc]
    rw [Rule.read]
    simp only [List.head?_cons, Option.bind_some, start, List.tail_cons, closed.readCondition, Option.bind_eq_bind,
      inner.found tidy rest shut]

theorem laid_if (closed : Closed text e ts) (separates : Gap gap) (inner : Laid body s us) :
    Laid ("if (" ++ text ++ ")" ++ (gap ++ body)) (.ifElse e s none)
      (.keyword "if" :: .symbol "(" :: (ts ++ .symbol ")" :: us)) where
  cut := by
    have guarded := cut_guard "if" (by decide) (by decide) closed
    simpa using guarded.append (inner.indented separates.blank).cut
  begins := ⟨_, _, rfl, by decide⟩
  found := by
    intro tidy rest shut
    have none : expectWord "else" rest = none := shut (by rw [endsOpen])
    have tidy' : settled s = true := by simpa [settled] using tidy
    have start : start? (.keyword "if") = some .conditional := rfl
    simp only [List.cons_append, List.append_assoc]
    rw [Rule.read]
    simp only [List.head?_cons, Option.bind_some, start, List.tail_cons, closed.readCondition, Option.bind_eq_bind,
      inner.found tidy' rest fun _ => none, none]

theorem laid_ifElse {other : Statement} {second between last : String} (closed : Closed text e ts)
    (separates : Gap gap) (inner : Laid body s us) (parts : Gap between) (follows : Gap last)
    (outer : Laid second other vs) :
    Laid ("if (" ++ text ++ ")" ++ (gap ++ body) ++ (between ++ "else" ++ (last ++ second)))
      (.ifElse e s (some other))
      (.keyword "if" :: .symbol "(" :: (ts ++ .symbol ")" :: (us ++ .keyword "else" :: vs))) where
  cut := by
    have guarded := cut_guard "if" (by decide) (by decide) closed
    have first := guarded.append (inner.indented separates.blank).cut
    have marked := (cut_blanks parts.blank).append (cut_word "else" (by decide) (by decide) follows)
    simpa [String.append_assoc] using first.append (marked.append outer.cut)
  begins := ⟨_, _, rfl, by decide⟩
  found := by
    intro tidy rest shut
    rw [endsOpen] at shut
    obtain ⟨first, closedEnd, second⟩ : settled s = true ∧ endsOpen s = false ∧ settled other = true := by
      simpa [settled] using tidy
    have start : start? (.keyword "if") = some .conditional := rfl
    have taken := inner.found first (.keyword "else" :: (vs ++ rest)) (by simp [closedEnd])
    have word : expectWord "else" (.keyword "else" :: (vs ++ rest)) = some (vs ++ rest) := by simp [expectWord]
    simp only [List.cons_append, List.append_assoc]
    rw [Rule.read]
    simp only [List.head?_cons, Option.bind_some, start, List.tail_cons, closed.readCondition, Option.bind_eq_bind,
      taken, word, outer.found second rest shut]

theorem laid_labeled {x : String} (identifier : Names.isIdentifier x = true) (inner : Laid body s us) :
    Laid (x ++ ": " ++ body) (.labeled x s) (.word x :: .symbol ":" :: us) where
  cut := by
    have colon := (scans_symbol (s := ":") (by decide)).blank (joins_blank _)
    have free : continuesWord ':' = false := (continuesWord_of_small (by decide)).trans (by decide)
    have label := (scans_word identifier).append colon ⟨':', [' '], by simp, free⟩
    simpa using Cut.append label inner.cut
  begins := ⟨_, _, rfl, by simp⟩
  found := by
    intro tidy rest shut
    rw [settled] at tidy
    rw [endsOpen] at shut
    have stops : Stops 0 (.symbol ":" :: (us ++ rest)) := stops_symbol ":" (by decide) 0 _
    have label := Phrase.Found.read_eq ((Derives.name x).loosen (Nat.zero_le 15)).found stops
    simp only [List.cons_append]
    rw [Rule.read]
    simp only [List.head?_cons, Option.bind_some, start?]
    rw [List.singleton_append] at label
    simp only [label, Option.bind_eq_bind, Option.bind_some, expect_symbol, inner.found tidy rest shut]

theorem laid_empty : Laid ";" .empty [.symbol ";"] where
  cut := cut_symbol (by decide)
  begins := ⟨_, _, rfl, by decide⟩
  found := by
    intro _ rest _
    rw [List.singleton_append, Rule.read]
    rfl

theorem laid_expression (closed : Closed text e ts) : Laid (text ++ ";") (.expression e) (ts ++ [.symbol ";"]) where
  cut := closed.cut ";" (by decide)
  begins := by
    obtain ⟨⟨t, more, rfl, leads⟩, -⟩ := leads_of_derives closed.derived
    have fewer : [Token.keyword "else", .symbol "\x7d"]
        ⊆ [.keyword "else", .symbol "\x7d", .symbol ";", .symbol ")"] := by decide
    exact ⟨t, _, rfl, fun member => leads.2 (fewer member)⟩
  found := by
    intro _ rest _
    obtain ⟨⟨t, more, shape, leads⟩, -⟩ := leads_of_derives closed.derived
    have stops : Stops 0 (.symbol ";" :: rest) := stops_of_no_link (by decide) (by decide) 0 rest
    have found := Phrase.Found.read_eq closed.derived.found stops
    rw [List.append_assoc, List.singleton_append, Rule.read]
    rw [found, shape, List.cons_append, List.head?_cons, Option.bind_some, leads.1]
    simp [expect]

theorem laid_returns (closed : Closed text e ts) :
    Laid ("return " ++ text ++ ";") (.returns (some e)) (.keyword "return" :: (ts ++ [.symbol ";"])) where
  cut := by
    have word := cut_word "return" (by decide) (by decide) gap_blank
    simpa [String.append_assoc] using word.append (closed.cut ";" (by decide))
  begins := ⟨_, _, rfl, by decide⟩
  found := by
    intro _ rest _
    have start : start? (.keyword "return") = some .returns := rfl
    simp only [List.cons_append, List.append_assoc, List.nil_append]
    rw [Rule.read]
    simp only [List.head?_cons, Option.bind_some, start, List.tail_cons, closed.readOptional, Option.map_some]

theorem laid_throws (closed : Closed text e ts) :
    Laid ("throw " ++ text ++ ";") (.throws e) (.keyword "throw" :: (ts ++ [.symbol ";"])) where
  cut := by
    have word := cut_word "throw" (by decide) (by decide) gap_blank
    simpa [String.append_assoc] using word.append (closed.cut ";" (by decide))
  begins := ⟨_, _, rfl, by decide⟩
  found := by
    intro _ rest _
    have start : start? (.keyword "throw") = some .throws := rfl
    have value := closed.readUntil ";" (by decide) rest
    simp only [List.cons_append, List.append_assoc, List.nil_append]
    rw [Rule.read]
    simp only [List.head?_cons, Option.bind_some, start, List.tail_cons, value, Option.map_some]

/-- A word that ends at a semicolon. -/
theorem cut_closed_word (word : String) {t : Token} (scans : Scans (fun c => continuesWord c = false) word [t]) :
    Cut (word ++ ";") [t, .symbol ";"] := by
  have free : continuesWord ';' = false := (continuesWord_of_small (by decide)).trans (by decide)
  exact scans.append (cut_symbol (s := ";") (by decide)) ⟨';', [], rfl, free⟩

theorem laid_returns_nothing : Laid "return;" (.returns none) [.keyword "return", .symbol ";"] where
  cut := cut_closed_word "return" (scans_keyword (by decide) (by decide))
  begins := ⟨_, _, rfl, by decide⟩
  found := by
    intro _ rest _
    rw [List.cons_append, List.singleton_append, Rule.read]
    rfl

theorem laid_jump {word : String} (known : word ∈ ["break", "continue"]) {label : Option String}
    (identifier : ∀ x ∈ label, Names.isIdentifier x = true) :
    ∃ ts, Laid (jump word label) (jumpOf word label) ts := by
  have facts : ∀ word ∈ ["break", "continue"], isWord word.toList = true ∧ Names.isKeyword word = true
      ∧ start? (.keyword word) = some (.jump word) ∧ Token.keyword word ∉ [.keyword "else", .symbol "\x7d"] := by decide
  obtain ⟨letters, reserved, start, other⟩ := facts word known
  cases label with
  | none =>
    refine ⟨[.keyword word, .symbol ";"], cut_closed_word _ (scans_keyword letters reserved), ⟨_, _, rfl, other⟩, ?_⟩
    intro _ rest _
    rw [List.cons_append, List.singleton_append, Rule.read]
    simp [start, readLabel]
  | some x =>
    refine ⟨[.keyword word, .word x, .symbol ";"], ?_, ⟨_, _, rfl, other⟩, ?_⟩
    · have named := cut_closed_word _ (scans_word (identifier x rfl))
      simpa [jump, String.append_assoc] using (cut_word word letters reserved gap_blank).append named
    · intro _ rest _
      rw [List.cons_append, List.cons_append, List.singleton_append, Rule.read]
      simp [start, readLabel]

/-- The text of the head of a loop with its closing parenthesis. -/
structure Headed (text : String) (head : Head) (ts : List Token) : Prop where
  cut : Cut text ts
  found : ∀ rest, readHead (ts ++ rest) = some (head, rest)

theorem laid_over {head : Head} (headed : Headed text head ts) (separates : Gap gap) (inner : Laid body s us) :
    Laid ("for (" ++ text ++ (gap ++ body)) (head.over s) (.keyword "for" :: .symbol "(" :: (ts ++ us)) where
  cut := by
    have word := cut_word "for" (by decide) (by decide) gap_blank
    have opening := word.append (cut_symbol (s := "(") (by decide))
    simpa [String.append_assoc] using opening.append (headed.cut.append (inner.indented separates.blank).cut)
  begins := ⟨_, _, rfl, by decide⟩
  found := by
    intro tidy rest shut
    rw [head.settled_over] at tidy
    rw [head.endsOpen_over] at shut
    have start : start? (.keyword "for") = some .forLoop := rfl
    simp only [List.cons_append, List.append_assoc]
    rw [Rule.read]
    simp only [List.head?_cons, Option.bind_some, start, List.tail_cons, expect_symbol, Option.bind_eq_bind,
      headed.found, inner.found tidy rest shut]

/-- The type of a variable and a blank. -/
theorem cut_item {t : String} (type : IsName t) : Cut (t ++ " ") [nameToken t] :=
  (scans_name type).blank ((continuesWord_of_small (by decide)).trans (by decide))

theorem readItem_nameToken (t x : String) (rest : List Token) :
    readItem (nameToken t :: .word x :: rest) = some ({ type := .named t, name := x }, rest) := by
  unfold nameToken
  split <;> rfl

theorem exists_headed_each {t x : String} (type : IsName t)
    (name : Names.isIdentifier x = true) (closed : Closed text e ts) :
    ∃ us, Headed (t ++ " " ++ x ++ " : " ++ text ++ ")") (.each { type := .named t, name := x } e) us := by
  refine ⟨nameToken t :: .word x :: .symbol ":" :: (ts ++ [.symbol ")"]), ?_, fun rest => ?_⟩
  · have colon : Cut (":" ++ " ") [.symbol ":"] := (scans_symbol (by decide)).blank (joins_blank _)
    have shape : t ++ " " ++ x ++ " : " ++ text ++ ")"
        = t ++ " " ++ (x ++ " ") ++ (":" ++ " " ++ (text ++ ")")) := by
      rw [show " : " = " " ++ (":" ++ " ") from rfl]
      simp only [String.append_assoc]
    rw [shape]
    exact ((cut_item type).append (cut_identifier name)).append (colon.append (closed.cut ")" (by decide)))
  · have value := closed.readUntil ")" (by decide) rest
    simp only [List.cons_append, List.append_assoc, List.nil_append]
    simp only [readHead, readItem_nameToken, expect_symbol, value, Option.map_some]

/-- No expression binds looser than an assignment. -/
theorem expression_assignLevel (place : Place) (e : Expression) :
    expression place assignLevel e = expression place 0 e := by
  have tight : assignLevel ≤ strength e := by
    cases e with
    | binary op =>
      have := precedence_bounds op
      simp only [strength, assignLevel]
      omega
    | unary op => simp only [strength]; split <;> decide
    | _ => simp [strength, assignLevel, conditionalLevel, relationalLevel, unaryLevel, primaryLevel]
  rw [expression_of_le place tight, expression_of_le place (Nat.zero_le _)]

theorem expressions_assignLevel (place : Place) (es : List Expression) :
    expressions place assignLevel es = expressions place 0 es := by
  induction es with
  | nil => simp [expressions]
  | cons e es ih => rw [expressions, expressions, expression_assignLevel, ih]

theorem localVariable_eq (place : Place) (t x : String) (initial : Option Expression) :
    localVariable place { type := .named t, name := x, initial }
      = t ++ " " ++ x ++ (match initial with | some e => " = " ++ expression place 0 e | none => "") := by
  have bare : modifiers {} = "" := rfl
  cases initial <;>
    simp [localVariable, annotations, bare, type, JavaType.named, brackets, expression_assignLevel]

/-- What a counting loop starts with is read up to the semicolon. -/
theorem exists_start (place : Place) {start : List Statement} (starts : IsStart start) :
    ∃ ts, Cut (commas (loopStarts place start) ++ ";") ts ∧ ∀ rest, readHead (ts ++ rest) = readCounted start rest := by
  cases starts with
  | nothing =>
    refine ⟨[.symbol ";"], by simpa [commas, loopStarts] using cut_symbol (s := ";") (by decide), fun rest => ?_⟩
    simp [readHead, readItem, readOptional]
  | @expression e plain =>
    obtain ⟨ts, closed⟩ := closed_of_plain place plain
    refine ⟨ts ++ [.symbol ";"], by simpa [commas, loopStarts] using closed.cut ";" (by decide), fun rest => ?_⟩
    have apart := (leads_of_derives closed.derived).2 (.symbol ";") rest (by simp)
    rw [List.append_assoc, List.singleton_append, readHead, apart]
    simp only [closed.readOptional, Option.bind_eq_bind, Option.bind_some]
    rfl
  | @declared t x initial type name plain =>
    have start (decl : LocalVariable) : commas (loopStarts place [.declare decl]) = localVariable place decl := by
      simp [commas, loopStarts]
    rw [start, localVariable_eq]
    cases initial with
    | none =>
      refine ⟨[nameToken t, .word x, .symbol ";"], ?_, fun rest => ?_⟩
      · simpa [String.append_assoc] using (cut_item type).append (cut_closed_word x (scans_word name))
      · simp [readHead, readItem_nameToken, expect]
    | some e =>
      obtain ⟨ts, closed⟩ := closed_of_plain place (plain e rfl)
      refine ⟨nameToken t :: .word x :: .symbol "=" :: (ts ++ [.symbol ";"]), ?_, fun rest => ?_⟩
      · have equals : Cut ("=" ++ " ") [.symbol "="] := (scans_symbol (by decide)).blank (joins_blank _)
        have shape : t ++ " " ++ x ++ (" = " ++ expression place 0 e) ++ ";"
            = t ++ " " ++ (x ++ " ") ++ ("=" ++ " " ++ (expression place 0 e ++ ";")) := by
          rw [show " = " = " " ++ ("=" ++ " ") from rfl]
          simp only [String.append_assoc]
        rw [shape]
        exact ((cut_item type).append (cut_identifier name)).append (equals.append (closed.cut ";" (by decide)))
      · have value := closed.readUntil ";" (by decide) rest
        have other : expect ":" (.symbol "=" :: (ts ++ .symbol ";" :: rest)) = none := expect_of_ne (by simp) _
        simp only [List.cons_append, List.append_assoc, List.nil_append]
        simp only [readHead, readItem_nameToken, other, expect_symbol, value, Option.bind_eq_bind, Option.bind_some]

/-- The condition of a counting loop and the semicolon. -/
theorem exists_optional (place : Place) {value : Option Expression} (plain : ∀ e ∈ value, Plain e) :
    ∃ ts, Cut (guard place value ++ ";") ts
      ∧ ∀ rest, readOptional ";" (ts ++ rest) = some (value, rest) := by
  cases value with
  | none =>
    refine ⟨[.symbol ";"], ?_, fun rest => by simp [readOptional]⟩
    simpa [guard] using cut_symbol (s := ";") (by decide)
  | some e =>
    obtain ⟨ts, closed⟩ := closed_of_plain place (plain e rfl)
    refine ⟨ts ++ [.symbol ";"], by simpa [guard] using closed.cut ";" (by decide), fun rest => ?_⟩
    rw [List.append_assoc, List.singleton_append, closed.readOptional]

/-- The updates of a counting loop with the closing parenthesis. -/
theorem exists_updates (place : Place) {es : List Expression} (plain : ∀ e ∈ es, Plain e) :
    ∃ ts, Cut (commas (expressions place 0 es) ++ ")") ts
      ∧ ∀ rest, Grammar.Rule.arguments.read (ts ++ rest) = some (es, rest) := by
  have closing : Cut ")" [.symbol ")"] := cut_symbol (by decide)
  rw [← expressions_assignLevel]
  by_cases empty : es = []
  · subst empty
    refine ⟨[.symbol ")"], by simpa [commas, expressions] using closing, fun rest => ?_⟩
    rw [List.singleton_append, Grammar.Rule.read, expect_symbol]
  · have parts : ∀ e ∈ es, ∃ ts, Rendered place assignLevel e ts := fun e member =>
      rendered_at assignLevel (by decide) ((plain e member).rendered place)
    obtain ⟨us, derived, scans, -⟩ := rendered_items parts empty
    refine ⟨us ++ [.symbol ")"], scans.append closing ⟨')', [], rfl, by decide⟩, fun rest => ?_⟩
    rw [List.append_assoc, List.singleton_append]
    exact derived.found.readArguments_eq derived.opens rest

theorem exists_headed_counted (place : Place) {start : List Statement} {condition : Option Expression}
    {update : List Expression} (starts : IsStart start) (ends : ∀ e ∈ condition, Plain e)
    (steps : ∀ e ∈ update, Plain e) :
    ∃ us, Headed (commas (loopStarts place start) ++ "; " ++ guard place condition ++ "; "
        ++ commas (expressions place 0 update) ++ ")") (.counted start condition update) us := by
  obtain ⟨ts, first, head⟩ := exists_start place starts
  obtain ⟨us, second, optional⟩ := exists_optional place ends
  obtain ⟨vs, third, updates⟩ := exists_updates place steps
  refine ⟨ts ++ (us ++ vs), ?_, fun rest => ?_⟩
  · have whole := (first.append cut_blank).append ((second.append cut_blank).append third)
    have semicolon : "; " = ";" ++ " " := rfl
    rw [semicolon]
    simpa only [String.append_assoc, List.append_nil] using whole
  · rw [List.append_assoc, List.append_assoc, head]
    simp only [readCounted, optional, updates, Option.bind_eq_bind, Option.bind_some]

/-- Statements on lines of their own are read one by one up to the closing brace. -/
theorem exists_lines (spaced : Spaced place.settings) {body : List Statement} (lays : ∀ s ∈ body, Lays s) :
    ∃ ts, Cut (String.join ((statements place body).map (place.line ++ ·))) ts
      ∧ (∀ rest, expectWord "else" (ts ++ .symbol "\x7d" :: rest) = none)
      ∧ (allSettled body = true → ∀ rest, Rule.block.read (ts ++ .symbol "\x7d" :: rest) = some (body, rest)) := by
  induction body with
  | nil =>
    refine ⟨[], cut_nothing, fun rest => rfl, fun _ rest => ?_⟩
    rw [List.nil_append, Rule.read, expect_symbol]
  | cons s body ih =>
    obtain ⟨ts, laid⟩ := lays s List.mem_cons_self place spaced
    obtain ⟨us, cut, next, read⟩ := ih fun s member => lays s (List.mem_cons_of_mem _ member)
    obtain ⟨t, more, rfl, other⟩ := laid.begins
    rw [List.mem_cons, List.mem_singleton, not_or] at other
    refine ⟨t :: more ++ us, ?_, fun rest => ?_, fun tidy rest => ?_⟩
    · simpa [statements, String.append_assoc] using (laid.indented (line_blank spaced).1).cut.append cut
    · exact expectWord_of_ne other.1 _
    · obtain ⟨first, others⟩ : settled s = true ∧ allSettled body = true := by simpa [allSettled] using tidy
      have found := laid.found first (us ++ .symbol "\x7d" :: rest) fun _ => next rest
      rw [List.cons_append] at found
      rw [List.append_assoc, List.cons_append, Rule.read, expect_of_ne other.2]
      simp only [found, Option.bind_eq_bind, Option.bind_some, read others rest]

theorem laid_block (spaced : Spaced place.settings) {body : List Statement} (lays : ∀ s ∈ body, Lays s) :
    ∃ ts, Laid (place.braces (statements place.deeper body)) (.block body) ts := by
  have deeper : Spaced place.deeper.settings := spaced
  obtain ⟨ts, cut, -, read⟩ := exists_lines deeper lays
  obtain ⟨gap, blank, shape⟩ : ∃ gap : String, (∀ c ∈ gap.toList, isBlank c = true)
      ∧ place.braces (statements place.deeper body)
        = "\x7b" ++ String.join ((statements place.deeper body).map (place.deeper.line ++ ·)) ++ (gap ++ "\x7d") := by
    unfold Place.braces
    split
    next empty => exact ⟨"", nofun, by simp [List.isEmpty_iff.1 empty]⟩
    next => exact ⟨place.line, (line_blank spaced).1, by simp only [String.append_assoc]⟩
  rw [shape]
  refine ⟨.symbol "\x7b" :: (ts ++ [.symbol "\x7d"]), ?_, ⟨_, _, rfl, by decide⟩, fun tidy rest _ => ?_⟩
  · have closing := (cut_blanks blank).append (cut_symbol (s := "\x7d") (by decide))
    simpa using ((cut_symbol (s := "\x7b") (by decide)).append cut).append closing
  · have start : start? (.symbol "\x7b") = some .block := rfl
    have tidy' : allSettled body = true := by simpa [settled] using tidy
    simp only [List.cons_append, List.append_assoc, List.nil_append]
    rw [Rule.read]
    simp only [List.head?_cons, Option.bind_some, start, List.tail_cons, read tidy' rest, Option.bind_eq_bind]

theorem Nested.lays {s : Statement} (nested : Nested s) : Lays s := by
  induction nested with
  | empty => exact fun _ _ => ⟨_, laid_empty⟩
  | expression plain =>
    intro place _
    obtain ⟨ts, closed⟩ := closed_of_plain place plain
    exact ⟨_, laid_expression closed⟩
  | @jump word label known identifier =>
    intro place _
    obtain ⟨ts, laid⟩ := laid_jump known identifier
    simp only [List.mem_cons, List.not_mem_nil, or_false] at known
    obtain rfl | rfl := known <;> exact ⟨ts, laid⟩
  | @returns value plain =>
    intro place _
    cases value with
    | none => exact ⟨_, laid_returns_nothing⟩
    | some e =>
      obtain ⟨ts, closed⟩ := closed_of_plain place (plain e rfl)
      exact ⟨_, laid_returns closed⟩
  | throws plain =>
    intro place _
    obtain ⟨ts, closed⟩ := closed_of_plain place plain
    exact ⟨_, laid_throws closed⟩
  | block _ ih => exact fun place spaced => laid_block spaced ih
  | @ifElse c whenTrue whenFalse condition _ _ first second =>
    intro place spaced
    obtain ⟨ts, closed⟩ := closed_of_plain place condition
    obtain ⟨gap, text, us, shape, separates, inner⟩ := first.exists_branch spaced
    cases whenFalse with
    | none =>
      rw [statement_if, shape]
      exact ⟨_, by simpa using laid_if closed separates inner⟩
    | some other =>
      obtain ⟨last, text', vs, shape', follows, outer⟩ := (second other rfl).exists_alternative spaced
      have parts : Gap (if isBlock whenTrue then " " else place.line) := by
        split
        · exact gap_blank
        · exact gap_line spaced
      rw [statement_ifElse, shape, shape']
      exact ⟨_, laid_ifElse closed separates inner parts follows outer⟩
  | @whileLoop c body condition _ inner =>
    intro place spaced
    obtain ⟨ts, closed⟩ := closed_of_plain place condition
    obtain ⟨gap, text, us, shape, separates, laid⟩ := inner.exists_branch spaced
    rw [statement_whileLoop, shape]
    exact ⟨_, laid_whileLoop closed separates laid⟩
  | forLoop starts ends steps _ inner =>
    intro place spaced
    obtain ⟨ts, headed⟩ := exists_headed_counted place starts ends steps
    obtain ⟨gap, text, us, shape, separates, laid⟩ := inner.exists_branch spaced
    have whole := laid_over headed separates laid
    rw [statement_forLoop, shape]
    exact ⟨_, by simpa [String.append_assoc, Head.over] using whole⟩
  | @forEach t x e body type name plain _ inner =>
    intro place spaced
    obtain ⟨_, closed⟩ := closed_of_plain place plain
    obtain ⟨ts, headed⟩ := exists_headed_each type name closed
    obtain ⟨gap, text, us, shape, separates, laid⟩ := inner.exists_branch spaced
    have bare : modifiers {} = "" := rfl
    have named : Layout.type (.named t) = t := by simp [Layout.type, JavaType.named, brackets]
    have whole := laid_over headed separates laid
    rw [statement_forEach, shape, bare, named]
    exact ⟨_, by simpa [String.append_assoc, Head.over] using whole⟩
  | labeled identifier _ inner =>
    intro place spaced
    obtain ⟨ts, laid⟩ := inner place spaced
    exact ⟨_, laid_labeled identifier laid⟩

end Forms

section Printed

variable {settings : Settings} {s : Statement} {ts : List Token}

/-- The line end behind a statement adds no token. -/
theorem lexed_of_cut (spaced : Spaced settings) (cut : Cut (statement { settings } s) ts) :
    Lexed (printStatement settings s).toList ts := by
  have printed : Cut (printStatement settings s) ts := by
    unfold printStatement finish
    split
    · simpa using cut.append (cut_blanks spaced.lineBlank)
    · exact cut
  simpa only [List.append_nil] using printed [] [] (fun _ _ => trivial) .nil

/-- The text of a statement is read as that statement and as nothing else exactly if no first branch in front of an
`else` ends in an open `if`. -/
theorem printStatement_reads_iff (spaced : Spaced settings) (nested : Nested s) :
    (∀ tree, ReadsStatement (printStatement settings s) tree ↔ tree = s) ↔ settled s = true := by
  constructor
  · intro faithful
    obtain ⟨tokens, -, found⟩ := (faithful s).2 rfl
    exact (Rule.took found).1
  · intro tidy tree
    obtain ⟨ts, laid⟩ := nested.lays { settings } spaced
    have lexed := lexed_of_cut spaced laid.cut
    have found : Rule.statement.read ts = some (s, []) := by
      simpa only [List.append_nil] using laid.found tidy [] fun _ => rfl
    constructor
    · rintro ⟨tokens, other, read⟩
      rw [other.unique lexed, found] at read
      exact (Prod.mk.inj (Option.some.inj read)).1.symm
    · rintro rfl
      exact ⟨ts, lexed, found⟩

/-- The `else` of an `if` whose first branch is an open `if` is read as that of the inner one. -/
theorem printStatement_reads_inner (spaced : Spaced settings) {outer inner : Expression} {first second : Statement}
    (plain : Plain outer) (plain' : Plain inner) (nested : Nested first) (nested' : Nested second)
    (tidy : settled first = true) (shut : endsOpen first = false) (tidy' : settled second = true) :
    ReadsStatement (printStatement settings (.ifElse outer (.ifElse inner first none) (some second)))
      (.ifElse outer (.ifElse inner first (some second)) none) := by
  let place : Place := { settings }
  have here : Spaced place.settings := spaced
  have deeper : Spaced place.deeper.settings := spaced
  obtain ⟨ts, guard⟩ := closed_of_plain place plain
  obtain ⟨us, guard'⟩ := closed_of_plain place.deeper plain'
  obtain ⟨gap, text, vs, shape, separates, laid⟩ := nested.lays.exists_branch deeper
  obtain ⟨last, text', ws, shape', follows, laid'⟩ := nested'.lays.exists_alternative here
  have opened := laid_if guard' separates laid
  have printed := laid_ifElse guard (gap_line deeper) opened (gap_line here) follows laid'
  have taken := laid_if guard gap_blank (laid_ifElse guard' separates laid gap_blank follows laid')
  -- Both trees are set with the same tokens.
  refine ⟨.keyword "if" :: .symbol "(" :: (ts ++ .symbol ")" :: .keyword "if" :: .symbol "(" ::
    (us ++ .symbol ")" :: (vs ++ .keyword "else" :: ws))), lexed_of_cut spaced ?_, ?_⟩
  · have inside : branch place (.ifElse inner first none)
        = place.deeper.line ++ ("if (" ++ expression place.deeper 0 inner ++ ")" ++ (gap ++ text)) := by
      rw [← shape]
      exact congrArg (place.deeper.line ++ ·) (String.append_empty)
    rw [statement_ifElse, inside, shape']
    simpa [isBlock] using printed.cut
  · simpa using taken.found (by simp [settled, tidy, tidy', shut]) [] fun _ => rfl

example : printStatement {} (.ifElse (.name "a") (.ifElse (.name "b") (.expression (.call none "x" [] [])) none)
      (some (.expression (.call none "y" [] []))))
    = "if (a)\n    if (b)\n        x();\nelse\n    y();\n" := by decide

end Printed

end Nesting

end JavaWeave.Layout
