import JavaWeave.Syntax.Tree
import Mathlib.Algebra.Group.Nat.Defs

/-! How a text is read as an expression: it is cut into tokens, each as long as possible, and the tokens are
derived by a grammar of levels, from assignments as the loosest to primaries as the tightest. Nothing here
refers to how a text is set. -/

namespace JavaWeave.Layout.Grammar

open Syntax

inductive Token where
  | word (text : String)
  /-- A reserved word, the literal words among them. -/
  | keyword (text : String)
  /-- A decimal numeral without suffix, fraction or superfluous zeros. -/
  | integer (value : Nat)
  /-- Any other number. -/
  | number (text : String)
  | symbol (text : String)
  deriving DecidableEq, Repr

/-- Separators, operators and the openers of comments. -/
def symbols : List String :=
  ["(", ")", "\x7b", "\x7d", "[", "]", ";", ",", ".", "...", "@", "::", "=", ">", "<", "!", "~", "?", ":",
   "->", "==", ">=", "<=", "!=", "&&", "||", "++", "--", "+", "-", "*", "/", "&", "|", "^", "%", "<<", ">>",
   ">>>", "+=", "-=", "*=", "/=", "&=", "|=", "^=", "%=", "<<=", ">>=", ">>>=", "//", "/*"]

def startsWord (c : Char) : Bool := c == '$' || c == '_' || Text.startsIdentifier c

def continuesWord (c : Char) : Bool := c == '$' || Text.continuesIdentifier c

def isWord : List Char → Bool
  | [] => false
  | first :: rest => startsWord first && rest.all continuesWord

/-- What may stand in a number after its first digit: further digits, the letters of radix, exponent and
suffix, and points. -/
def continuesNumber (c : Char) : Bool := continuesWord c || c == '.'

/-- A digit, or a point and a digit, and what continues a number. -/
def isNumber : List Char → Bool
  | [] => false
  | [c] => c.isDigit
  | c :: d :: rest =>
    (c.isDigit && (d :: rest).all continuesNumber)
      || (c == '.' && d.isDigit && rest.all continuesNumber)

/-- The value of a decimal numeral. A zero in front would make it another kind of number. -/
def numeral (text : List Char) : Option Nat :=
  if text.all Char.isDigit && (text.head? != some '0' || text.length == 1) then
    some (Nat.ofDigitChars 10 text 0)
  else none

/-- The token that a text is as a whole, if it is one. -/
def lexeme (text : List Char) : Option Token :=
  if symbols.contains (String.ofList text) then some (.symbol (String.ofList text))
  else if isWord text then
    if Names.isKeyword (String.ofList text) then some (.keyword (String.ofList text))
    else some (.word (String.ofList text))
  else if isNumber text then
    match numeral text with
    | some value => some (.integer value)
    | none => some (.number (String.ofList text))
  else none

def isBlank (c : Char) : Bool := [' ', '\t', '\n', '\r', '\x0c'].contains c

/-- A text as tokens: blanks between them do not count, and of all tokens that a text begins with the longest
is taken. -/
inductive Lexed : List Char → List Token → Prop where
  | nil : Lexed [] []
  | blank {c : Char} {rest : List Char} {tokens : List Token} (blank : isBlank c = true)
      (behind : Lexed rest tokens) : Lexed (c :: rest) tokens
  | token {text rest : List Char} {token : Token} {tokens : List Token}
      (found : lexeme text = some token)
      (longest : ∀ other, other <+: text ++ rest → (lexeme other).isSome → other.length ≤ text.length)
      (behind : Lexed rest tokens) : Lexed (text ++ rest) (token :: tokens)

/-- What a run of tokens is derived as. -/
inductive Phrase where
  /-- An expression of a level. A higher level binds tighter: 0 is any expression, 1 assignments, 2 conditionals,
  3 to 12 the binary operators, 13 operators in front, 14 operators behind, 15 primaries. -/
  | expression (level : Nat) (tree : Expression)
  /-- The arguments of a call, without the parentheses. -/
  | arguments (trees : List Expression)
  /-- A type that is only a name, simple or dotted. -/
  | typeName (name : String)

/-- The operators that combine with an assignment. -/
def compound : List BinaryOp :=
  [.add, .sub, .mul, .div, .rem, .bitAnd, .bitOr, .bitXor, .shl, .shr, .ushr]

/-- The symbol of an assignment. -/
def assignSymbol (op : Option BinaryOp) : String :=
  (match op with | some op => op.symbol | none => "") ++ "="

/-- The grammar of expressions. Binary operators associate to the left, as do operators behind and selectors;
conditionals and assignments associate to the right. -/
inductive Derives : List Token → Phrase → Prop where
  | name (x : String) : Derives [.word x] (.expression 15 (.name x))
  | integer {n : Nat} (small : n < 2 ^ 31) :
      Derives [.integer n] (.expression 15 (.literal (.int (.ofNat n))))
  | boolean (value : Bool) :
      Derives [.keyword (if value then "true" else "false")] (.expression 15 (.literal (.bool value)))
  | null : Derives [.keyword "null"] (.expression 15 (.literal .null))
  | parentheses {ts : List Token} {e : Expression} (inside : Derives ts (.expression 0 e)) :
      Derives (.symbol "(" :: ts ++ [.symbol ")"]) (.expression 15 e)
  | field {ts : List Token} {e : Expression} (receiver : Derives ts (.expression 15 e)) (x : String) :
      Derives (ts ++ [.symbol ".", .word x]) (.expression 15 (.field e x))
  | element {ts us : List Token} {e i : Expression} (array : Derives ts (.expression 15 e))
      (index : Derives us (.expression 0 i)) :
      Derives (ts ++ .symbol "[" :: us ++ [.symbol "]"]) (.expression 15 (.element e i))
  | call {us : List Token} {es : List Expression} (x : String) (arguments : Derives us (.arguments es)) :
      Derives (.word x :: .symbol "(" :: us ++ [.symbol ")"]) (.expression 15 (.call none x [] es))
  | callOn {ts us : List Token} {e : Expression} {es : List Expression}
      (receiver : Derives ts (.expression 15 e)) (x : String) (arguments : Derives us (.arguments es)) :
      Derives (ts ++ .symbol "." :: .word x :: .symbol "(" :: us ++ [.symbol ")"])
        (.expression 15 (.call (some e) x [] es))
  | behind {ts : List Token} {e : Expression} (operand : Derives ts (.expression 14 e)) {op : UnaryOp}
      (follows : op.follows = true) :
      Derives (ts ++ [.symbol op.symbol]) (.expression 14 (.unary op e))
  | inFront {ts : List Token} {e : Expression} {op : UnaryOp} (follows : op.follows = false)
      (operand : Derives ts (.expression 13 e)) :
      Derives (.symbol op.symbol :: ts) (.expression 13 (.unary op e))
  | binary {ts us : List Token} {a b : Expression} {op : BinaryOp}
      (left : Derives ts (.expression op.precedence a))
      (right : Derives us (.expression (op.precedence + 1) b)) :
      Derives (ts ++ .symbol op.symbol :: us) (.expression op.precedence (.binary op a b))
  | instanceOf {ts us : List Token} {e : Expression} {name : String}
      (operand : Derives ts (.expression 9 e)) (type : Derives us (.typeName name)) :
      Derives (ts ++ .keyword "instanceof" :: us) (.expression 9 (.instanceOf e { name }))
  | conditional {ts us vs : List Token} {c a b : Expression}
      (condition : Derives ts (.expression 3 c)) (whenTrue : Derives us (.expression 0 a))
      (whenFalse : Derives vs (.expression 2 b)) :
      Derives (ts ++ .symbol "?" :: us ++ .symbol ":" :: vs) (.expression 2 (.conditional c a b))
  | assign {ts us : List Token} {a b : Expression} {op : Option BinaryOp} (known : ∀ o ∈ op, o ∈ compound)
      (target : Derives ts (.expression 2 a)) (value : Derives us (.expression 1 b)) :
      Derives (ts ++ .symbol (assignSymbol op) :: us) (.expression 1 (.assign op a b))
  | tighter {ts : List Token} {e : Expression} {level : Nat} (derived : Derives ts (.expression (level + 1) e)) :
      Derives ts (.expression level e)
  | noArguments : Derives [] (.arguments [])
  | lastArgument {ts : List Token} {e : Expression} (last : Derives ts (.expression 0 e)) :
      Derives ts (.arguments [e])
  | moreArguments {ts us : List Token} {e f : Expression} {es : List Expression}
      (first : Derives ts (.expression 0 e)) (others : Derives us (.arguments (f :: es))) :
      Derives (ts ++ .symbol "," :: us) (.arguments (e :: f :: es))
  | simpleType (x : String) : Derives [.word x] (.typeName x)
  | dottedType {us : List Token} {name : String} (x : String) (inner : Derives us (.typeName name)) :
      Derives (.word x :: .symbol "." :: us) (.typeName (x ++ "." ++ name))

/-- A text read as an expression. -/
def Reads (text : String) (tree : Expression) : Prop :=
  ∃ tokens, Lexed text.toList tokens ∧ Derives tokens (.expression 0 tree)

end JavaWeave.Layout.Grammar
