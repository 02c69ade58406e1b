import JavaWeave.Layout.Literal
import JavaWeave.Layout.Page
import JavaWeave.Syntax.Build

namespace JavaWeave.Layout

open Syntax

/-- Binding strengths besides those of the binary operators. -/
def assignLevel : Nat := 1
def conditionalLevel : Nat := 2
def relationalLevel : Nat := 9
def unaryLevel : Nat := 13
def stepLevel : Nat := 14
def primaryLevel : Nat := 15

/-- How tightly the outermost form of an expression binds. -/
def strength : Expression → Nat
  | .assign .. => assignLevel
  | .conditional .. => conditionalLevel
  | .binary op _ _ => op.precedence
  | .instanceOf .. => relationalLevel
  | .cast .. => unaryLevel
  | .unary op _ => if op.follows then stepLevel else unaryLevel
  | _ => primaryLevel

/-- Parentheses around a text that binds looser than its place requires. -/
def parenthesize (strength required : Nat) (text : String) : String :=
  if strength < required then "(" ++ text ++ ")" else text

/-- A blank between two operators in front that would otherwise run together. -/
def operatorGap (op : UnaryOp) : Expression → String
  | .unary inner _ =>
    if !inner.follows && Text.startsWith inner.symbol op.symbol then " " else ""
  | _ => ""

/-- A jump with its label. -/
def jump (word : String) : Option String → String
  | some label => word ++ " " ++ label ++ ";"
  | none => word ++ ";"

/-- The return of the zero value of the enclosing method's type. -/
def defaultReturn : Option JavaType → String
  | some t =>
    if t.isVoid then "return;"
    else match t.zero with
      | .literal value => "return " ++ literal value ++ ";"
      | _ => "return;"
  | none => "return;"

def isBlock : Statement → Bool
  | .block _ => true
  | _ => false

def isConditional : Statement → Bool
  | .ifElse .. => true
  | _ => false

/-- The word that introduces a type declaration. -/
def kindWord : TypeKind → String
  | .plain => "class "
  | .interface => "interface "
  | .enum => "enum "

/-- The clause of declared exceptions, or nothing. -/
def throwsClause (thrown : List JavaType) : String :=
  if thrown.isEmpty then "" else " throws " ++ commas (types thrown)

mutual

/-- The text of an expression at a place that requires a binding strength. -/
def expression (place : Place) (required : Nat) : Expression → String
  | .name text => text
  | .this qualifier => (match qualifier with | some q => q ++ "." | none => "") ++ "this"
  | .field receiver name => expression place primaryLevel receiver ++ "." ++ name
  | .element array index =>
    expression place primaryLevel array ++ "[" ++ expression place 0 index ++ "]"
  | .call receiver name typeArguments arguments =>
    (match receiver with
      | some receiver => expression place primaryLevel receiver ++ "."
      | none => "")
      ++ (if typeArguments.isEmpty then "" else "<" ++ commas (types typeArguments) ++ ">")
      ++ name ++ "(" ++ commas (expressions place assignLevel arguments) ++ ")"
  | .create t arguments body =>
    "new " ++ type t ++ "(" ++ commas (expressions place assignLevel arguments) ++ ")"
      ++ (match body with | some decl => " " ++ typeBody place decl | none => "")
  | .createArray element sizes unsized elements =>
    "new " ++ type element
      ++ String.join ((expressions place 0 sizes).map fun size => "[" ++ size ++ "]")
      ++ brackets unsized
      ++ (match elements with
        | some es => " \x7b" ++ commas (expressions place assignLevel es) ++ "\x7d"
        | none => "")
  | .arrayElements elements => "\x7b" ++ commas (expressions place assignLevel elements) ++ "\x7d"
  | .binary op left right =>
    parenthesize op.precedence required
      (expression place op.precedence left ++ " " ++ op.symbol ++ " "
        ++ expression place (op.precedence + 1) right)
  | .unary op operand =>
    if op.follows then
      parenthesize stepLevel required (expression place stepLevel operand ++ op.symbol)
    else
      parenthesize unaryLevel required
        (op.symbol ++ operatorGap op operand ++ expression place unaryLevel operand)
  | .assign op target value =>
    parenthesize assignLevel required
      (expression place stepLevel target ++ " " ++ (match op with | some op => op.symbol | none => "")
        ++ "= " ++ expression place assignLevel value)
  | .instanceOf operand t =>
    parenthesize relationalLevel required
      (expression place relationalLevel operand ++ " instanceof " ++ type t)
  | .cast t operand =>
    parenthesize unaryLevel required ("(" ++ type t ++ ") " ++ expression place unaryLevel operand)
  | .conditional condition whenTrue whenFalse =>
    parenthesize conditionalLevel required
      (expression place (conditionalLevel + 1) condition ++ " ? "
        ++ expression place assignLevel whenTrue ++ " : "
        ++ expression place conditionalLevel whenFalse)
  | .literal value => literal value
  | .classLiteral t => type t ++ ".class"
  | .note a => note place a
  | .verbatim text => text

def expressions (place : Place) (required : Nat) : List Expression → List String
  | [] => []
  | e :: rest => expression place required e :: expressions place required rest

def note (place : Place) : Annotation → String
  | ⟨_, t, []⟩ => "@" ++ type t
  | ⟨_, t, [⟨name, value⟩]⟩ =>
    if name == "value" then "@" ++ type t ++ "(" ++ expression place 0 value ++ ")"
    else "@" ++ type t ++ "(" ++ name ++ " = " ++ expression place 0 value ++ ")"
  | ⟨_, t, members⟩ => "@" ++ type t ++ "(" ++ commas (annotationMembers place members) ++ ")"

def annotationMembers (place : Place) : List AnnotationMember → List String
  | [] => []
  | ⟨name, value⟩ :: rest =>
    (name ++ " = " ++ expression place 0 value) :: annotationMembers place rest

def annotations (place : Place) : List Annotation → List String
  | [] => []
  | a :: rest => note place a :: annotations place rest

/-- A parameter; its annotations stand on the same line. -/
def parameter (place : Place) : Parameter → String
  | ⟨set, marks, t, name⟩ =>
    String.join ((annotations place marks).map (· ++ " ")) ++ modifiers set ++ type t ++ " " ++ name

def parameters (place : Place) : List Parameter → List String
  | [] => []
  | p :: rest => parameter place p :: parameters place rest

/-- A local variable without the closing semicolon. -/
def localVariable (place : Place) : LocalVariable → String
  | ⟨set, marks, t, name, initial⟩ =>
    String.join ((annotations place marks).map (· ++ " ")) ++ modifiers set ++ type t ++ " " ++ name
      ++ (match initial with | some e => " = " ++ expression place assignLevel e | none => "")

def statement (place : Place) : Statement → String
  | .block body => place.braces (statements place.deeper body)
  | .expression e => expression place 0 e ++ ";"
  | .declare decl => localVariable place decl ++ ";"
  | .ifElse condition whenTrue whenFalse =>
    "if (" ++ expression place 0 condition ++ ")"
      ++ (if isBlock whenTrue then " " ++ statement place whenTrue
        else place.deeper.line ++ statement place.deeper whenTrue)
      ++ (match whenFalse with
        | some other =>
          (if isBlock whenTrue then " " else place.line) ++ "else"
            ++ (if isConditional other || isBlock other then " " ++ statement place other
              else place.deeper.line ++ statement place.deeper other)
        | none => "")
  | .whileLoop condition body =>
    "while (" ++ expression place 0 condition ++ ")"
      ++ (if isBlock body then " " ++ statement place body
        else place.deeper.line ++ statement place.deeper body)
  | .doWhile body condition =>
    "do"
      ++ (if isBlock body then " " ++ statement place body
        else place.deeper.line ++ statement place.deeper body)
      ++ " while (" ++ expression place 0 condition ++ ");"
  | .forLoop start condition update body =>
    "for (" ++ commas (loopStarts place start) ++ "; "
      ++ (match condition with | some e => expression place 0 e | none => "") ++ "; "
      ++ commas (expressions place 0 update) ++ ")"
      ++ (if isBlock body then " " ++ statement place body
        else place.deeper.line ++ statement place.deeper body)
  | .forEach ⟨set, _, t, name, _⟩ iterable body =>
    "for (" ++ modifiers set ++ type t ++ " " ++ name ++ " : " ++ expression place 0 iterable ++ ")"
      ++ (if isBlock body then " " ++ statement place body
        else place.deeper.line ++ statement place.deeper body)
  | .switch selector cases =>
    "switch (" ++ expression place 0 selector ++ ") \x7b"
      ++ String.join ((switchCases place.deeper cases).map (place.deeper.line ++ ·))
      ++ place.line ++ "\x7d"
  | .tryCatch body catches finalizer =>
    "try " ++ place.braces (statements place.deeper body)
      ++ String.join (catchClauses place catches)
      ++ (match finalizer with
        | some ss => " finally " ++ place.braces (statements place.deeper ss)
        | none => "")
  | .synchronized lock body =>
    "synchronized (" ++ expression place 0 lock ++ ") " ++ place.braces (statements place.deeper body)
  | .returns value =>
    "return" ++ (match value with | some e => " " ++ expression place 0 e | none => "") ++ ";"
  | .returnsDefault => defaultReturn place.returnType
  | .throws value => "throw " ++ expression place 0 value ++ ";"
  | .breaks label => jump "break" label
  | .continues label => jump "continue" label
  | .labeled label body => label ++ ": " ++ statement place body
  | .localType decl => typeDecl place decl
  | .empty => ";"
  | .verbatim text => text

def statements (place : Place) : List Statement → List String
  | [] => []
  | s :: rest => statement place s :: statements place rest

/-- What a counting loop starts with; declarations and expressions have no semicolon there. -/
def loopStarts (place : Place) : List Statement → List String
  | [] => []
  | .declare decl :: rest => localVariable place decl :: loopStarts place rest
  | .expression e :: rest => expression place 0 e :: loopStarts place rest
  | s :: rest => statement place s :: loopStarts place rest

def switchCases (place : Place) : List SwitchCase → List String
  | [] => []
  | ⟨label, body⟩ :: rest =>
    ((match label with | some e => "case " ++ expression place 0 e ++ ":" | none => "default:")
      ++ String.join ((statements place.deeper body).map (place.deeper.line ++ ·)))
      :: switchCases place rest

def catchClauses (place : Place) : List CatchClause → List String
  | [] => []
  | ⟨p, body⟩ :: rest =>
    (" catch (" ++ parameter place p ++ ") " ++ place.braces (statements place.deeper body))
      :: catchClauses place rest

def typeDecl (place : Place) : TypeDecl → String
  | ⟨_, set, marks, kind, name, ps, superclass, interfaces, ks, fs, is, cs, ms, memberTypes, _, _⟩ =>
    String.join ((annotations place marks).map (· ++ place.line)) ++ modifiers set ++ kindWord kind ++ name
      ++ typeParameters ps
      ++ (match superclass with | some t => " extends " ++ type t | none => "")
      ++ (if interfaces.isEmpty then ""
        else (if kind == .interface then " extends " else " implements ") ++ commas (types interfaces))
      ++ " "
      ++ place.members
        ((if kind == .enum then [commas (constants place.deeper ks) ++ ";"] else [])
          ++ fields place.deeper fs)
        (initializers place.deeper is ++ constructors place.deeper cs ++ methods place.deeper ms
          ++ typeDecls place.deeper memberTypes)

/-- The members of a type between braces. -/
def typeBody (place : Place) : TypeDecl → String
  | ⟨_, _, _, kind, _, _, _, _, ks, fs, is, cs, ms, memberTypes, _, _⟩ =>
    place.members
      ((if kind == .enum then [commas (constants place.deeper ks) ++ ";"] else [])
        ++ fields place.deeper fs)
      (initializers place.deeper is ++ constructors place.deeper cs ++ methods place.deeper ms
        ++ typeDecls place.deeper memberTypes)

def typeDecls (place : Place) : List TypeDecl → List String
  | [] => []
  | decl :: rest => typeDecl place decl :: typeDecls place rest

def constants (place : Place) : List EnumConstant → List String
  | [] => []
  | ⟨_, name, arguments⟩ :: rest =>
    (name ++ (if arguments.isEmpty then ""
      else "(" ++ commas (expressions place assignLevel arguments) ++ ")")) :: constants place rest

def fields (place : Place) : List Field → List String
  | [] => []
  | ⟨_, set, marks, t, name, initial⟩ :: rest =>
    (String.join ((annotations place marks).map (· ++ place.line)) ++ modifiers set ++ type t ++ " " ++ name
      ++ (match initial with | some e => " = " ++ expression place assignLevel e | none => "") ++ ";")
      :: fields place rest

def initializers (place : Place) : List Initializer → List String
  | [] => []
  | ⟨_, isStatic, body⟩ :: rest =>
    ((if isStatic then "static " else "") ++ place.braces (statements place.deeper body))
      :: initializers place rest

def constructors (place : Place) : List Constructor → List String
  | [] => []
  | ⟨_, set, marks, tps, name, ps, thrown, body, _⟩ :: rest =>
    (String.join ((annotations place marks).map (· ++ place.line)) ++ modifiers set
      ++ (if tps.isEmpty then "" else typeParameters tps ++ " ") ++ name
      ++ "(" ++ commas (parameters place ps) ++ ")" ++ throwsClause thrown ++ " "
      ++ place.braces (statements (place.deeper.returning .void) body))
      :: constructors place rest

def method (place : Place) : Method → String
  | ⟨_, set, marks, tps, returnType, name, ps, thrown, body, bodiless, implementing⟩ =>
    String.join ((annotations place marks).map (· ++ place.line))
      ++ (if implementing && !annotated marks "Override" then "@java.lang.Override" ++ place.line
        else "")
      ++ modifiers set ++ (if tps.isEmpty then "" else typeParameters tps ++ " ")
      ++ type returnType ++ " " ++ name
      ++ "(" ++ commas (parameters place ps) ++ ")" ++ throwsClause thrown
      ++ (if bodiless then ";"
        else " " ++ place.braces (statements (place.deeper.returning returnType) body))

def methods (place : Place) : List Method → List String
  | [] => []
  | m :: rest => method place m :: methods place rest

end

/-- The text of a source file without a last line end. -/
def unitBody (settings : Settings) (unit : CompilationUnit) : String :=
  let newline := settings.newline
  (match unit.package with
    | some package => "package " ++ package ++ ";" ++ newline ++ newline
    | none => "")
    ++ String.join (unit.imports.map fun name => "import " ++ name ++ ";" ++ newline)
    ++ (if unit.imports.isEmpty then "" else newline)
    ++ (newline ++ newline).intercalate (typeDecls { settings } unit.types)

/-- Ends a text that is not empty with a line end, if the settings ask for it. -/
def finish (settings : Settings) (text : String) : String :=
  if settings.trailingNewline && !text.isEmpty then text ++ settings.newline else text

def printUnit (settings : Settings) (unit : CompilationUnit) : String :=
  finish settings (unitBody settings unit)

def printType (settings : Settings) (decl : TypeDecl) : String :=
  finish settings (typeDecl { settings } decl)

def printMethod (settings : Settings) (m : Method) : String :=
  finish settings (method { settings } m)

def printStatement (settings : Settings) (s : Statement) : String :=
  finish settings (statement { settings } s)

/-- An expression stands alone, with no line end behind it. -/
def printExpression (settings : Settings) (e : Expression) : String :=
  expression { settings } 0 e

end JavaWeave.Layout
