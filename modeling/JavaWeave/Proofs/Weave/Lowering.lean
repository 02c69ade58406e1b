import JavaWeave.Syntax.Node
import JavaWeave.Weave.Lowering
import Mathlib

namespace JavaWeave.Weave

open Syntax

variable {α β : Type}

-- Whether some code holds a default return that nothing can be returned for. The flag says whether the code itself
-- stands in the body of a method or constructor.

namespace Stray

mutual

def inExpression (inside : Bool) : Expression → Bool
  | .field receiver _ => inExpression inside receiver
  | .element array index => inExpression inside array || inExpression inside index
  | .call receiver _ _ arguments =>
    (match receiver with | some e => inExpression inside e | none => false) || inExpressions inside arguments
  | .create _ arguments body =>
    inExpressions inside arguments || (match body with | some decl => inType inside decl | none => false)
  | .createArray _ sizes _ elements =>
    inExpressions inside sizes || (match elements with | some es => inExpressions inside es | none => false)
  | .arrayElements elements => inExpressions inside elements
  | .binary _ left right => inExpression inside left || inExpression inside right
  | .unary _ operand | .instanceOf operand _ | .cast _ operand => inExpression inside operand
  | .assign _ target value => inExpression inside target || inExpression inside value
  | .conditional condition whenTrue whenFalse =>
    inExpression inside condition || (inExpression inside whenTrue || inExpression inside whenFalse)
  | .name _ | .this _ | .literal _ | .classLiteral _ | .note _ | .verbatim _ => false

def inExpressions (inside : Bool) : List Expression → Bool
  | [] => false
  | e :: rest => inExpression inside e || inExpressions inside rest

def inStatement (inside : Bool) : Statement → Bool
  | .returnsDefault => !inside
  | .block body => inStatements inside body
  | .expression e | .throws e => inExpression inside e
  | .declare decl => inLocal inside decl
  | .ifElse condition whenTrue whenFalse =>
    inExpression inside condition || (inStatement inside whenTrue
      || (match whenFalse with | some s => inStatement inside s | none => false))
  | .whileLoop condition body => inExpression inside condition || inStatement inside body
  | .doWhile body condition => inStatement inside body || inExpression inside condition
  | .forLoop start condition update body =>
    inStatements inside start || ((match condition with | some e => inExpression inside e | none => false)
      || (inExpressions inside update || inStatement inside body))
  | .forEach item iterable body =>
    inLocal inside item || (inExpression inside iterable || inStatement inside body)
  | .switch selector cases => inExpression inside selector || inCases inside cases
  | .tryCatch body catches finalizer =>
    inStatements inside body || (inCatches inside catches
      || (match finalizer with | some ss => inStatements inside ss | none => false))
  | .synchronized lock body => inExpression inside lock || inStatements inside body
  | .returns value => match value with | some e => inExpression inside e | none => false
  | .labeled _ body => inStatement inside body
  | .localType decl => inType inside decl
  | .breaks _ | .continues _ | .empty | .verbatim _ => false

def inStatements (inside : Bool) : List Statement → Bool
  | [] => false
  | s :: rest => inStatement inside s || inStatements inside rest

def inLocal (inside : Bool) : LocalVariable → Bool
  | ⟨_, _, _, _, initial⟩ => match initial with | some e => inExpression inside e | none => false

def inCases (inside : Bool) : List SwitchCase → Bool
  | [] => false
  | ⟨label, body⟩ :: rest =>
    (match label with | some e => inExpression inside e | none => false)
      || (inStatements inside body || inCases inside rest)

def inCatches (inside : Bool) : List CatchClause → Bool
  | [] => false
  | ⟨_, body⟩ :: rest => inStatements inside body || inCatches inside rest

def inType (inside : Bool) : TypeDecl → Bool
  | ⟨_, _, _, _, _, _, _, _, constants, fields, initializers, constructors, methods, memberTypes, _, _⟩ =>
    inConstants inside constants || (inFields inside fields || (inInitializers initializers
      || (inConstructors constructors || (inMethods methods || inTypes inside memberTypes))))

def inTypes (inside : Bool) : List TypeDecl → Bool
  | [] => false
  | decl :: rest => inType inside decl || inTypes inside rest

def inConstants (inside : Bool) : List EnumConstant → Bool
  | [] => false
  | ⟨_, _, arguments⟩ :: rest => inExpressions inside arguments || inConstants inside rest

def inField (inside : Bool) : Field → Bool
  | ⟨_, _, _, _, _, initial⟩ => match initial with | some e => inExpression inside e | none => false

def inFields (inside : Bool) : List Field → Bool
  | [] => false
  | field :: rest => inField inside field || inFields inside rest

def inInitializer : Initializer → Bool
  | ⟨_, _, body⟩ => inStatements false body

def inInitializers : List Initializer → Bool
  | [] => false
  | initializer :: rest => inInitializer initializer || inInitializers rest

def inConstructor : Constructor → Bool
  | ⟨_, _, _, _, _, _, _, body, _⟩ => inStatements true body

def inConstructors : List Constructor → Bool
  | [] => false
  | constructor :: rest => inConstructor constructor || inConstructors rest

def inMethod : Method → Bool
  | ⟨_, _, _, _, _, _, _, _, body, _, _⟩ => inStatements true body

def inMethods : List Method → Bool
  | [] => false
  | method :: rest => inMethod method || inMethods rest

end

end Stray

namespace Stray

/-- Whether a part holds a default return that nothing can be returned for. -/
def inNode (inside : Bool) : Node → Bool
  | .unit u => inTypes inside u.types
  | .type t => inType inside t
  | .field f => inField inside f
  | .method m => inMethod m
  | .constructor c => inConstructor c
  | .initializer i => inInitializer i
  | .constant k => inExpressions inside k.arguments
  | .parameter _ | .note _ => false
  | .localVariable decl => inLocal inside decl
  | .block body => inStatements inside body
  | .switchCase group => inCases inside [group]
  | .catchClause clause => inStatements inside clause.body
  | .statement s => inStatement inside s
  | .expression e => inExpression inside e

/-- Whether the parts of a part stand in the body of a method or constructor. -/
def within (inside : Bool) : Node → Bool
  | .method _ | .constructor _ => true
  | .initializer _ => false
  | _ => inside

variable (inside : Bool)

theorem inExpressions_eq (es : List Expression) :
    inExpressions inside es = (es.map Node.expression).any (inNode inside) := by
  induction es with
  | nil => rfl
  | cons e rest ih => exact congrArg (inExpression inside e || ·) ih

theorem inStatements_eq (body : List Statement) :
    inStatements inside body = (body.map Node.statement).any (inNode inside) := by
  induction body with
  | nil => rfl
  | cons s rest ih => exact congrArg (inStatement inside s || ·) ih

theorem inCases_eq (cases : List SwitchCase) :
    inCases inside cases = (cases.map Node.switchCase).any (inNode inside) := by
  induction cases with
  | nil => rfl
  | cons group rest ih =>
    obtain ⟨label, body⟩ := group
    rw [List.map_cons, List.any_cons, ← ih, inNode]
    cases label with
    | none => exact congrArg (· || inCases inside rest) (Bool.or_false _).symm
    | some e =>
      change (inExpression inside e || (inStatements inside body || inCases inside rest)) =
        ((inExpression inside e || (inStatements inside body || false)) || inCases inside rest)
      rw [Bool.or_false, Bool.or_assoc]

theorem inCatches_eq (catches : List CatchClause) :
    inCatches inside catches = (catches.map Node.catchClause).any (inNode inside) := by
  induction catches with
  | nil => rfl
  | cons clause rest ih =>
    obtain ⟨_, body⟩ := clause
    exact congrArg (inStatements inside body || ·) ih

theorem inTypes_eq (types : List TypeDecl) :
    inTypes inside types = (types.map Node.type).any (inNode inside) := by
  induction types with
  | nil => rfl
  | cons decl rest ih => exact congrArg (inType inside decl || ·) ih

theorem inConstants_eq (constants : List EnumConstant) :
    inConstants inside constants = (constants.map Node.constant).any (inNode inside) := by
  induction constants with
  | nil => rfl
  | cons constant rest ih =>
    obtain ⟨_, _, arguments⟩ := constant
    exact congrArg (inExpressions inside arguments || ·) ih

theorem inFields_eq (fields : List Field) :
    inFields inside fields = (fields.map Node.field).any (inNode inside) := by
  induction fields with
  | nil => rfl
  | cons field rest ih => exact congrArg (inField inside field || ·) ih

theorem inInitializers_eq (initializers : List Initializer) :
    inInitializers initializers = (initializers.map Node.initializer).any (inNode inside) := by
  induction initializers with
  | nil => rfl
  | cons initializer rest ih => exact congrArg (inInitializer initializer || ·) ih

theorem inConstructors_eq (constructors : List Constructor) :
    inConstructors constructors = (constructors.map Node.constructor).any (inNode inside) := by
  induction constructors with
  | nil => rfl
  | cons constructor rest ih => exact congrArg (inConstructor constructor || ·) ih

theorem inMethods_eq (methods : List Method) :
    inMethods methods = (methods.map Node.method).any (inNode inside) := by
  induction methods with
  | nil => rfl
  | cons method rest ih => exact congrArg (inMethod method || ·) ih

theorem any_notes (annotations : List Annotation) : (annotations.map Node.note).any (inNode inside) = false := by
  simp [inNode]

theorem any_parameters (parameters : List Parameter) :
    (parameters.map Node.parameter).any (inNode inside) = false := by
  simp [inNode]

theorem inExpression_eq (e : Expression) :
    inExpression inside e = (Node.ofExpression e).any (inNode inside) := by
  cases e with
  | call receiver _ _ arguments =>
    cases receiver with
    | none => exact inExpressions_eq inside arguments
    | some e => exact congrArg (inExpression inside e || ·) (inExpressions_eq inside arguments)
  | create _ arguments body =>
    rw [Node.ofExpression, List.any_append, ← inExpressions_eq]
    cases body with
    | none => rfl
    | some decl => exact congrArg (inExpressions inside arguments || ·) (Bool.or_false _).symm
  | createArray _ sizes _ elements =>
    rw [Node.ofExpression, List.any_append, ← inExpressions_eq, ← inExpressions_eq]
    cases elements <;> rfl
  | arrayElements elements => exact inExpressions_eq inside elements
  | _ =>
    simp only [Node.ofExpression, List.any_cons, List.any_nil, Bool.or_false, inNode]
    rfl

theorem inStatement_eq {s : Statement} (other : s ≠ .returnsDefault) :
    inStatement inside s = (Node.ofStatement s).any (inNode inside) := by
  cases s with
  | returnsDefault => exact absurd rfl other
  | block body => exact inStatements_eq inside body
  | ifElse condition whenTrue whenFalse =>
    cases whenFalse with
    | none => rfl
    | some whenFalse =>
      exact congrArg (fun last => inExpression inside condition || (inStatement inside whenTrue || last))
        (Bool.or_false _).symm
  | forLoop start condition update body =>
    simp only [Node.ofStatement, List.any_append, ← inStatements_eq, ← inExpressions_eq, List.any_cons, List.any_nil,
      Bool.or_false, Bool.or_assoc]
    cases condition with
    | none => rfl
    | some e =>
      exact congrArg (fun head => inStatements inside start || (head || (inExpressions inside update
        || inStatement inside body))) (Bool.or_false _).symm
  | switch selector cases => exact congrArg (inExpression inside selector || ·) (inCases_eq inside cases)
  | tryCatch body catches finalizer =>
    rw [Node.ofStatement, List.any_cons, List.any_append, ← inCatches_eq]
    cases finalizer with
    | none => rfl
    | some finalizer =>
      exact congrArg (fun last => inStatements inside body || (inCatches inside catches || last))
        (Bool.or_false _).symm
  | returns value =>
    cases value with
    | none => rfl
    | some e => exact (Bool.or_false _).symm
  | _ =>
    simp only [Node.ofStatement, List.any_cons, List.any_nil, Bool.or_false, inNode]
    rfl

theorem inNode_eq {node : Node} (code : node.kind ≠ .note) (other : node ≠ .statement .returnsDefault) :
    inNode inside node = node.children.any (inNode (within inside node)) := by
  cases node with
  | unit u => exact inTypes_eq inside u.types
  | type t =>
    cases t
    simp only [Node.children, List.any_append, any_notes, Bool.false_or, Bool.or_assoc, within, ← inConstants_eq,
      ← inFields_eq, ← inInitializers_eq, ← inConstructors_eq, ← inMethods_eq, ← inTypes_eq]
    rfl
  | field f =>
    obtain ⟨_, _, annotations, _, _, initial⟩ := f
    rw [Node.children, List.any_append, any_notes, Bool.false_or]
    cases initial with
    | none => rfl
    | some e => exact (Bool.or_false _).symm
  | method m =>
    cases m
    simp only [Node.children, List.any_append, any_notes, any_parameters, Bool.false_or, within, ← inStatements_eq]
    rfl
  | constructor c =>
    cases c
    simp only [Node.children, List.any_append, any_notes, any_parameters, Bool.false_or, within, ← inStatements_eq]
    rfl
  | initializer i =>
    obtain ⟨_, _, body⟩ := i
    exact inStatements_eq false body
  | constant k => exact inExpressions_eq inside k.arguments
  | parameter p => exact (any_notes inside p.annotations).symm
  | localVariable decl =>
    obtain ⟨_, annotations, _, _, initial⟩ := decl
    rw [Node.children, List.any_append, any_notes, Bool.false_or]
    cases initial with
    | none => rfl
    | some e => exact (Bool.or_false _).symm
  | note a => exact absurd rfl code
  | block body => exact inStatements_eq inside body
  | switchCase group =>
    obtain ⟨label, body⟩ := group
    rw [Node.children, List.any_append, show within inside (.switchCase ⟨label, body⟩) = inside from rfl,
      ← inStatements_eq]
    cases label with
    | none => exact Bool.or_false _
    | some e =>
      change (inExpression inside e || (inStatements inside body || false)) =
        ((inExpression inside e || false) || inStatements inside body)
      rw [Bool.or_false, Bool.or_false]
  | catchClause clause => simp [inNode, Node.children, within]
  | statement s => exact inStatement_eq inside (by simpa using other)
  | expression e => exact inExpression_eq inside e

end Stray

/-- The steps fail exactly if the flag is set. -/
def FailsIf (stray : Bool) (steps : Except InternalProblem α) : Prop :=
  (∃ result, steps = .ok result) ↔ stray = false

namespace FailsIf

variable {stray other : Bool} {first : Except InternalProblem α} {next : α → Except InternalProblem β}

theorem ok {result : α} : FailsIf false (.ok result) := ⟨fun _ => rfl, fun _ => ⟨result, rfl⟩⟩

theorem error {problem : InternalProblem} : FailsIf true (.error problem : Except InternalProblem α) := by
  simp [FailsIf]

theorem bind (fails : FailsIf stray first) (onward : ∀ result, FailsIf other (next result)) :
    FailsIf (stray || other) (first >>= next) := by
  cases first with
  | error problem =>
    have broken : stray ≠ false := fun whole => by simpa using fails.mpr whole
    simp only [Bool.not_eq_false] at broken
    simp [FailsIf, broken, Bind.bind, Except.bind]
  | ok result =>
    have whole : stray = false := fails.mp ⟨result, rfl⟩
    rw [whole, Bool.false_or]
    exact onward result

/-- Steps behind which nothing fails any more. -/
theorem last (fails : FailsIf stray first) (onward : ∀ result, ∃ final, next result = .ok final) :
    FailsIf stray (first >>= next) := by
  rw [← Bool.or_false stray]
  refine fails.bind fun result => ?_
  obtain ⟨final, same⟩ := onward result
  rw [same]
  exact .ok

theorem map {change : α → β} (fails : FailsIf stray first) : FailsIf stray (change <$> first) := by
  rw [map_eq_pure_bind]
  exact fails.last fun result => ⟨change result, rfl⟩

end FailsIf

section

variable (span : Option Span) (name : String)

/-- All statements but default returns are left as they are. -/
theorem statement_lowering (returned : Option JavaType) {s : Statement} (other : s ≠ .returnsDefault) :
    (lowering span name).statement returned s = .ok s := by
  cases s with
  | returnsDefault => exact absurd rfl other
  | _ => cases returned <;> rfl

mutual

theorem failsIf_expression (returned : Option JavaType) : (e : Expression) →
    FailsIf (Stray.inExpression returned.isSome e) ((lowering span name).onExpression returned e)
  | .field receiver _ =>
    (failsIf_expression returned receiver).last fun _ => ⟨_, rfl⟩
  | .element array index =>
    (failsIf_expression returned array).bind fun _ =>
      (failsIf_expression returned index).last fun _ => ⟨_, rfl⟩
  | .call none _ _ arguments =>
    FailsIf.ok.bind fun _ => (failsIf_expressions returned arguments).last fun _ => ⟨_, rfl⟩
  | .call (some receiver) _ _ arguments =>
    (failsIf_expression returned receiver).map.bind fun _ =>
      (failsIf_expressions returned arguments).last fun _ => ⟨_, rfl⟩
  | .create _ arguments none =>
    (failsIf_expressions returned arguments).bind fun _ => FailsIf.ok.last fun _ => ⟨_, rfl⟩
  | .create _ arguments (some body) =>
    (failsIf_expressions returned arguments).bind fun _ => (failsIf_type returned body).map.last fun _ =>
      ⟨_, rfl⟩
  | .createArray _ sizes _ none =>
    (failsIf_expressions returned sizes).bind fun _ => FailsIf.ok.last fun _ => ⟨_, rfl⟩
  | .createArray _ sizes _ (some elements) =>
    (failsIf_expressions returned sizes).bind fun _ =>
      (failsIf_expressions returned elements).map.last fun _ => ⟨_, rfl⟩
  | .arrayElements elements =>
    (failsIf_expressions returned elements).last fun _ => ⟨_, rfl⟩
  | .binary _ left right =>
    (failsIf_expression returned left).bind fun _ =>
      (failsIf_expression returned right).last fun _ => ⟨_, rfl⟩
  | .unary _ operand | .instanceOf operand _ | .cast _ operand =>
    (failsIf_expression returned operand).last fun _ => ⟨_, rfl⟩
  | .assign _ target value =>
    (failsIf_expression returned target).bind fun _ => (failsIf_expression returned value).last fun _ =>
      ⟨_, rfl⟩
  | .conditional condition whenTrue whenFalse =>
    (failsIf_expression returned condition).bind fun _ => (failsIf_expression returned whenTrue).bind fun _ =>
      (failsIf_expression returned whenFalse).last fun _ => ⟨_, rfl⟩
  | .name _ | .this _ | .literal _ | .classLiteral _ | .note _ | .verbatim _ =>
    .ok

theorem failsIf_expressions (returned : Option JavaType) : (expressions : List Expression) →
    FailsIf (Stray.inExpressions returned.isSome expressions) ((lowering span name).onExpressions returned expressions)
  | [] => .ok
  | e :: rest =>
    (failsIf_expression returned e).bind fun _ => (failsIf_expressions returned rest).last fun _ => ⟨_, rfl⟩

theorem failsIf_statement (returned : Option JavaType) : (s : Statement) →
    FailsIf (Stray.inStatement returned.isSome s) ((lowering span name).onStatement returned s)
  | .block body =>
    (failsIf_statements returned body).last fun _ => ⟨_, statement_lowering span name returned (by simp)⟩
  | .expression e =>
    (failsIf_expression returned e).last fun _ => ⟨_, statement_lowering span name returned (by simp)⟩
  | .throws e =>
    (failsIf_expression returned e).last fun _ => ⟨_, statement_lowering span name returned (by simp)⟩
  | .declare decl =>
    (failsIf_local returned decl).last fun _ => ⟨_, statement_lowering span name returned (by simp)⟩
  | .ifElse condition whenTrue none =>
    (failsIf_expression returned condition).bind fun _ => (failsIf_statement returned whenTrue).bind fun _ =>
      FailsIf.ok.last fun _ => ⟨_, statement_lowering span name returned (by simp)⟩
  | .ifElse condition whenTrue (some whenFalse) =>
    (failsIf_expression returned condition).bind fun _ => (failsIf_statement returned whenTrue).bind fun _ =>
      (failsIf_statement returned whenFalse).map.last fun _ => ⟨_, statement_lowering span name returned (by simp)⟩
  | .whileLoop condition body =>
    (failsIf_expression returned condition).bind fun _ => (failsIf_statement returned body).last fun _ =>
      ⟨_, statement_lowering span name returned (by simp)⟩
  | .doWhile body condition =>
    (failsIf_statement returned body).bind fun _ => (failsIf_expression returned condition).last fun _ =>
      ⟨_, statement_lowering span name returned (by simp)⟩
  | .forLoop start none update body =>
    (failsIf_statements returned start).bind fun _ => FailsIf.ok.bind fun _ =>
      (failsIf_expressions returned update).bind fun _ => (failsIf_statement returned body).last fun _ =>
      ⟨_, statement_lowering span name returned (by simp)⟩
  | .forLoop start (some condition) update body =>
    (failsIf_statements returned start).bind fun _ =>
      (failsIf_expression returned condition).map.bind fun _ => (failsIf_expressions returned update).bind fun _ =>
      (failsIf_statement returned body).last fun _ => ⟨_, statement_lowering span name returned (by simp)⟩
  | .forEach item iterable body =>
    (failsIf_local returned item).bind fun _ => (failsIf_expression returned iterable).bind fun _ =>
      (failsIf_statement returned body).last fun _ => ⟨_, statement_lowering span name returned (by simp)⟩
  | .switch selector cases =>
    (failsIf_expression returned selector).bind fun _ => (failsIf_cases returned cases).last fun _ =>
      ⟨_, statement_lowering span name returned (by simp)⟩
  | .tryCatch body catches none =>
    (failsIf_statements returned body).bind fun _ => (failsIf_catches returned catches).bind fun _ =>
      FailsIf.ok.last fun _ => ⟨_, statement_lowering span name returned (by simp)⟩
  | .tryCatch body catches (some finalizer) =>
    (failsIf_statements returned body).bind fun _ => (failsIf_catches returned catches).bind fun _ =>
      (failsIf_statements returned finalizer).map.last fun _ => ⟨_, statement_lowering span name returned (by simp)⟩
  | .synchronized lock body =>
    (failsIf_expression returned lock).bind fun _ => (failsIf_statements returned body).last fun _ =>
      ⟨_, statement_lowering span name returned (by simp)⟩
  | .returns none =>
    FailsIf.ok.last fun _ => ⟨_, statement_lowering span name returned (by simp)⟩
  | .returns (some value) =>
    (failsIf_expression returned value).map.last fun _ => ⟨_, statement_lowering span name returned (by simp)⟩
  | .labeled _ body =>
    (failsIf_statement returned body).last fun _ => ⟨_, statement_lowering span name returned (by simp)⟩
  | .localType decl =>
    (failsIf_type returned decl).last fun _ => ⟨_, statement_lowering span name returned (by simp)⟩
  | .returnsDefault => by
    cases returned with
    | none => exact .error
    | some type => exact .ok
  | .breaks _ | .continues _ | .empty | .verbatim _ => by
    cases returned <;> exact .ok

theorem failsIf_statements (returned : Option JavaType) : (body : List Statement) →
    FailsIf (Stray.inStatements returned.isSome body) ((lowering span name).onStatements returned body)
  | [] => .ok
  | s :: rest =>
    (failsIf_statement returned s).bind fun _ => (failsIf_statements returned rest).last fun _ => ⟨_, rfl⟩

theorem failsIf_local (returned : Option JavaType) : (decl : LocalVariable) →
    FailsIf (Stray.inLocal returned.isSome decl) ((lowering span name).onLocal returned decl)
  | ⟨_, _, _, _, none⟩ =>
    FailsIf.ok.last fun _ => ⟨_, rfl⟩
  | ⟨_, _, _, _, some initial⟩ =>
    (failsIf_expression returned initial).map.last fun _ => ⟨_, rfl⟩

theorem failsIf_cases (returned : Option JavaType) : (cases : List SwitchCase) →
    FailsIf (Stray.inCases returned.isSome cases) ((lowering span name).onCases returned cases)
  | [] => .ok
  | ⟨none, body⟩ :: rest =>
    FailsIf.ok.bind fun _ => (failsIf_statements returned body).bind fun _ =>
      (failsIf_cases returned rest).last fun _ => ⟨_, rfl⟩
  | ⟨some label, body⟩ :: rest =>
    (failsIf_expression returned label).map.bind fun _ => (failsIf_statements returned body).bind fun _ =>
      (failsIf_cases returned rest).last fun _ => ⟨_, rfl⟩

theorem failsIf_catches (returned : Option JavaType) : (catches : List CatchClause) →
    FailsIf (Stray.inCatches returned.isSome catches) ((lowering span name).onCatches returned catches)
  | [] => .ok
  | ⟨_, body⟩ :: rest =>
    (failsIf_statements returned body).bind fun _ => (failsIf_catches returned rest).last fun _ => ⟨_, rfl⟩

theorem failsIf_type (returned : Option JavaType) : (type : TypeDecl) →
    FailsIf (Stray.inType returned.isSome type) ((lowering span name).onType returned type)
  | ⟨_, _, _, _, _, _, _, _, constants, fields, initializers, constructors, methods, memberTypes, _, _⟩ =>
    (failsIf_constants returned constants).bind fun _ => (failsIf_fields returned fields).bind fun _ =>
      (failsIf_initializers returned initializers).bind fun _ =>
      (failsIf_constructors returned constructors).bind fun _ => (failsIf_methods returned methods).bind fun _ =>
      (failsIf_types returned memberTypes).last fun _ => ⟨_, rfl⟩

theorem failsIf_types (returned : Option JavaType) : (types : List TypeDecl) →
    FailsIf (Stray.inTypes returned.isSome types) ((lowering span name).onTypes returned types)
  | [] => .ok
  | type :: rest =>
    (failsIf_type returned type).bind fun _ => (failsIf_types returned rest).last fun _ => ⟨_, rfl⟩

theorem failsIf_constants (returned : Option JavaType) : (constants : List EnumConstant) →
    FailsIf (Stray.inConstants returned.isSome constants) ((lowering span name).onConstants returned constants)
  | [] => .ok
  | ⟨_, _, arguments⟩ :: rest =>
    (failsIf_expressions returned arguments).bind fun _ => (failsIf_constants returned rest).last fun _ =>
      ⟨_, rfl⟩

theorem failsIf_field (returned : Option JavaType) : (field : Field) →
    FailsIf (Stray.inField returned.isSome field) ((lowering span name).onField returned field)
  | ⟨_, _, _, _, _, none⟩ =>
    FailsIf.ok.last fun _ => ⟨_, rfl⟩
  | ⟨_, _, _, _, _, some initial⟩ =>
    (failsIf_expression returned initial).map.last fun _ => ⟨_, rfl⟩

theorem failsIf_fields (returned : Option JavaType) : (fields : List Field) →
    FailsIf (Stray.inFields returned.isSome fields) ((lowering span name).onFields returned fields)
  | [] => .ok
  | field :: rest =>
    (failsIf_field returned field).bind fun _ => (failsIf_fields returned rest).last fun _ => ⟨_, rfl⟩

theorem failsIf_initializer (returned : Option JavaType) : (initializer : Initializer) →
    FailsIf (Stray.inInitializer initializer) ((lowering span name).onInitializer returned initializer)
  | ⟨_, _, body⟩ =>
    (failsIf_statements none body).last fun _ => ⟨_, rfl⟩

theorem failsIf_initializers (returned : Option JavaType) : (initializers : List Initializer) →
    FailsIf (Stray.inInitializers initializers) ((lowering span name).onInitializers returned initializers)
  | [] => .ok
  | initializer :: rest =>
    (failsIf_initializer returned initializer).bind fun _ =>
      (failsIf_initializers returned rest).last fun _ => ⟨_, rfl⟩

theorem failsIf_constructor (returned : Option JavaType) : (constructor : Constructor) →
    FailsIf (Stray.inConstructor constructor) ((lowering span name).onConstructor returned constructor)
  | ⟨_, _, _, _, _, _, _, body, _⟩ =>
    (failsIf_statements (some .void) body).last fun _ => ⟨_, rfl⟩

theorem failsIf_constructors (returned : Option JavaType) : (constructors : List Constructor) →
    FailsIf (Stray.inConstructors constructors) ((lowering span name).onConstructors returned constructors)
  | [] => .ok
  | constructor :: rest =>
    (failsIf_constructor returned constructor).bind fun _ =>
      (failsIf_constructors returned rest).last fun _ => ⟨_, rfl⟩

theorem failsIf_method (returned : Option JavaType) : (method : Method) →
    FailsIf (Stray.inMethod method) ((lowering span name).onMethod returned method)
  | ⟨_, _, _, _, returnType, _, _, _, body, _, _⟩ =>
    (failsIf_statements (some returnType) body).last fun _ => ⟨_, rfl⟩

theorem failsIf_methods (returned : Option JavaType) : (methods : List Method) →
    FailsIf (Stray.inMethods methods) ((lowering span name).onMethods returned methods)
  | [] => .ok
  | method :: rest =>
    (failsIf_method returned method).bind fun _ => (failsIf_methods returned rest).last fun _ => ⟨_, rfl⟩

end

end

theorem satisfies_given {steps : Except InternalProblem α} {p : α → Prop} (satisfies : SatisfiesM p steps) :
    SatisfiesM (fun result => ∃ value, result = some value ∧ p value) (some <$> steps) :=
  satisfies.map fun fine => ⟨_, rfl, fine⟩

theorem satisfies_missing : SatisfiesM (· = none) (pure none : Except InternalProblem (Option α)) := .pure rfl

end JavaWeave.Weave
