import JavaWeave.Syntax.Tree

namespace JavaWeave.Syntax

inductive Node where
  | unit (unit : CompilationUnit)
  | type (type : TypeDecl)
  | field (field : Field)
  | method (method : Method)
  | constructor (constructor : Constructor)
  | initializer (initializer : Initializer)
  | constant (constant : EnumConstant)
  | parameter (parameter : Parameter)
  | localVariable (decl : LocalVariable)
  | note (note : Annotation)
  | block (body : List Statement)
  | switchCase (group : SwitchCase)
  | catchClause (clause : CatchClause)
  | statement (statement : Statement)
  | expression (expression : Expression)

namespace Node

inductive Kind where
  | unit | type | field | method | constructor | initializer | constant | parameter | localVariable
  | note | block | switchCase | catchClause | statement | expression
  deriving DecidableEq, Repr

def kind : Node → Kind
  | .unit _ => .unit
  | .type _ => .type
  | .field _ => .field
  | .method _ => .method
  | .constructor _ => .constructor
  | .initializer _ => .initializer
  | .constant _ => .constant
  | .parameter _ => .parameter
  | .localVariable _ => .localVariable
  | .note _ => .note
  | .block _ => .block
  | .switchCase _ => .switchCase
  | .catchClause _ => .catchClause
  | .statement _ => .statement
  | .expression _ => .expression

/-- The size of the part as a tree, which the walk goes down by. -/
noncomputable def size : Node → Nat
  | .unit u => sizeOf u
  | .type t => sizeOf t
  | .field f => sizeOf f
  | .method m => sizeOf m
  | .constructor c => sizeOf c
  | .initializer i => sizeOf i
  | .constant c => sizeOf c
  | .parameter p => sizeOf p
  | .localVariable decl => sizeOf decl
  | .note a => sizeOf a
  | .block body => sizeOf body
  | .switchCase group => sizeOf group
  | .catchClause clause => sizeOf clause
  | .statement s => sizeOf s
  | .expression e => sizeOf e

def ofStatement : Statement → List Node
  | .block body => body.map .statement
  | .expression e => [.expression e]
  | .throws e => [.expression e]
  | .declare decl => [.localVariable decl]
  | .ifElse condition whenTrue whenFalse =>
    [.expression condition, .statement whenTrue] ++ whenFalse.toList.map .statement
  | .whileLoop condition body => [.expression condition, .statement body]
  | .doWhile body condition => [.statement body, .expression condition]
  | .forLoop start condition update body =>
    start.map .statement ++ condition.toList.map .expression ++ update.map .expression
      ++ [.statement body]
  | .forEach item iterable body => [.localVariable item, .expression iterable, .statement body]
  | .switch selector cases => .expression selector :: cases.map .switchCase
  | .tryCatch body catches finalizer =>
    .block body :: (catches.map .catchClause ++ finalizer.toList.map .block)
  | .synchronized lock body => [.expression lock, .block body]
  | .returns value => value.toList.map .expression
  | .labeled _ body => [.statement body]
  | .localType t => [.type t]
  | .returnsDefault | .breaks _ | .continues _ | .empty | .verbatim _ => []

def ofExpression : Expression → List Node
  | .field receiver _ => [.expression receiver]
  | .element array index => [.expression array, .expression index]
  | .call receiver _ _ arguments => receiver.toList.map .expression ++ arguments.map .expression
  | .create _ arguments body => arguments.map .expression ++ body.toList.map .type
  | .createArray _ sizes _ elements =>
    sizes.map .expression ++ (elements.getD []).map .expression
  | .arrayElements elements => elements.map .expression
  | .binary _ left right => [.expression left, .expression right]
  | .unary _ operand => [.expression operand]
  | .assign _ target value => [.expression target, .expression value]
  | .instanceOf operand _ => [.expression operand]
  | .cast _ operand => [.expression operand]
  | .conditional condition whenTrue whenFalse =>
    [.expression condition, .expression whenTrue, .expression whenFalse]
  | .note a => [.note a]
  | .name _ | .this _ | .literal _ | .classLiteral _ | .verbatim _ => []

/-- The direct parts of a part, in source order. -/
def children : Node → List Node
  | .unit u => u.types.map .type
  | .type t =>
    t.annotations.map .note ++ t.constants.map .constant ++ t.fields.map .field
      ++ t.initializers.map .initializer ++ t.constructors.map .constructor
      ++ t.methods.map .method ++ t.memberTypes.map .type
  | .field f => f.annotations.map .note ++ f.initial.toList.map .expression
  | .method m =>
    m.annotations.map .note ++ m.parameters.map .parameter ++ m.body.map .statement
  | .constructor c =>
    c.annotations.map .note ++ c.parameters.map .parameter ++ c.body.map .statement
  | .initializer i => i.body.map .statement
  | .constant c => c.arguments.map .expression
  | .parameter p => p.annotations.map .note
  | .localVariable decl => decl.annotations.map .note ++ decl.initial.toList.map .expression
  | .note a => a.members.map fun member => .expression member.value
  | .block body => body.map .statement
  | .switchCase group => group.label.toList.map .expression ++ group.body.map .statement
  | .catchClause clause => [.parameter clause.parameter, .block clause.body]
  | .statement s => ofStatement s
  | .expression e => ofExpression e

private theorem size_lt_of_mem_toList {a : α} {o : Option α} [SizeOf α] (member : a ∈ o.toList) :
    sizeOf a < sizeOf o := by
  cases o <;> simp_all

private theorem size_lt_of_mem_ofStatement {s : Statement} {child : Node}
    (member : child ∈ ofStatement s) : child.size < sizeOf s := by
  cases s <;> simp only [ofStatement, List.mem_append, List.mem_map, List.mem_cons,
    List.not_mem_nil, or_false] at member <;>
  grind [size, → List.sizeOf_lt_of_mem, → size_lt_of_mem_toList]

private theorem size_lt_of_mem_ofExpression {e : Expression} {child : Node}
    (member : child ∈ ofExpression e) : child.size < sizeOf e := by
  cases e with
  | createArray element sizes unsized elements =>
    cases elements <;> simp only [ofExpression, List.mem_append, List.mem_map, Option.getD_none,
      Option.getD_some] at member <;>
    grind [size, → List.sizeOf_lt_of_mem]
  | _ =>
    simp only [ofExpression, List.mem_append, List.mem_map, List.mem_cons, List.not_mem_nil,
      or_false] at member <;>
    grind [size, → List.sizeOf_lt_of_mem, → size_lt_of_mem_toList]

/-- A direct part is smaller than the whole. -/
theorem size_lt_of_mem_children {node child : Node} (member : child ∈ node.children) :
    child.size < node.size := by
  cases node with
  | statement s => exact size_lt_of_mem_ofStatement member
  | expression e => exact size_lt_of_mem_ofExpression member
  | note a =>
    obtain ⟨_, _, members⟩ := a
    simp only [children, List.mem_map] at member
    obtain ⟨m, inside, rfl⟩ := member
    obtain ⟨_, _⟩ := m
    grind [size, → List.sizeOf_lt_of_mem]
  | _ x =>
    cases x <;> simp only [children, List.mem_append, List.mem_map, List.mem_cons,
      List.not_mem_nil, or_false] at member <;>
    grind [size, → List.sizeOf_lt_of_mem, → size_lt_of_mem_toList]

end Node

/-- A part met by a walk, with the parts around it from the innermost to the root. -/
structure Visit where
  node : Node
  ancestors : List Node

namespace Visit

/-- How many parts lead to this one, itself included. -/
def depth (visit : Visit) : Nat := visit.ancestors.length + 1

/-- The nearest part of a kind around this one. -/
def enclosing? (visit : Visit) (kind : Node.Kind) : Option Node :=
  visit.ancestors.find? (·.kind == kind)

end Visit

namespace Node

/-- Meets a part and then its parts in source order. -/
def walkUnder (ancestors : List Node) (node : Node) : List Visit :=
  ⟨node, ancestors⟩ :: node.children.attach.flatMap fun child =>
    walkUnder (node :: ancestors) child.val
termination_by node.size
decreasing_by exact size_lt_of_mem_children child.property

/-- All parts from a root on, each before its own parts. -/
def walk (root : Node) : List Visit := walkUnder [] root

end Node

end JavaWeave.Syntax
