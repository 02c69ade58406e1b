import JavaWeave.Syntax.Tree

/-! The order in which a reader meets the declarations, types, statements and expressions of a source file:
everything before its own parts, a declaration's annotations first. Types are met as a whole. -/

namespace JavaWeave.Syntax

/-- Something a reader meets. -/
inductive Event where
  | type (type : TypeDecl)
  | method (method : Method)
  | constructor (constructor : Constructor)
  | named (type : JavaType)
  | statement (statement : Statement)
  | expression (expression : Expression)

namespace Event

/-- The types of the bounds of type parameters. -/
def ofTypeParameters (parameters : List TypeParameter) : List Event :=
  parameters.flatMap fun parameter => parameter.bounds.map .named

mutual

def ofExpression : Expression → List Event
  | .field receiver name => .expression (.field receiver name) :: ofExpression receiver
  | .element array index =>
    .expression (.element array index) :: (ofExpression array ++ ofExpression index)
  | .call receiver name typeArguments arguments =>
    .expression (.call receiver name typeArguments arguments) ::
      ((match receiver with | some e => ofExpression e | none => [])
        ++ typeArguments.map .named ++ ofExpressions arguments)
  | .create t arguments body =>
    .expression (.create t arguments body) :: .named t ::
      (ofExpressions arguments ++ (match body with | some decl => ofType decl | none => []))
  | .createArray element sizes unsized elements =>
    .expression (.createArray element sizes unsized elements) :: .named element ::
      (ofExpressions sizes ++ (match elements with | some es => ofExpressions es | none => []))
  | .arrayElements elements => .expression (.arrayElements elements) :: ofExpressions elements
  | .binary op left right =>
    .expression (.binary op left right) :: (ofExpression left ++ ofExpression right)
  | .unary op operand => .expression (.unary op operand) :: ofExpression operand
  | .assign op target value =>
    .expression (.assign op target value) :: (ofExpression target ++ ofExpression value)
  | .instanceOf operand t => .expression (.instanceOf operand t) :: (ofExpression operand ++ [.named t])
  | .cast t operand => .expression (.cast t operand) :: .named t :: ofExpression operand
  | .conditional condition whenTrue whenFalse =>
    .expression (.conditional condition whenTrue whenFalse) ::
      (ofExpression condition ++ ofExpression whenTrue ++ ofExpression whenFalse)
  | .classLiteral t => [.expression (.classLiteral t), .named t]
  | .note a => .expression (.note a) :: ofNote a
  | .name text => [.expression (.name text)]
  | .this qualifier => [.expression (.this qualifier)]
  | .literal value => [.expression (.literal value)]
  | .verbatim text => [.expression (.verbatim text)]

def ofExpressions : List Expression → List Event
  | [] => []
  | e :: rest => ofExpression e ++ ofExpressions rest

def ofNote : Annotation → List Event
  | ⟨_, _, members⟩ => ofMembers members

def ofMembers : List AnnotationMember → List Event
  | [] => []
  | ⟨_, value⟩ :: rest => ofExpression value ++ ofMembers rest

def ofAnnotations : List Annotation → List Event
  | [] => []
  | a :: rest => ofNote a ++ ofAnnotations rest

def ofLocal : LocalVariable → List Event
  | ⟨_, annotations, t, _, initial⟩ =>
    ofAnnotations annotations ++ .named t ::
      (match initial with | some e => ofExpression e | none => [])

def ofParameters : List Parameter → List Event
  | [] => []
  | ⟨_, annotations, t, _⟩ :: rest => ofAnnotations annotations ++ .named t :: ofParameters rest

def ofStatement : Statement → List Event
  | .block body => .statement (.block body) :: ofStatements body
  | .expression e => .statement (.expression e) :: ofExpression e
  | .declare decl => .statement (.declare decl) :: ofLocal decl
  | .ifElse condition whenTrue whenFalse =>
    .statement (.ifElse condition whenTrue whenFalse) ::
      (ofExpression condition ++ ofStatement whenTrue
        ++ (match whenFalse with | some s => ofStatement s | none => []))
  | .whileLoop condition body =>
    .statement (.whileLoop condition body) :: (ofExpression condition ++ ofStatement body)
  | .doWhile body condition =>
    .statement (.doWhile body condition) :: (ofStatement body ++ ofExpression condition)
  | .forLoop start condition update body =>
    .statement (.forLoop start condition update body) ::
      (ofStatements start ++ (match condition with | some e => ofExpression e | none => [])
        ++ ofExpressions update ++ ofStatement body)
  | .forEach item iterable body =>
    .statement (.forEach item iterable body) ::
      (ofLocal item ++ ofExpression iterable ++ ofStatement body)
  | .switch selector cases =>
    .statement (.switch selector cases) :: (ofExpression selector ++ ofCases cases)
  | .tryCatch body catches finalizer =>
    .statement (.tryCatch body catches finalizer) ::
      (ofStatements body ++ ofCatches catches
        ++ (match finalizer with | some ss => ofStatements ss | none => []))
  | .synchronized lock body =>
    .statement (.synchronized lock body) :: (ofExpression lock ++ ofStatements body)
  | .returns value =>
    .statement (.returns value) :: (match value with | some e => ofExpression e | none => [])
  | .throws value => .statement (.throws value) :: ofExpression value
  | .labeled label body => .statement (.labeled label body) :: ofStatement body
  | .localType decl => .statement (.localType decl) :: ofType decl
  | .returnsDefault => [.statement .returnsDefault]
  | .breaks label => [.statement (.breaks label)]
  | .continues label => [.statement (.continues label)]
  | .empty => [.statement .empty]
  | .verbatim text => [.statement (.verbatim text)]

def ofStatements : List Statement → List Event
  | [] => []
  | s :: rest => ofStatement s ++ ofStatements rest

def ofCases : List SwitchCase → List Event
  | [] => []
  | ⟨label, body⟩ :: rest =>
    (match label with | some e => ofExpression e | none => []) ++ ofStatements body ++ ofCases rest

def ofCatches : List CatchClause → List Event
  | [] => []
  | ⟨⟨_, annotations, t, _⟩, body⟩ :: rest =>
    ofAnnotations annotations ++ .named t :: (ofStatements body ++ ofCatches rest)

def ofType : TypeDecl → List Event
  | ⟨origin, modifiers, annotations, kind, name, typeParameters, superclass, interfaces, constants, fields,
      initializers, constructors, methods, memberTypes, isLocal, isAnonymous⟩ =>
    .type ⟨origin, modifiers, annotations, kind, name, typeParameters, superclass, interfaces, constants,
        fields, initializers, constructors, methods, memberTypes, isLocal, isAnonymous⟩ ::
      (ofAnnotations annotations ++ ofTypeParameters typeParameters ++ superclass.toList.map .named
        ++ interfaces.map .named ++ ofConstants constants ++ ofFields fields
        ++ ofInitializers initializers ++ ofConstructors constructors ++ ofMethods methods
        ++ ofTypes memberTypes)

def ofTypes : List TypeDecl → List Event
  | [] => []
  | decl :: rest => ofType decl ++ ofTypes rest

def ofConstants : List EnumConstant → List Event
  | [] => []
  | ⟨_, _, arguments⟩ :: rest => ofExpressions arguments ++ ofConstants rest

def ofFields : List Field → List Event
  | [] => []
  | ⟨_, _, annotations, t, _, initial⟩ :: rest =>
    ofAnnotations annotations ++ .named t ::
      ((match initial with | some e => ofExpression e | none => []) ++ ofFields rest)

def ofInitializers : List Initializer → List Event
  | [] => []
  | ⟨_, _, body⟩ :: rest => ofStatements body ++ ofInitializers rest

def ofConstructors : List Constructor → List Event
  | [] => []
  | ⟨origin, modifiers, annotations, typeParameters, name, parameters, thrown, body, implicitSuper⟩ ::
      rest =>
    .constructor ⟨origin, modifiers, annotations, typeParameters, name, parameters, thrown, body,
        implicitSuper⟩ ::
      (ofAnnotations annotations ++ ofTypeParameters typeParameters ++ ofParameters parameters
        ++ thrown.map .named ++ ofStatements body ++ ofConstructors rest)

def ofMethods : List Method → List Event
  | [] => []
  | ⟨origin, modifiers, annotations, typeParameters, returnType, name, parameters, thrown, body, bodiless,
      implementing⟩ :: rest =>
    .method ⟨origin, modifiers, annotations, typeParameters, returnType, name, parameters, thrown, body,
        bodiless, implementing⟩ ::
      (ofAnnotations annotations ++ ofTypeParameters typeParameters ++ .named returnType ::
        (ofParameters parameters ++ thrown.map .named ++ ofStatements body ++ ofMethods rest))

end

/-- Everything a reader of a source file meets. -/
def ofUnit (unit : CompilationUnit) : List Event := ofTypes unit.types

end Event

end JavaWeave.Syntax
