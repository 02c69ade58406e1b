import JavaWeave.Syntax.Tree

/-! Revising a tree from the leaves up. A reviser says what becomes of each expression, statement and
declaration once its parts are revised, and what is known on the way down. Annotations, types and
parameters are left as they are. -/

namespace JavaWeave.Syntax

/-- What a revision does with the parts it meets. The context `γ` is what it knows on the way down. -/
structure Reviser (γ : Type) (m : Type → Type) where
  /-- The expression in place of one whose parts are revised. -/
  expression : γ → Expression → m Expression
  /-- The statement in place of one whose parts are revised. -/
  statement : γ → Statement → m Statement
  withinLoop : γ → γ := id
  withinSwitch : γ → γ := id
  withinLabel : γ → String → γ := fun context _ => context
  /-- What is known inside a method that returns the given type. -/
  withinMethod : γ → JavaType → γ := fun context _ => context
  withinConstructor : γ → γ := id
  withinInitializer : γ → γ := id
  /-- The origin in place of that of a declaration. -/
  origin : γ → Origin → Origin := fun _ origin => origin
  /-- Whether the types declared inside a body are revised. -/
  entersTypes : Bool := true

namespace Reviser

variable {γ : Type} {m : Type → Type} [Monad m]

mutual

def onExpression (r : Reviser γ m) (context : γ) : Expression → m Expression
  | .field receiver name => do
    r.expression context (.field (← r.onExpression context receiver) name)
  | .element array index => do
    r.expression context
      (.element (← r.onExpression context array) (← r.onExpression context index))
  | .call receiver name typeArguments arguments => do
    let receiver ← match receiver with
      | some receiver => some <$> r.onExpression context receiver
      | none => pure none
    r.expression context (.call receiver name typeArguments (← r.onExpressions context arguments))
  | .create type arguments body => do
    let arguments ← r.onExpressions context arguments
    let body ← match body with
      | some body => if r.entersTypes then some <$> r.onType context body else pure (some body)
      | none => pure none
    r.expression context (.create type arguments body)
  | .createArray element sizes unsized elements => do
    let sizes ← r.onExpressions context sizes
    let elements ← match elements with
      | some elements => some <$> r.onExpressions context elements
      | none => pure none
    r.expression context (.createArray element sizes unsized elements)
  | .arrayElements elements => do
    r.expression context (.arrayElements (← r.onExpressions context elements))
  | .binary op left right => do
    r.expression context
      (.binary op (← r.onExpression context left) (← r.onExpression context right))
  | .unary op operand => do r.expression context (.unary op (← r.onExpression context operand))
  | .assign op target value => do
    r.expression context
      (.assign op (← r.onExpression context target) (← r.onExpression context value))
  | .instanceOf operand type => do
    r.expression context (.instanceOf (← r.onExpression context operand) type)
  | .cast type operand => do r.expression context (.cast type (← r.onExpression context operand))
  | .conditional condition whenTrue whenFalse => do
    r.expression context
      (.conditional (← r.onExpression context condition) (← r.onExpression context whenTrue)
        (← r.onExpression context whenFalse))
  | .name text => r.expression context (.name text)
  | .this qualifier => r.expression context (.this qualifier)
  | .literal value => r.expression context (.literal value)
  | .classLiteral type => r.expression context (.classLiteral type)
  | .note note => r.expression context (.note note)
  | .verbatim text => r.expression context (.verbatim text)

def onExpressions (r : Reviser γ m) (context : γ) : List Expression → m (List Expression)
  | [] => pure []
  | e :: rest => do return (← r.onExpression context e) :: (← r.onExpressions context rest)

def onStatement (r : Reviser γ m) (context : γ) : Statement → m Statement
  | .block body => do r.statement context (.block (← r.onStatements context body))
  | .expression e => do r.statement context (.expression (← r.onExpression context e))
  | .declare decl => do r.statement context (.declare (← r.onLocal context decl))
  | .ifElse condition whenTrue whenFalse => do
    let condition ← r.onExpression context condition
    let whenTrue ← r.onStatement context whenTrue
    let whenFalse ← match whenFalse with
      | some whenFalse => some <$> r.onStatement context whenFalse
      | none => pure none
    r.statement context (.ifElse condition whenTrue whenFalse)
  | .whileLoop condition body => do
    let inside := r.withinLoop context
    r.statement context
      (.whileLoop (← r.onExpression inside condition) (← r.onStatement inside body))
  | .doWhile body condition => do
    let inside := r.withinLoop context
    r.statement context
      (.doWhile (← r.onStatement inside body) (← r.onExpression inside condition))
  | .forLoop start condition update body => do
    let inside := r.withinLoop context
    let start ← r.onStatements inside start
    let condition ← match condition with
      | some condition => some <$> r.onExpression inside condition
      | none => pure none
    let update ← r.onExpressions inside update
    r.statement context (.forLoop start condition update (← r.onStatement inside body))
  | .forEach item iterable body => do
    let inside := r.withinLoop context
    r.statement context
      (.forEach (← r.onLocal inside item) (← r.onExpression inside iterable)
        (← r.onStatement inside body))
  | .switch selector cases => do
    let inside := r.withinSwitch context
    r.statement context
      (.switch (← r.onExpression inside selector) (← r.onCases inside cases))
  | .tryCatch body catches finalizer => do
    let body ← r.onStatements context body
    let catches ← r.onCatches context catches
    let finalizer ← match finalizer with
      | some finalizer => some <$> r.onStatements context finalizer
      | none => pure none
    r.statement context (.tryCatch body catches finalizer)
  | .synchronized lock body => do
    r.statement context
      (.synchronized (← r.onExpression context lock) (← r.onStatements context body))
  | .returns value => do
    let value ← match value with
      | some value => some <$> r.onExpression context value
      | none => pure none
    r.statement context (.returns value)
  | .throws value => do r.statement context (.throws (← r.onExpression context value))
  | .labeled label body => do
    r.statement context (.labeled label (← r.onStatement (r.withinLabel context label) body))
  | .localType type => do
    if r.entersTypes then r.statement context (.localType (← r.onType context type))
    else r.statement context (.localType type)
  | .returnsDefault => r.statement context .returnsDefault
  | .breaks label => r.statement context (.breaks label)
  | .continues label => r.statement context (.continues label)
  | .empty => r.statement context .empty
  | .verbatim text => r.statement context (.verbatim text)

def onStatements (r : Reviser γ m) (context : γ) : List Statement → m (List Statement)
  | [] => pure []
  | s :: rest => do return (← r.onStatement context s) :: (← r.onStatements context rest)

def onLocal (r : Reviser γ m) (context : γ) : LocalVariable → m LocalVariable
  | ⟨modifiers, annotations, type, name, initial⟩ => do
    let initial ← match initial with
      | some initial => some <$> r.onExpression context initial
      | none => pure none
    return ⟨modifiers, annotations, type, name, initial⟩

def onCases (r : Reviser γ m) (context : γ) : List SwitchCase → m (List SwitchCase)
  | [] => pure []
  | ⟨label, body⟩ :: rest => do
    let label ← match label with
      | some label => some <$> r.onExpression context label
      | none => pure none
    let body ← r.onStatements context body
    return ⟨label, body⟩ :: (← r.onCases context rest)

def onCatches (r : Reviser γ m) (context : γ) : List CatchClause → m (List CatchClause)
  | [] => pure []
  | ⟨parameter, body⟩ :: rest => do
    let body ← r.onStatements context body
    return ⟨parameter, body⟩ :: (← r.onCatches context rest)

def onType (r : Reviser γ m) (context : γ) : TypeDecl → m TypeDecl
  | ⟨origin, modifiers, annotations, kind, name, typeParameters, superclass, interfaces, constants, fields,
      initializers, constructors, methods, memberTypes, isLocal, isAnonymous⟩ => do
    let constants ← r.onConstants context constants
    let fields ← r.onFields context fields
    let initializers ← r.onInitializers context initializers
    let constructors ← r.onConstructors context constructors
    let methods ← r.onMethods context methods
    let memberTypes ← r.onTypes context memberTypes
    return ⟨r.origin context origin, modifiers, annotations, kind, name, typeParameters, superclass,
      interfaces, constants, fields, initializers, constructors, methods, memberTypes, isLocal,
      isAnonymous⟩

def onTypes (r : Reviser γ m) (context : γ) : List TypeDecl → m (List TypeDecl)
  | [] => pure []
  | type :: rest => do return (← r.onType context type) :: (← r.onTypes context rest)

def onConstants (r : Reviser γ m) (context : γ) : List EnumConstant → m (List EnumConstant)
  | [] => pure []
  | ⟨origin, name, arguments⟩ :: rest => do
    let arguments ← r.onExpressions context arguments
    return ⟨r.origin context origin, name, arguments⟩ :: (← r.onConstants context rest)

def onField (r : Reviser γ m) (context : γ) : Field → m Field
  | ⟨origin, modifiers, annotations, type, name, initial⟩ => do
    let initial ← match initial with
      | some initial => some <$> r.onExpression context initial
      | none => pure none
    return ⟨r.origin context origin, modifiers, annotations, type, name, initial⟩

def onFields (r : Reviser γ m) (context : γ) : List Field → m (List Field)
  | [] => pure []
  | field :: rest => do return (← r.onField context field) :: (← r.onFields context rest)

def onInitializer (r : Reviser γ m) (context : γ) : Initializer → m Initializer
  | ⟨origin, isStatic, body⟩ => do
    return ⟨r.origin context origin, isStatic, ← r.onStatements (r.withinInitializer context) body⟩

def onInitializers (r : Reviser γ m) (context : γ) : List Initializer → m (List Initializer)
  | [] => pure []
  | initializer :: rest => do
    return (← r.onInitializer context initializer) :: (← r.onInitializers context rest)

def onConstructor (r : Reviser γ m) (context : γ) : Constructor → m Constructor
  | ⟨origin, modifiers, annotations, typeParameters, name, parameters, thrown, body, implicitSuper⟩ => do
    return ⟨r.origin context origin, modifiers, annotations, typeParameters, name, parameters, thrown,
      ← r.onStatements (r.withinConstructor context) body, implicitSuper⟩

def onConstructors (r : Reviser γ m) (context : γ) : List Constructor → m (List Constructor)
  | [] => pure []
  | constructor :: rest => do
    return (← r.onConstructor context constructor) :: (← r.onConstructors context rest)

def onMethod (r : Reviser γ m) (context : γ) : Method → m Method
  | ⟨origin, modifiers, annotations, typeParameters, returnType, name, parameters, thrown, body, bodiless,
      implementing⟩ => do
    let body ← r.onStatements (r.withinMethod context returnType) body
    return ⟨r.origin context origin, modifiers, annotations, typeParameters, returnType, name, parameters,
      thrown, body, bodiless, implementing⟩

def onMethods (r : Reviser γ m) (context : γ) : List Method → m (List Method)
  | [] => pure []
  | method :: rest => do return (← r.onMethod context method) :: (← r.onMethods context rest)

end

end Reviser

/-- The reviser that gives names of expressions other names. -/
def renamer (rename : String → Option String) : Reviser Unit Id where
  expression := fun _ e => match e with
    | .name text => .name ((rename text).getD text)
    | e => e
  statement := fun _ s => s

/-- Gives every name that stands as an expression of its own the name a map has for it. -/
def CompilationUnit.renameAll (unit : CompilationUnit) (rename : String → Option String) :
    CompilationUnit :=
  { unit with types := (renamer rename).onTypes () unit.types }

end JavaWeave.Syntax
