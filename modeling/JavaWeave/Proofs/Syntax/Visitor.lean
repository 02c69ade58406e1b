import JavaWeave.Syntax.Revision

namespace JavaWeave.Syntax

/-- What becomes of a part, given the revision of its own parts. -/
structure Visitor (m : Type → Type) where
  type : TypeDecl → m TypeDecl → m TypeDecl := fun _ inside => inside
  field : Field → m Field → m Field := fun _ inside => inside
  method : Method → m Method → m Method := fun _ inside => inside
  constructor : Constructor → m Constructor → m Constructor := fun _ inside => inside
  initializer : Initializer → m Initializer → m Initializer := fun _ inside => inside
  statement : Statement → m Statement → m Statement := fun _ inside => inside
  expression : Expression → m Expression → m Expression := fun _ inside => inside

namespace Visitor

variable {m : Type → Type} [Monad m]

mutual

def onExpression (v : Visitor m) : Expression → m Expression
  | .field receiver name => v.expression (.field receiver name) do
    return .field (← v.onExpression receiver) name
  | .element array index => v.expression (.element array index) do
    return .element (← v.onExpression array) (← v.onExpression index)
  | .call receiver name typeArguments arguments => v.expression (.call receiver name typeArguments arguments) do
    let receiver ← match receiver with
      | some receiver => some <$> v.onExpression receiver
      | none => pure none
    return .call receiver name typeArguments (← v.onExpressions arguments)
  | .create type arguments body => v.expression (.create type arguments body) do
    let arguments ← v.onExpressions arguments
    let body ← match body with
      | some body => some <$> v.onType body
      | none => pure none
    return .create type arguments body
  | .createArray element sizes unsized elements => v.expression (.createArray element sizes unsized elements) do
    let sizes ← v.onExpressions sizes
    let elements ← match elements with
      | some elements => some <$> v.onExpressions elements
      | none => pure none
    return .createArray element sizes unsized elements
  | .arrayElements elements => v.expression (.arrayElements elements) do
    return .arrayElements (← v.onExpressions elements)
  | .binary op left right => v.expression (.binary op left right) do
    return .binary op (← v.onExpression left) (← v.onExpression right)
  | .unary op operand => v.expression (.unary op operand) do
    return .unary op (← v.onExpression operand)
  | .assign op target value => v.expression (.assign op target value) do
    return .assign op (← v.onExpression target) (← v.onExpression value)
  | .instanceOf operand type => v.expression (.instanceOf operand type) do
    return .instanceOf (← v.onExpression operand) type
  | .cast type operand => v.expression (.cast type operand) do
    return .cast type (← v.onExpression operand)
  | .conditional condition whenTrue whenFalse => v.expression (.conditional condition whenTrue whenFalse) do
    return .conditional (← v.onExpression condition) (← v.onExpression whenTrue) (← v.onExpression whenFalse)
  | .name text => v.expression (.name text) (pure (.name text))
  | .this qualifier => v.expression (.this qualifier) (pure (.this qualifier))
  | .literal value => v.expression (.literal value) (pure (.literal value))
  | .classLiteral type => v.expression (.classLiteral type) (pure (.classLiteral type))
  | .note note => v.expression (.note note) (pure (.note note))
  | .verbatim text => v.expression (.verbatim text) (pure (.verbatim text))

def onExpressions (v : Visitor m) : List Expression → m (List Expression)
  | [] => pure []
  | e :: rest => do return (← v.onExpression e) :: (← v.onExpressions rest)

def onStatement (v : Visitor m) : Statement → m Statement
  | .block body => v.statement (.block body) do
    return .block (← v.onStatements body)
  | .expression e => v.statement (.expression e) do
    return .expression (← v.onExpression e)
  | .declare decl => v.statement (.declare decl) do
    return .declare (← v.onLocal decl)
  | .ifElse condition whenTrue whenFalse => v.statement (.ifElse condition whenTrue whenFalse) do
    let condition ← v.onExpression condition
    let whenTrue ← v.onStatement whenTrue
    let whenFalse ← match whenFalse with
      | some whenFalse => some <$> v.onStatement whenFalse
      | none => pure none
    return .ifElse condition whenTrue whenFalse
  | .whileLoop condition body => v.statement (.whileLoop condition body) do
    return .whileLoop (← v.onExpression condition) (← v.onStatement body)
  | .doWhile body condition => v.statement (.doWhile body condition) do
    return .doWhile (← v.onStatement body) (← v.onExpression condition)
  | .forLoop start condition update body => v.statement (.forLoop start condition update body) do
    let start ← v.onStatements start
    let condition ← match condition with
      | some condition => some <$> v.onExpression condition
      | none => pure none
    let update ← v.onExpressions update
    return .forLoop start condition update (← v.onStatement body)
  | .forEach item iterable body => v.statement (.forEach item iterable body) do
    return .forEach (← v.onLocal item) (← v.onExpression iterable) (← v.onStatement body)
  | .switch selector cases => v.statement (.switch selector cases) do
    return .switch (← v.onExpression selector) (← v.onCases cases)
  | .tryCatch body catches finalizer => v.statement (.tryCatch body catches finalizer) do
    let body ← v.onStatements body
    let catches ← v.onCatches catches
    let finalizer ← match finalizer with
      | some finalizer => some <$> v.onStatements finalizer
      | none => pure none
    return .tryCatch body catches finalizer
  | .synchronized lock body => v.statement (.synchronized lock body) do
    return .synchronized (← v.onExpression lock) (← v.onStatements body)
  | .returns value => v.statement (.returns value) do
    let value ← match value with
      | some value => some <$> v.onExpression value
      | none => pure none
    return .returns value
  | .throws value => v.statement (.throws value) do
    return .throws (← v.onExpression value)
  | .labeled label body => v.statement (.labeled label body) do
    return .labeled label (← v.onStatement body)
  | .localType type => v.statement (.localType type) do
    return .localType (← v.onType type)
  | .returnsDefault => v.statement .returnsDefault (pure .returnsDefault)
  | .breaks label => v.statement (.breaks label) (pure (.breaks label))
  | .continues label => v.statement (.continues label) (pure (.continues label))
  | .empty => v.statement .empty (pure .empty)
  | .verbatim text => v.statement (.verbatim text) (pure (.verbatim text))

def onStatements (v : Visitor m) : List Statement → m (List Statement)
  | [] => pure []
  | s :: rest => do return (← v.onStatement s) :: (← v.onStatements rest)

def onLocal (v : Visitor m) : LocalVariable → m LocalVariable
  | ⟨modifiers, annotations, type, name, initial⟩ => do
    let initial ← match initial with
      | some initial => some <$> v.onExpression initial
      | none => pure none
    return ⟨modifiers, annotations, type, name, initial⟩

def onCases (v : Visitor m) : List SwitchCase → m (List SwitchCase)
  | [] => pure []
  | ⟨label, body⟩ :: rest => do
    let group ← (do
      let label ← match label with
        | some label => some <$> v.onExpression label
        | none => pure none
      return ⟨label, ← v.onStatements body⟩ : m SwitchCase)
    return group :: (← v.onCases rest)

def onCatches (v : Visitor m) : List CatchClause → m (List CatchClause)
  | [] => pure []
  | ⟨parameter, body⟩ :: rest => do
    let clause ← (do return ⟨parameter, ← v.onStatements body⟩ : m CatchClause)
    return clause :: (← v.onCatches rest)

def onType (v : Visitor m) : TypeDecl → m TypeDecl
  | ⟨origin, modifiers, annotations, kind, name, typeParameters, superclass, interfaces, constants, fields,
      initializers, constructors, methods, memberTypes, isLocal, isAnonymous⟩ =>
    v.type ⟨origin, modifiers, annotations, kind, name, typeParameters, superclass, interfaces, constants, fields,
      initializers, constructors, methods, memberTypes, isLocal, isAnonymous⟩ do
    let constants ← v.onConstants constants
    let fields ← v.onFields fields
    let initializers ← v.onInitializers initializers
    let constructors ← v.onConstructors constructors
    let methods ← v.onMethods methods
    let memberTypes ← v.onTypes memberTypes
    return ⟨origin, modifiers, annotations, kind, name, typeParameters, superclass, interfaces, constants, fields,
      initializers, constructors, methods, memberTypes, isLocal, isAnonymous⟩

def onTypes (v : Visitor m) : List TypeDecl → m (List TypeDecl)
  | [] => pure []
  | type :: rest => do return (← v.onType type) :: (← v.onTypes rest)

def onConstants (v : Visitor m) : List EnumConstant → m (List EnumConstant)
  | [] => pure []
  | ⟨origin, name, arguments⟩ :: rest => do
    let constant ← (do return ⟨origin, name, ← v.onExpressions arguments⟩ : m EnumConstant)
    return constant :: (← v.onConstants rest)

def onFields (v : Visitor m) : List Field → m (List Field)
  | [] => pure []
  | ⟨origin, modifiers, annotations, type, name, initial⟩ :: rest => do
    let field ← v.field ⟨origin, modifiers, annotations, type, name, initial⟩ do
      let initial ← match initial with
        | some initial => some <$> v.onExpression initial
        | none => pure none
      return ⟨origin, modifiers, annotations, type, name, initial⟩
    return field :: (← v.onFields rest)

def onInitializers (v : Visitor m) : List Initializer → m (List Initializer)
  | [] => pure []
  | ⟨origin, isStatic, body⟩ :: rest => do
    let initializer ← v.initializer ⟨origin, isStatic, body⟩ do
      return ⟨origin, isStatic, ← v.onStatements body⟩
    return initializer :: (← v.onInitializers rest)

def onConstructors (v : Visitor m) : List Constructor → m (List Constructor)
  | [] => pure []
  | ⟨origin, modifiers, annotations, typeParameters, name, parameters, thrown, body, implicitSuper⟩ :: rest => do
    let constructor ← v.constructor
        ⟨origin, modifiers, annotations, typeParameters, name, parameters, thrown, body, implicitSuper⟩ do
      return ⟨origin, modifiers, annotations, typeParameters, name, parameters, thrown, ← v.onStatements body,
        implicitSuper⟩
    return constructor :: (← v.onConstructors rest)

def onMethods (v : Visitor m) : List Method → m (List Method)
  | [] => pure []
  | ⟨origin, modifiers, annotations, typeParameters, returnType, name, parameters, thrown, body, bodiless,
      implementing⟩ :: rest => do
    let method ← v.method ⟨origin, modifiers, annotations, typeParameters, returnType, name, parameters, thrown,
        body, bodiless, implementing⟩ do
      return ⟨origin, modifiers, annotations, typeParameters, returnType, name, parameters, thrown,
        ← v.onStatements body, bodiless, implementing⟩
    return method :: (← v.onMethods rest)

end

end Visitor

namespace Reviser

variable {γ : Type} {m : Type → Type}

/-- What is known inside a statement. -/
def inside (r : Reviser γ m) (context : γ) : Statement → γ
  | .whileLoop .. | .doWhile .. | .forLoop .. | .forEach .. => r.withinLoop context
  | .switch .. => r.withinSwitch context
  | .labeled label _ => r.withinLabel context label
  | _ => context

variable [Monad m]

/-- A reviser as a visitor. It knows whether it is inside a body, whose types may be left as they are. -/
def visitor (r : Reviser γ m) : Visitor (ReaderT (γ × Bool) m) where
  type decl inside := fun (context, inBody) =>
    if inBody && !r.entersTypes then pure decl else do
      let decl ← inside (context, false)
      return { decl with
        origin := r.origin context decl.origin
        constants := decl.constants.map fun constant => { constant with origin := r.origin context constant.origin } }
  field _ inside := fun (context, inBody) => do
    let field ← inside (context, inBody)
    return { field with origin := r.origin context field.origin }
  method method inside := fun (context, inBody) => do
    let method ← inside (r.withinMethod context method.returnType, inBody)
    return { method with origin := r.origin context method.origin }
  constructor _ inside := fun (context, inBody) => do
    let constructor ← inside (r.withinConstructor context, inBody)
    return { constructor with origin := r.origin context constructor.origin }
  initializer _ inside := fun (context, inBody) => do
    let initializer ← inside (r.withinInitializer context, inBody)
    return { initializer with origin := r.origin context initializer.origin }
  statement s inside := fun (context, _) => do r.statement context (← inside (r.inside context s, true))
  expression _ inside := fun (context, _) => do r.expression context (← inside (context, true))

section

variable {context : γ} {inBody : Bool}

variable {r : Reviser γ m}

private theorem visited_expression {e : Expression} {inside : ReaderT (γ × Bool) m Expression}
    {revised : m Expression}
    (same : (inside (context, true) >>= r.expression context) = revised) :
    r.visitor.expression e inside (context, inBody) = revised := same

private theorem visited_statement {s : Statement} {inside : ReaderT (γ × Bool) m Statement} {revised : m Statement}
    (same : (inside (r.inside context s, true) >>= r.statement context) = revised) :
    r.visitor.statement s inside (context, inBody) = revised := same

private theorem visited_type {t : TypeDecl} {inside : ReaderT (γ × Bool) m TypeDecl} {revised : m TypeDecl}
    (same : (do
      let t ← inside (context, false)
      return { t with
        origin := r.origin context t.origin
        constants := t.constants.map fun constant =>
          { constant with origin := r.origin context constant.origin } }) = revised) :
    r.visitor.type t inside (context, inBody) = if !inBody || r.entersTypes then revised else pure t := by
  rw [← same]
  cases inBody <;> cases enters : r.entersTypes <;> simp [visitor, enters]

private theorem visited_field {field : Field} {inside : ReaderT (γ × Bool) m Field} {revised : m Field}
    (same : (inside (context, inBody) >>= fun field =>
      pure { field with origin := r.origin context field.origin }) = revised) :
    r.visitor.field field inside (context, inBody) = revised := same

private theorem visited_initializer {initializer : Initializer} {inside : ReaderT (γ × Bool) m Initializer}
    {revised : m Initializer}
    (same : (inside (r.withinInitializer context, inBody) >>= fun initializer =>
      pure { initializer with origin := r.origin context initializer.origin }) = revised) :
    r.visitor.initializer initializer inside (context, inBody) = revised := same

private theorem visited_constructor {constructor : Constructor} {inside : ReaderT (γ × Bool) m Constructor}
    {revised : m Constructor}
    (same : (inside (r.withinConstructor context, inBody) >>= fun constructor =>
      pure { constructor with origin := r.origin context constructor.origin }) = revised) :
    r.visitor.constructor constructor inside (context, inBody) = revised := same

private theorem visited_method {method : Method} {inside : ReaderT (γ × Bool) m Method} {revised : m Method}
    (same : (inside (r.withinMethod context method.returnType, inBody) >>= fun method =>
      pure { method with origin := r.origin context method.origin }) = revised) :
    r.visitor.method method inside (context, inBody) = revised := same

private theorem visited_cons {first : ReaderT (γ × Bool) m α} {others : ReaderT (γ × Bool) m (List α)}
    {here : m α} {there : m (List α)} (same : first (context, inBody) = here)
    (same' : others (context, inBody) = there) :
    (do return (← first) :: (← others) : ReaderT (γ × Bool) m (List α)) (context, inBody) =
      do return (← here) :: (← there) := by
  change first _ >>= (fun here => others _ >>= fun there => pure (here :: there)) = _
  rw [same, same']

variable [LawfulMonad m]

/-! Each step of the two recursions is the same up to the laws of the monad. -/

/-- The first of the visitor's steps is the reviser's, and so is what comes after it. -/
private theorem onward {ρ α β δ : Type} {sent : ρ} {first : ReaderT ρ m α} {next : α → ReaderT ρ m β} {last : β → m δ}
    {here : m α} {rest : α → m δ} (same : first sent = here) (later : ∀ a, next a sent >>= last = rest a) :
    ((first >>= next) sent >>= last) = here >>= rest := by
  change (first sent >>= fun a => next a sent) >>= last = _
  rw [same, bind_assoc]
  exact congrArg (here >>= ·) (funext later)

omit [LawfulMonad m] in
private theorem given {ρ α : Type} {sent : ρ} {first : ReaderT ρ m α} {here : m α} (same : first sent = here) :
    (some <$> first) sent = some <$> here := congrArg (some <$> ·) same

private theorem listed {ρ α : Type} {sent : ρ} {group : α} {others : ReaderT ρ m (List α)} {there : m (List α)}
    (same : others sent = there) :
    (pure group >>= fun group => (others >>= fun others => pure (group :: others)) sent) =
      there >>= fun there => pure (group :: there) := by
  rw [pure_bind]
  exact congrArg (· >>= fun there => pure (group :: there)) same

end

variable (r : Reviser γ m)

mutual

theorem visitor_onExpression [LawfulMonad m] : (e : Expression) → (context : γ) → (inBody : Bool) →
    r.visitor.onExpression e (context, inBody) = r.onExpression context e
  | .field receiver _, _, _ => visited_expression <|
    onward (visitor_onExpression receiver _ _) fun _ => pure_bind _ _
  | .element array index, _, _ => visited_expression <|
    onward (visitor_onExpression array _ _) fun _ => onward (visitor_onExpression index _ _) fun _ => pure_bind _ _
  | .call none _ _ arguments, _, _ => visited_expression <|
    onward rfl fun _ => onward (visitor_onExpressions arguments _ _) fun _ => pure_bind _ _
  | .call (some receiver) _ _ arguments, _, _ => visited_expression <|
    onward (given (visitor_onExpression receiver _ _)) fun _ =>
      onward (visitor_onExpressions arguments _ _) fun _ => pure_bind _ _
  | .create _ arguments none, _, _ => visited_expression <|
    onward (visitor_onExpressions arguments _ _) fun _ => onward rfl fun _ => pure_bind _ _
  | .create type arguments (some body), context, _ => visited_expression <|
    onward (visitor_onExpressions arguments _ _) fun arguments => by
      change _ = if r.entersTypes then
          some <$> r.onType context body >>= fun body => r.expression context (.create type arguments body)
        else pure (some body) >>= fun body => r.expression context (.create type arguments body)
      have inside := visitor_onType body context true
      cases enters : r.entersTypes with
      | true =>
        rw [enters] at inside
        exact onward (given inside) fun _ => pure_bind _ _
      | false =>
        rw [enters] at inside
        exact onward ((given inside).trans (map_pure _ _)) fun _ => pure_bind _ _
  | .createArray _ sizes _ none, _, _ => visited_expression <|
    onward (visitor_onExpressions sizes _ _) fun _ => onward rfl fun _ => pure_bind _ _
  | .createArray _ sizes _ (some elements), _, _ => visited_expression <|
    onward (visitor_onExpressions sizes _ _) fun _ =>
      onward (given (visitor_onExpressions elements _ _)) fun _ => pure_bind _ _
  | .arrayElements elements, _, _ => visited_expression <|
    onward (visitor_onExpressions elements _ _) fun _ => pure_bind _ _
  | .binary _ left right, _, _ => visited_expression <|
    onward (visitor_onExpression left _ _) fun _ => onward (visitor_onExpression right _ _) fun _ => pure_bind _ _
  | .unary _ operand, _, _ => visited_expression <|
    onward (visitor_onExpression operand _ _) fun _ => pure_bind _ _
  | .assign _ target value, _, _ => visited_expression <|
    onward (visitor_onExpression target _ _) fun _ => onward (visitor_onExpression value _ _) fun _ => pure_bind _ _
  | .instanceOf operand _, _, _ => visited_expression <|
    onward (visitor_onExpression operand _ _) fun _ => pure_bind _ _
  | .cast _ operand, _, _ => visited_expression <|
    onward (visitor_onExpression operand _ _) fun _ => pure_bind _ _
  | .conditional condition whenTrue whenFalse, _, _ => visited_expression <|
    onward (visitor_onExpression condition _ _) fun _ => onward (visitor_onExpression whenTrue _ _) fun _ =>
      onward (visitor_onExpression whenFalse _ _) fun _ => pure_bind _ _
  | .note _, _, _ | .classLiteral _, _, _ | .name _, _, _ | .this _, _, _ | .literal _, _, _ | .verbatim _, _, _ =>
    visited_expression (pure_bind ..)

theorem visitor_onExpressions [LawfulMonad m] : (es : List Expression) → (context : γ) → (inBody : Bool) →
    r.visitor.onExpressions es (context, inBody) = r.onExpressions context es
  | [], _, _ => rfl
  | e :: rest, _, _ => visited_cons (visitor_onExpression e _ _) (visitor_onExpressions rest _ _)

theorem visitor_onStatement [LawfulMonad m] : (s : Statement) → (context : γ) → (inBody : Bool) →
    r.visitor.onStatement s (context, inBody) = r.onStatement context s
  | .block body, _, _ => visited_statement <| onward (visitor_onStatements body _ _) fun _ => pure_bind _ _
  | .expression e, _, _ => visited_statement <| onward (visitor_onExpression e _ _) fun _ => pure_bind _ _
  | .throws e, _, _ => visited_statement <| onward (visitor_onExpression e _ _) fun _ => pure_bind _ _
  | .declare decl, _, _ => visited_statement <| onward (visitor_onLocal decl _ _) fun _ => pure_bind _ _
  | .ifElse condition whenTrue none, _, _ => visited_statement <|
    onward (visitor_onExpression condition _ _) fun _ => onward (visitor_onStatement whenTrue _ _) fun _ =>
      onward rfl fun _ => pure_bind _ _
  | .ifElse condition whenTrue (some whenFalse), _, _ => visited_statement <|
    onward (visitor_onExpression condition _ _) fun _ => onward (visitor_onStatement whenTrue _ _) fun _ =>
      onward (given (visitor_onStatement whenFalse _ _)) fun _ => pure_bind _ _
  | .whileLoop condition body, _, _ => visited_statement <|
    onward (visitor_onExpression condition _ _) fun _ => onward (visitor_onStatement body _ _) fun _ => pure_bind _ _
  | .doWhile body condition, _, _ => visited_statement <|
    onward (visitor_onStatement body _ _) fun _ => onward (visitor_onExpression condition _ _) fun _ => pure_bind _ _
  | .forLoop start none update body, _, _ => visited_statement <|
    onward (visitor_onStatements start _ _) fun _ => onward rfl fun _ =>
      onward (visitor_onExpressions update _ _) fun _ => onward (visitor_onStatement body _ _) fun _ => pure_bind _ _
  | .forLoop start (some condition) update body, _, _ => visited_statement <|
    onward (visitor_onStatements start _ _) fun _ => onward (given (visitor_onExpression condition _ _)) fun _ =>
      onward (visitor_onExpressions update _ _) fun _ => onward (visitor_onStatement body _ _) fun _ => pure_bind _ _
  | .forEach item iterable body, _, _ => visited_statement <|
    onward (visitor_onLocal item _ _) fun _ => onward (visitor_onExpression iterable _ _) fun _ =>
      onward (visitor_onStatement body _ _) fun _ => pure_bind _ _
  | .switch selector cases, _, _ => visited_statement <|
    onward (visitor_onExpression selector _ _) fun _ => onward (visitor_onCases cases _ _) fun _ => pure_bind _ _
  | .tryCatch body catches none, _, _ => visited_statement <|
    onward (visitor_onStatements body _ _) fun _ => onward (visitor_onCatches catches _ _) fun _ =>
      onward rfl fun _ => pure_bind _ _
  | .tryCatch body catches (some finalizer), _, _ => visited_statement <|
    onward (visitor_onStatements body _ _) fun _ => onward (visitor_onCatches catches _ _) fun _ =>
      onward (given (visitor_onStatements finalizer _ _)) fun _ => pure_bind _ _
  | .synchronized lock body, _, _ => visited_statement <|
    onward (visitor_onExpression lock _ _) fun _ => onward (visitor_onStatements body _ _) fun _ => pure_bind _ _
  | .returns none, _, _ => visited_statement <| onward rfl fun _ => pure_bind _ _
  | .returns (some value), _, _ => visited_statement <|
    onward (given (visitor_onExpression value _ _)) fun _ => pure_bind _ _
  | .labeled _ body, _, _ => visited_statement <| onward (visitor_onStatement body _ _) fun _ => pure_bind _ _
  | .localType t, context, _ => visited_statement <| by
    change _ = if r.entersTypes then r.onType context t >>= fun t => r.statement context (.localType t)
      else r.statement context (.localType t)
    have inside := visitor_onType t context true
    cases enters : r.entersTypes with
    | true =>
      rw [enters] at inside
      exact onward inside fun _ => pure_bind _ _
    | false =>
      rw [enters] at inside
      have sent : (r.visitor.onType t >>= fun t => pure (.localType t)) (context, true) >>= r.statement context =
          pure t >>= fun t => r.statement context (.localType t) := onward inside fun _ => pure_bind _ _
      exact sent.trans (pure_bind _ _)
  | .returnsDefault, _, _ | .breaks _, _, _ | .continues _, _, _ | .empty, _, _ | .verbatim _, _, _ =>
    visited_statement (pure_bind ..)

theorem visitor_onStatements [LawfulMonad m] : (body : List Statement) → (context : γ) → (inBody : Bool) →
    r.visitor.onStatements body (context, inBody) = r.onStatements context body
  | [], _, _ => rfl
  | s :: rest, _, _ => visited_cons (visitor_onStatement s _ _) (visitor_onStatements rest _ _)

theorem visitor_onLocal [LawfulMonad m] : (decl : LocalVariable) → (context : γ) → (inBody : Bool) →
    r.visitor.onLocal decl (context, inBody) = r.onLocal context decl
  | ⟨_, _, _, _, none⟩, _, _ => rfl
  | ⟨_, _, _, _, some initial⟩, _, _ =>
    congrArg (· >>= _) (given (visitor_onExpression initial _ _))

theorem visitor_onCases [LawfulMonad m] : (cases : List SwitchCase) → (context : γ) → (inBody : Bool) →
    r.visitor.onCases cases (context, inBody) = r.onCases context cases
  | [], _, _ => rfl
  | ⟨none, body⟩ :: rest, _, _ =>
    onward rfl fun _ => onward (visitor_onStatements body _ _) fun _ => listed (visitor_onCases rest _ _)
  | ⟨some label, body⟩ :: rest, _, _ =>
    onward (given (visitor_onExpression label _ _)) fun _ => onward (visitor_onStatements body _ _) fun _ =>
      listed (visitor_onCases rest _ _)

theorem visitor_onCatches [LawfulMonad m] : (catches : List CatchClause) → (context : γ) → (inBody : Bool) →
    r.visitor.onCatches catches (context, inBody) = r.onCatches context catches
  | [], _, _ => rfl
  | ⟨_, body⟩ :: rest, _, _ =>
    onward (visitor_onStatements body _ _) fun _ => listed (visitor_onCatches rest _ _)

theorem visitor_onType [LawfulMonad m] : (t : TypeDecl) → (context : γ) → (inBody : Bool) →
    r.visitor.onType t (context, inBody) = if !inBody || r.entersTypes then r.onType context t else pure t
  | ⟨origin, modifiers, annotations, kind, name, typeParameters, superclass, interfaces, constants, fields,
      initializers, constructors, methods, memberTypes, isLocal, isAnonymous⟩, context, inBody => visited_type <| by
    change _ = r.onConstants context constants >>= _
    rw [← visitor_onConstants constants context, bind_assoc]
    refine onward rfl fun _ => ?_
    rw [pure_bind]
    exact onward (visitor_onFields fields _ _) fun _ => onward (visitor_onInitializers initializers _ _) fun _ =>
      onward (visitor_onConstructors constructors _ _) fun _ => onward (visitor_onMethods methods _ _) fun _ =>
      onward (visitor_onTypes memberTypes _) fun _ => pure_bind _ _

theorem visitor_onTypes [LawfulMonad m] : (types : List TypeDecl) → (context : γ) →
    r.visitor.onTypes types (context, false) = r.onTypes context types
  | [], _ => rfl
  | t :: rest, _ => visited_cons (visitor_onType t _ _) (visitor_onTypes rest _)

/-- The origins of constants are revised with the type that has them. -/
theorem visitor_onConstants [LawfulMonad m] : (constants : List EnumConstant) → (context : γ) →
    (do return (← r.visitor.onConstants constants (context, false)).map fun constant =>
        { constant with origin := r.origin context constant.origin }) = r.onConstants context constants
  | [], _ => pure_bind _ _
  | ⟨origin, name, arguments⟩ :: rest, context => by
    let first : ReaderT (γ × Bool) m EnumConstant := do return ⟨origin, name, ← r.visitor.onExpressions arguments⟩
    change (first (context, false) >>= fun constant =>
      (r.visitor.onConstants rest >>= fun rest => pure (constant :: rest)) (context, false)) >>= _ = _
    rw [bind_assoc]
    refine onward (visitor_onExpressions arguments _ _) fun arguments => ?_
    change pure _ >>= _ = _
    rw [pure_bind, ← visitor_onConstants rest context, bind_assoc]
    refine onward rfl fun _ => ?_
    rw [pure_bind]
    exact pure_bind _ _

theorem visitor_onFields [LawfulMonad m] : (fields : List Field) → (context : γ) → (inBody : Bool) →
    r.visitor.onFields fields (context, inBody) = r.onFields context fields
  | [], _, _ => rfl
  | ⟨_, _, _, _, _, none⟩ :: rest, _, _ =>
    visited_cons (visited_field (onward rfl fun _ => pure_bind _ _)) (visitor_onFields rest _ _)
  | ⟨_, _, _, _, _, some initial⟩ :: rest, _, _ =>
    visited_cons (visited_field (onward (given (visitor_onExpression initial _ _)) fun _ => pure_bind _ _))
      (visitor_onFields rest _ _)

theorem visitor_onInitializers [LawfulMonad m] : (initializers : List Initializer) → (context : γ) → (inBody : Bool) →
    r.visitor.onInitializers initializers (context, inBody) = r.onInitializers context initializers
  | [], _, _ => rfl
  | ⟨_, _, body⟩ :: rest, _, _ =>
    visited_cons (visited_initializer (onward (visitor_onStatements body _ _) fun _ => pure_bind _ _))
      (visitor_onInitializers rest _ _)

theorem visitor_onConstructors [LawfulMonad m] : (constructors : List Constructor) → (context : γ) → (inBody : Bool) →
    r.visitor.onConstructors constructors (context, inBody) = r.onConstructors context constructors
  | [], _, _ => rfl
  | ⟨_, _, _, _, _, _, _, body, _⟩ :: rest, _, _ =>
    visited_cons (visited_constructor (onward (visitor_onStatements body _ _) fun _ => pure_bind _ _))
      (visitor_onConstructors rest _ _)

theorem visitor_onMethods [LawfulMonad m] : (methods : List Method) → (context : γ) → (inBody : Bool) →
    r.visitor.onMethods methods (context, inBody) = r.onMethods context methods
  | [], _, _ => rfl
  | ⟨_, _, _, _, _, _, _, _, body, _, _⟩ :: rest, _, _ =>
    visited_cons (visited_method (onward (visitor_onStatements body _ _) fun _ => pure_bind _ _))
      (visitor_onMethods rest _ _)

end

end Reviser

end JavaWeave.Syntax
