import JavaWeave.Syntax.Build
import JavaWeave.Syntax.Revision

/-! Code without classes inside of it, as it is written into new members. A reviser that leaves each statement and
expression of such code leaves the code, and of a declaration it changes nothing but origins. -/

namespace JavaWeave.Syntax

/-- Expressions that read, assign, call and make objects, and have no class inside. -/
inductive Straight : Expression → Prop where
  | name (text : String) : Straight (.name text)
  | this (qualifier : Option String) : Straight (.this qualifier)
  | literal (value : Literal) : Straight (.literal value)
  | field {receiver : Expression} {name : String} (inner : Straight receiver) : Straight (.field receiver name)
  | callOn {receiver : Expression} {name : String} {arguments : List Expression} (inner : Straight receiver)
      (each : ∀ e ∈ arguments, Straight e) : Straight (.callOn receiver name arguments)
  | make {type : JavaType} {arguments : List Expression} (each : ∀ e ∈ arguments, Straight e) :
      Straight (.make type arguments)
  | set {target value : Expression} (place : Straight target) (inner : Straight value) : Straight (.set target value)

/-- Statements that evaluate or return such an expression. -/
inductive StraightStep : Statement → Prop where
  | expression {e : Expression} (inner : Straight e) : StraightStep (.expression e)
  | returns {e : Expression} (inner : Straight e) : StraightStep (.returns (some e))

namespace Reviser

variable {γ : Type} {m : Type → Type} [Monad m]

/-- Each single expression and statement of code without classes is left as it is. -/
structure Leaves (r : Reviser γ m) : Prop where
  expression : ∀ context {e : Expression}, Straight e → r.expression context e = pure e
  statement : ∀ context {s : Statement}, StraightStep s → r.statement context s = pure s

variable [LawfulMonad m]

section

variable {α β : Type} {steps : m α} {x : α}

/-- What comes behind steps that only give a result. -/
theorem pure_then {next : α → m β} {rest : m β} (first : steps = pure x) (onward : next x = rest) :
    steps >>= next = rest := by
  rw [first, pure_bind, onward]

theorem pure_given (first : steps = pure x) : some <$> steps = pure (some x) := by
  rw [first, map_pure]

end

variable {r : Reviser γ m} (leaves : r.Leaves)
include leaves

omit leaves in
theorem onExpressions_of_each {context : γ} {expressions : List Expression}
    (each : ∀ e ∈ expressions, r.onExpression context e = pure e) :
    r.onExpressions context expressions = pure expressions := by
  induction expressions with
  | nil => rfl
  | cons e rest inductionHypothesis =>
    obtain ⟨first, others⟩ := List.forall_mem_cons.mp each
    exact pure_then first (pure_then (inductionHypothesis others) rfl)

theorem onExpression_straight (context : γ) {e : Expression} (straight : Straight e) :
    r.onExpression context e = pure e := by
  have whole := leaves.expression context straight
  induction straight with
  | name | this | literal => exact whole
  | field inner inductionHypothesis => exact pure_then (inductionHypothesis (leaves.expression context inner)) whole
  | callOn inner each first others =>
    have arguments := onExpressions_of_each (r := r) fun e member =>
      others e member (leaves.expression context (each e member))
    exact pure_then (pure_given (first (leaves.expression context inner))) (pure_then arguments whole)
  | make each others =>
    have arguments := onExpressions_of_each (r := r) fun e member =>
      others e member (leaves.expression context (each e member))
    exact pure_then arguments (pure_then rfl whole)
  | set place inner first second =>
    exact pure_then (first (leaves.expression context place))
      (pure_then (second (leaves.expression context inner)) whole)

theorem onStatement_straight (context : γ) {s : Statement} (straight : StraightStep s) :
    r.onStatement context s = pure s := by
  have whole := leaves.statement context straight
  cases straight with
  | expression inner => exact pure_then (onExpression_straight leaves context inner) whole
  | returns inner => exact pure_then (pure_given (onExpression_straight leaves context inner)) whole

theorem onStatements_straight (context : γ) {body : List Statement} (straight : ∀ s ∈ body, StraightStep s) :
    r.onStatements context body = pure body := by
  induction body with
  | nil => rfl
  | cons s rest inductionHypothesis =>
    obtain ⟨first, others⟩ := List.forall_mem_cons.mp straight
    exact pure_then (onStatement_straight leaves context first) (pure_then (inductionHypothesis others) rfl)

end Reviser

namespace Reviser

variable {γ : Type} {m : Type → Type} [Monad m] {r : Reviser γ m}

/-- Each expression is left as it is, and the types in it are not entered. -/
structure LeavesExpressions (r : Reviser γ m) : Prop where
  expression : ∀ context e, r.expression context e = pure e
  closed : r.entersTypes = false

variable [LawfulMonad m]

mutual

theorem onExpression_left (leaves : r.LeavesExpressions) (context : γ) : (e : Expression) →
    r.onExpression context e = pure e
  | .field receiver _ => pure_then (onExpression_left leaves context receiver) (leaves.expression context _)
  | .element array index =>
    pure_then (onExpression_left leaves context array)
      (pure_then (onExpression_left leaves context index) (leaves.expression context _))
  | .call none _ _ arguments =>
    pure_then rfl (pure_then (onExpressions_left leaves context arguments) (leaves.expression context _))
  | .call (some receiver) _ _ arguments =>
    pure_then (pure_given (onExpression_left leaves context receiver))
      (pure_then (onExpressions_left leaves context arguments) (leaves.expression context _))
  | .create _ arguments none =>
    pure_then (onExpressions_left leaves context arguments) (pure_then rfl (leaves.expression context _))
  | .create _ arguments (some body) => by
    refine pure_then (onExpressions_left leaves context arguments) ?_
    dsimp only
    rw [if_neg (by simp [leaves.closed])]
    exact pure_then rfl (leaves.expression context _)
  | .createArray _ sizes _ none =>
    pure_then (onExpressions_left leaves context sizes) (pure_then rfl (leaves.expression context _))
  | .createArray _ sizes _ (some elements) =>
    pure_then (onExpressions_left leaves context sizes)
      (pure_then (pure_given (onExpressions_left leaves context elements)) (leaves.expression context _))
  | .arrayElements elements => pure_then (onExpressions_left leaves context elements) (leaves.expression context _)
  | .binary _ left right =>
    pure_then (onExpression_left leaves context left)
      (pure_then (onExpression_left leaves context right) (leaves.expression context _))
  | .unary _ operand => pure_then (onExpression_left leaves context operand) (leaves.expression context _)
  | .assign _ target value =>
    pure_then (onExpression_left leaves context target)
      (pure_then (onExpression_left leaves context value) (leaves.expression context _))
  | .instanceOf operand _ => pure_then (onExpression_left leaves context operand) (leaves.expression context _)
  | .cast _ operand => pure_then (onExpression_left leaves context operand) (leaves.expression context _)
  | .conditional condition whenTrue whenFalse =>
    pure_then (onExpression_left leaves context condition)
      (pure_then (onExpression_left leaves context whenTrue)
        (pure_then (onExpression_left leaves context whenFalse) (leaves.expression context _)))
  | .name _ | .this _ | .literal _ | .classLiteral _ | .note _ | .verbatim _ => leaves.expression context _

theorem onExpressions_left (leaves : r.LeavesExpressions) (context : γ) : (es : List Expression) →
    r.onExpressions context es = pure es
  | [] => rfl
  | e :: rest =>
    pure_then (onExpression_left leaves context e) (pure_then (onExpressions_left leaves context rest) rfl)

end

theorem onLocal_left (leaves : r.LeavesExpressions) (context : γ) : (decl : LocalVariable) →
    r.onLocal context decl = pure decl
  | ⟨_, _, _, _, none⟩ => pure_then rfl rfl
  | ⟨_, _, _, _, some initial⟩ => pure_then (pure_given (onExpression_left leaves context initial)) rfl

end Reviser

def Field.restamp (stamp : Origin → Origin) (field : Field) : Field := { field with origin := stamp field.origin }

def Method.restamp (stamp : Origin → Origin) (method : Method) : Method :=
  { method with origin := stamp method.origin }

def Constructor.restamp (stamp : Origin → Origin) (constructor : Constructor) : Constructor :=
  { constructor with origin := stamp constructor.origin }

/-- Changes the origins of a type and of its members, but for member types. -/
def TypeDecl.restamp (stamp : Origin → Origin) (type : TypeDecl) : TypeDecl :=
  { type with
    origin := stamp type.origin
    fields := type.fields.map (·.restamp stamp)
    constructors := type.constructors.map (·.restamp stamp)
    methods := type.methods.map (·.restamp stamp) }

theorem TypeDecl.restamp_id (type : TypeDecl) : type.restamp id = type := by
  have fields : type.fields.map (·.restamp id) = type.fields :=
    List.map_id'' (f := Field.restamp id) (fun member => by cases member; rfl) _
  have constructors : type.constructors.map (·.restamp id) = type.constructors :=
    List.map_id'' (f := Constructor.restamp id) (fun member => by cases member; rfl) _
  have methods : type.methods.map (·.restamp id) = type.methods :=
    List.map_id'' (f := Method.restamp id) (fun member => by cases member; rfl) _
  rw [restamp, fields, constructors, methods]
  cases type
  rfl

/-- A class all of whose code is without classes. -/
structure StraightType (type : TypeDecl) : Prop where
  constants : type.constants = []
  initializers : type.initializers = []
  fields : ∀ field ∈ type.fields, ∀ e, field.initial = some e → Straight e
  constructors : ∀ constructor ∈ type.constructors, ∀ s ∈ constructor.body, StraightStep s
  methods : ∀ method ∈ type.methods, ∀ s ∈ method.body, StraightStep s

namespace Reviser

variable {γ : Type} {m : Type → Type} [Monad m] [LawfulMonad m] {r : Reviser γ m} (leaves : r.Leaves)
include leaves

theorem onField_straight (context : γ) {field : Field} (straight : ∀ e, field.initial = some e → Straight e) :
    r.onField context field = pure (field.restamp (r.origin context)) := by
  obtain ⟨origin, modifiers, annotations, type, name, initial⟩ := field
  cases initial with
  | none => exact pure_then rfl rfl
  | some e => exact pure_then (pure_given (onExpression_straight leaves context (straight e rfl))) rfl

theorem onFields_straight (context : γ) {fields : List Field}
    (straight : ∀ field ∈ fields, ∀ e, field.initial = some e → Straight e) :
    r.onFields context fields = pure (fields.map (·.restamp (r.origin context))) := by
  induction fields with
  | nil => rfl
  | cons field rest inductionHypothesis =>
    obtain ⟨first, others⟩ := List.forall_mem_cons.mp straight
    exact pure_then (onField_straight leaves context first) (pure_then (inductionHypothesis others) rfl)

theorem onMethod_straight (context : γ) {method : Method} (straight : ∀ s ∈ method.body, StraightStep s) :
    r.onMethod context method = pure (method.restamp (r.origin context)) := by
  obtain ⟨origin, modifiers, annotations, typeParameters, returnType, name, parameters, thrown, body, bodiless,
    implementing⟩ := method
  exact pure_then (onStatements_straight leaves _ straight) rfl

theorem onMethods_straight (context : γ) {methods : List Method}
    (straight : ∀ method ∈ methods, ∀ s ∈ method.body, StraightStep s) :
    r.onMethods context methods = pure (methods.map (·.restamp (r.origin context))) := by
  induction methods with
  | nil => rfl
  | cons method rest inductionHypothesis =>
    obtain ⟨first, others⟩ := List.forall_mem_cons.mp straight
    exact pure_then (onMethod_straight leaves context first) (pure_then (inductionHypothesis others) rfl)

theorem onConstructor_straight (context : γ) {constructor : Constructor}
    (straight : ∀ s ∈ constructor.body, StraightStep s) :
    r.onConstructor context constructor = pure (constructor.restamp (r.origin context)) := by
  obtain ⟨origin, modifiers, annotations, typeParameters, name, parameters, thrown, body, implicitSuper⟩ := constructor
  exact pure_then (onStatements_straight leaves _ straight) rfl

theorem onConstructors_straight (context : γ) {constructors : List Constructor}
    (straight : ∀ constructor ∈ constructors, ∀ s ∈ constructor.body, StraightStep s) :
    r.onConstructors context constructors = pure (constructors.map (·.restamp (r.origin context))) := by
  induction constructors with
  | nil => rfl
  | cons constructor rest inductionHypothesis =>
    obtain ⟨first, others⟩ := List.forall_mem_cons.mp straight
    exact pure_then (onConstructor_straight leaves context first) (pure_then (inductionHypothesis others) rfl)

/-- Of a class the origins change, and member types are revised by themselves. -/
theorem onType_straight (context : γ) {type : TypeDecl} (straight : StraightType type) :
    r.onType context type = (do
      let memberTypes ← r.onTypes context type.memberTypes
      return { type.restamp (r.origin context) with memberTypes }) := by
  obtain ⟨origin, modifiers, annotations, kind, name, typeParameters, superclass, interfaces, constants, fields,
    initializers, constructors, methods, memberTypes, isLocal, isAnonymous⟩ := type
  obtain rfl : constants = [] := straight.constants
  obtain rfl : initializers = [] := straight.initializers
  exact pure_then rfl (pure_then (onFields_straight leaves context straight.fields)
    (pure_then rfl (pure_then (onConstructors_straight leaves context straight.constructors)
      (pure_then (onMethods_straight leaves context straight.methods) rfl))))

omit leaves in
theorem onTypes_of_each {context : γ} {types : List TypeDecl} {change : TypeDecl → TypeDecl}
    (each : ∀ type ∈ types, r.onType context type = pure (change type)) :
    r.onTypes context types = pure (types.map change) := by
  induction types with
  | nil => rfl
  | cons type rest inductionHypothesis =>
    obtain ⟨first, others⟩ := List.forall_mem_cons.mp each
    exact pure_then first (pure_then (inductionHypothesis others) rfl)

/-- Types without member types of their own. -/
theorem onTypes_straight (context : γ) {types : List TypeDecl}
    (straight : ∀ type ∈ types, StraightType type ∧ type.memberTypes = []) :
    r.onTypes context types = pure (types.map (·.restamp (r.origin context))) := by
  refine onTypes_of_each fun type member => ?_
  obtain ⟨own, none⟩ := straight type member
  rw [onType_straight leaves context own, none]
  refine pure_then rfl ?_
  simp [TypeDecl.restamp, none]

end Reviser

end JavaWeave.Syntax
