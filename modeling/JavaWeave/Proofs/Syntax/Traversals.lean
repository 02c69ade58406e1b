import JavaWeave.Proofs.Syntax.Visitor
import JavaWeave.Syntax.Events
import JavaWeave.Syntax.Node
import Mathlib.Data.List.Basic

/-! The traversals of a source tree agree. The walk along the parts meets the types, methods, constructors,
statements and expressions that a reader meets, in the reader's order. A visitor meets those of them that do not
lie inside an annotation. -/

namespace JavaWeave.Syntax

namespace Node

/-- Whether the part is one that a reader handles on its own. -/
def isHandled (node : Node) : Bool :=
  match node.kind with
  | .type | .method | .constructor | .statement | .expression => true
  | _ => false

/-- The parts that a walk meets which goes into some parts only. -/
def met (entered : Node → Bool) (ancestors : List Node) (node : Node) : List Node :=
  ((node.walkUnder ancestors).filter fun visit => visit.ancestors.all entered).map (·.node)

/-- The handled ones of these. -/
def handled (entered : Node → Bool) (node : Node) : List Node := (node.met entered []).filter isHandled

variable {entered : Node → Bool}

theorem walkUnder_eq (ancestors : List Node) (node : Node) :
    node.walkUnder ancestors = ⟨node, ancestors⟩ :: node.children.flatMap (walkUnder (node :: ancestors)) := by
  rw [walkUnder]
  congr 1
  calc node.children.attach.flatMap (fun child => child.val.walkUnder (node :: ancestors))
      = (node.children.attach.map Subtype.val).flatMap (walkUnder (node :: ancestors)) := by rw [List.flatMap_map]
    _ = node.children.flatMap (walkUnder (node :: ancestors)) := by rw [List.attach_map_subtype_val]

theorem ancestors_walkUnder (ancestors : List Node) (node : Node) :
    ∀ visit ∈ node.walkUnder ancestors, ancestors ⊆ visit.ancestors := by
  intro visit listed
  rw [walkUnder_eq, List.mem_cons, List.mem_flatMap] at listed
  obtain rfl | ⟨child, inside, below⟩ := listed
  · exact List.Subset.refl _
  · exact fun above member =>
      ancestors_walkUnder (node :: ancestors) child visit below (List.mem_cons_of_mem _ member)
termination_by node.size
decreasing_by exact size_lt_of_mem_children inside

private theorem met_eq_nil {ancestors : List Node} {above : Node} (member : above ∈ ancestors)
    (closed : entered above = false) (node : Node) : node.met entered ancestors = [] := by
  rw [met, List.map_eq_nil_iff, List.filter_eq_nil_iff]
  intro visit listed all
  have opened := List.all_eq_true.mp all above (ancestors_walkUnder ancestors node visit listed member)
  rw [closed] at opened
  cases opened

private theorem met_eq {ancestors : List Node} (all : ancestors.all entered = true) (node : Node) :
    node.met entered ancestors =
      node :: if entered node then node.children.flatMap (met entered (node :: ancestors)) else [] := by
  rw [met, walkUnder_eq, List.filter_cons_of_pos (by exact all), List.filter_flatMap, List.map_cons, List.map_flatMap]
  congr 1
  split
  next => rfl
  next closed =>
    refine List.flatMap_eq_nil_iff.mpr fun child _ => ?_
    exact met_eq_nil List.mem_cons_self (Bool.eq_false_iff.mpr closed) child

/-- What is met does not depend on the parts around, if all of them are gone into. -/
private theorem met_of_all (node : Node) {ancestors : List Node} (all : ancestors.all entered = true) :
    node.met entered ancestors = node.met entered [] := by
  rw [met_eq all, met_eq rfl]
  congr 1
  split
  next opened =>
    refine List.flatMap_congr fun child inside => ?_
    have alone : child.met entered [node] = child.met entered [] := met_of_all child (by simp [opened])
    rw [met_of_all child (by simp [opened, all]), alone]
  next => rfl
termination_by node.size
decreasing_by all_goals exact size_lt_of_mem_children inside

theorem met_root_eq (node : Node) :
    node.met entered [] = node :: if entered node then node.children.flatMap (met entered []) else [] := by
  rw [met_eq rfl]
  congr 1
  split
  next opened => exact List.flatMap_congr fun child _ => met_of_all child (by simp [opened])
  next => rfl

theorem handled_eq (node : Node) :
    node.handled entered = (if node.isHandled then [node] else []) ++
      if entered node then node.children.flatMap (handled entered) else [] := by
  have below : node.children.flatMap (handled entered) =
      (node.children.flatMap (met entered [])).filter isHandled := List.filter_flatMap.symm
  rw [handled, met_root_eq, List.filter_cons, below]
  split <;> split <;> rfl

end Node

namespace Event

/-- The part that a reader meets. Types that are only named are no parts. -/
def node? : Event → Option Node
  | .type t => some (.type t)
  | .method m => some (.method m)
  | .constructor c => some (.constructor c)
  | .statement s => some (.statement s)
  | .expression e => some (.expression e)
  | .named _ => none

/-- The parts that a reader meets among what it reads. -/
def nodes (events : List Event) : List Node := events.filterMap node?

@[simp] private theorem nodes_append (first second : List Event) :
    nodes (first ++ second) = nodes first ++ nodes second := List.filterMap_append

@[simp] private theorem nodes_named (types : List JavaType) : nodes (types.map .named) = [] := by
  rw [nodes, List.filterMap_map]
  exact List.filterMap_eq_nil_iff.mpr fun _ _ => rfl

@[simp] private theorem nodes_ofTypeParameters (parameters : List TypeParameter) :
    nodes (ofTypeParameters parameters) = [] := by
  rw [ofTypeParameters, nodes, List.filterMap_flatMap]
  exact List.flatMap_eq_nil_iff.mpr fun parameter _ => nodes_named parameter.bounds

@[simp] private theorem nodes_cons_named (type : JavaType) (rest : List Event) :
    nodes (.named type :: rest) = nodes rest := rfl

@[simp] private theorem nodes_nil : nodes [] = [] := rfl

@[simp] private theorem nodes_cons_expression (e : Expression) (rest : List Event) :
    nodes (.expression e :: rest) = .expression e :: nodes rest := rfl

@[simp] private theorem nodes_cons_statement (s : Statement) (rest : List Event) :
    nodes (.statement s :: rest) = .statement s :: nodes rest := rfl

/-- All handled parts of a part. -/
private abbrev within : Node → List Node := Node.handled fun _ => true

private theorem within_expression (e : Expression) :
    within (.expression e) = .expression e :: (Node.ofExpression e).flatMap within := Node.handled_eq _

private theorem within_statement (s : Statement) :
    within (.statement s) = .statement s :: (Node.ofStatement s).flatMap within := Node.handled_eq _

private theorem within_type (t : TypeDecl) :
    within (.type t) = .type t :: (Node.type t).children.flatMap within := Node.handled_eq _

private theorem within_method (m : Method) :
    within (.method m) = .method m :: (Node.method m).children.flatMap within := Node.handled_eq _

private theorem within_constructor (c : Constructor) :
    within (.constructor c) = .constructor c :: (Node.constructor c).children.flatMap within := Node.handled_eq _

/-- Of a part that is not met itself, its parts are met. -/
private theorem within_other {node : Node} (other : node.isHandled = false) :
    within node = node.children.flatMap within := by
  rw [within, Node.handled_eq, if_neg (by simp [other])]
  rfl

private theorem within_block (body : List Statement) :
    within (.block body) = body.flatMap fun s => within (.statement s) := by
  rw [within_other rfl]
  exact List.flatMap_map ..

private theorem within_parameter (parameter : Parameter) :
    within (.parameter parameter) = parameter.annotations.flatMap fun a => within (.note a) := by
  rw [within_other rfl]
  exact List.flatMap_map ..

attribute [local simp] Node.ofExpression Node.ofStatement Node.children List.flatMap_map

@[simp] private theorem nodes_cons_type (t : TypeDecl) (rest : List Event) :
    nodes (.type t :: rest) = .type t :: nodes rest := rfl

@[simp] private theorem nodes_cons_method (m : Method) (rest : List Event) :
    nodes (.method m :: rest) = .method m :: nodes rest := rfl

@[simp] private theorem nodes_cons_constructor (c : Constructor) (rest : List Event) :
    nodes (.constructor c :: rest) = .constructor c :: nodes rest := rfl

mutual

private theorem nodes_ofExpression : (e : Expression) → nodes (ofExpression e) = within (.expression e)
  | .field receiver _ => by
    rw [within_expression]
    change nodes (.expression _ :: ofExpression receiver) = _
    simp [nodes_ofExpression receiver]
  | .element array index => by
    rw [within_expression]
    change nodes (.expression _ :: (ofExpression array ++ ofExpression index)) = _
    simp [nodes_ofExpression array, nodes_ofExpression index]
  | .call none _ _ arguments => by
    rw [within_expression]
    change nodes (.expression _ :: ([] ++ List.map named _ ++ ofExpressions arguments)) = _
    simp [nodes_ofExpressions arguments]
  | .call (some receiver) _ _ arguments => by
    rw [within_expression]
    change nodes (.expression _ :: (ofExpression receiver ++ List.map named _ ++ ofExpressions arguments)) = _
    simp [nodes_ofExpression receiver, nodes_ofExpressions arguments]
  | .create _ arguments none => by
    rw [within_expression]
    change nodes (.expression _ :: (.named _ :: (ofExpressions arguments ++ []))) = _
    simp [nodes_ofExpressions arguments]
  | .create _ arguments (some body) => by
    rw [within_expression]
    change nodes (.expression _ :: (.named _ :: (ofExpressions arguments ++ ofType body))) = _
    simp [nodes_ofExpressions arguments, nodes_ofType body]
  | .createArray _ sizes _ none => by
    rw [within_expression]
    change nodes (.expression _ :: (.named _ :: (ofExpressions sizes ++ []))) = _
    simp [nodes_ofExpressions sizes]
  | .createArray _ sizes _ (some elements) => by
    rw [within_expression]
    change nodes (.expression _ :: (.named _ :: (ofExpressions sizes ++ ofExpressions elements))) = _
    simp [nodes_ofExpressions sizes, nodes_ofExpressions elements]
  | .arrayElements elements => by
    rw [within_expression]
    change nodes (.expression _ :: ofExpressions elements) = _
    simp [nodes_ofExpressions elements]
  | .binary _ left right => by
    rw [within_expression]
    change nodes (.expression _ :: (ofExpression left ++ ofExpression right)) = _
    simp [nodes_ofExpression left, nodes_ofExpression right]
  | .unary _ operand => by
    rw [within_expression]
    change nodes (.expression _ :: ofExpression operand) = _
    simp [nodes_ofExpression operand]
  | .assign _ target value => by
    rw [within_expression]
    change nodes (.expression _ :: (ofExpression target ++ ofExpression value)) = _
    simp [nodes_ofExpression target, nodes_ofExpression value]
  | .instanceOf operand _ => by
    rw [within_expression]
    change nodes (.expression _ :: (ofExpression operand ++ [.named _])) = _
    simp [nodes_ofExpression operand]
  | .cast _ operand => by
    rw [within_expression]
    change nodes (.expression _ :: (.named _ :: ofExpression operand)) = _
    simp [nodes_ofExpression operand]
  | .conditional condition whenTrue whenFalse => by
    rw [within_expression]
    change nodes (.expression _ :: (ofExpression condition ++ ofExpression whenTrue ++ ofExpression whenFalse)) = _
    simp [nodes_ofExpression condition, nodes_ofExpression whenTrue, nodes_ofExpression whenFalse]
  | .note a => by
    rw [within_expression]
    change nodes (.expression _ :: ofNote a) = _
    simp [nodes_ofNote a]
  | .classLiteral _ | .name _ | .this _ | .literal _ | .verbatim _ => (within_expression _).symm

private theorem nodes_ofExpressions : (es : List Expression) →
    nodes (ofExpressions es) = es.flatMap fun e => within (.expression e)
  | [] => rfl
  | e :: rest => by
    change nodes (ofExpression e ++ ofExpressions rest) = _
    rw [nodes_append, nodes_ofExpression e, nodes_ofExpressions rest, List.flatMap_cons]

private theorem nodes_ofNote : (a : Annotation) → nodes (ofNote a) = within (.note a)
  | ⟨_, _, members⟩ => by
    rw [within_other rfl]
    change nodes (ofMembers members) = _
    simp [nodes_ofMembers members]

private theorem nodes_ofMembers : (members : List AnnotationMember) →
    nodes (ofMembers members) = members.flatMap fun member => within (.expression member.value)
  | [] => rfl
  | ⟨_, value⟩ :: rest => by
    change nodes (ofExpression value ++ ofMembers rest) = _
    rw [nodes_append, nodes_ofExpression value, nodes_ofMembers rest, List.flatMap_cons]

private theorem nodes_ofAnnotations : (annotations : List Annotation) →
    nodes (ofAnnotations annotations) = annotations.flatMap fun a => within (.note a)
  | [] => rfl
  | a :: rest => by
    change nodes (ofNote a ++ ofAnnotations rest) = _
    rw [nodes_append, nodes_ofNote a, nodes_ofAnnotations rest, List.flatMap_cons]

private theorem nodes_ofLocal : (decl : LocalVariable) → nodes (ofLocal decl) = within (.localVariable decl)
  | ⟨_, annotations, _, _, none⟩ => by
    rw [within_other rfl]
    change nodes (ofAnnotations annotations ++ [.named _]) = _
    simp [nodes_ofAnnotations annotations]
  | ⟨_, annotations, _, _, some initial⟩ => by
    rw [within_other rfl]
    change nodes (ofAnnotations annotations ++ .named _ :: ofExpression initial) = _
    simp [nodes_ofAnnotations annotations, nodes_ofExpression initial]

private theorem nodes_ofParameters : (parameters : List Parameter) →
    nodes (ofParameters parameters) = parameters.flatMap fun parameter => within (.parameter parameter)
  | [] => rfl
  | ⟨_, annotations, _, _⟩ :: rest => by
    rw [List.flatMap_cons, within_other rfl]
    change nodes (ofAnnotations annotations ++ .named _ :: ofParameters rest) = _
    simp [nodes_ofAnnotations annotations, nodes_ofParameters rest]

private theorem nodes_ofStatement : (s : Statement) → nodes (ofStatement s) = within (.statement s)
  | .block body => by
    rw [within_statement]
    change nodes (.statement _ :: ofStatements body) = _
    simp [nodes_ofStatements body]
  | .expression e => by
    rw [within_statement]
    change nodes (.statement _ :: ofExpression e) = _
    simp [nodes_ofExpression e]
  | .throws e => by
    rw [within_statement]
    change nodes (.statement _ :: ofExpression e) = _
    simp [nodes_ofExpression e]
  | .declare decl => by
    rw [within_statement]
    change nodes (.statement _ :: ofLocal decl) = _
    simp [nodes_ofLocal decl]
  | .ifElse condition whenTrue none => by
    rw [within_statement]
    change nodes (.statement _ :: (ofExpression condition ++ ofStatement whenTrue ++ [])) = _
    simp [nodes_ofExpression condition, nodes_ofStatement whenTrue]
  | .ifElse condition whenTrue (some whenFalse) => by
    rw [within_statement]
    change nodes (.statement _ :: (ofExpression condition ++ ofStatement whenTrue ++ ofStatement whenFalse)) = _
    simp [nodes_ofExpression condition, nodes_ofStatement whenTrue, nodes_ofStatement whenFalse]
  | .whileLoop condition body => by
    rw [within_statement]
    change nodes (.statement _ :: (ofExpression condition ++ ofStatement body)) = _
    simp [nodes_ofExpression condition, nodes_ofStatement body]
  | .doWhile body condition => by
    rw [within_statement]
    change nodes (.statement _ :: (ofStatement body ++ ofExpression condition)) = _
    simp [nodes_ofExpression condition, nodes_ofStatement body]
  | .forLoop start none update body => by
    rw [within_statement]
    change nodes (.statement _ :: (ofStatements start ++ [] ++ ofExpressions update ++ ofStatement body)) = _
    simp [nodes_ofStatements start, nodes_ofExpressions update, nodes_ofStatement body]
  | .forLoop start (some condition) update body => by
    rw [within_statement]
    change nodes (.statement _ :: (ofStatements start ++ ofExpression condition ++ ofExpressions update ++
      ofStatement body)) = _
    simp [nodes_ofStatements start, nodes_ofExpression condition, nodes_ofExpressions update, nodes_ofStatement body]
  | .forEach item iterable body => by
    rw [within_statement]
    change nodes (.statement _ :: (ofLocal item ++ ofExpression iterable ++ ofStatement body)) = _
    simp [nodes_ofLocal item, nodes_ofExpression iterable, nodes_ofStatement body]
  | .switch selector cases => by
    rw [within_statement]
    change nodes (.statement _ :: (ofExpression selector ++ ofCases cases)) = _
    simp [nodes_ofExpression selector, nodes_ofCases cases]
  | .tryCatch body catches none => by
    rw [within_statement]
    change nodes (.statement _ :: (ofStatements body ++ ofCatches catches ++ [])) = _
    simp [nodes_ofStatements body, nodes_ofCatches catches, within_block]
  | .tryCatch body catches (some finalizer) => by
    rw [within_statement]
    change nodes (.statement _ :: (ofStatements body ++ ofCatches catches ++ ofStatements finalizer)) = _
    simp [nodes_ofStatements body, nodes_ofCatches catches, nodes_ofStatements finalizer, within_block]
  | .synchronized lock body => by
    rw [within_statement]
    change nodes (.statement _ :: (ofExpression lock ++ ofStatements body)) = _
    simp [nodes_ofExpression lock, nodes_ofStatements body, within_block]
  | .returns none => (within_statement _).symm
  | .returns (some value) => by
    rw [within_statement]
    change nodes (.statement _ :: ofExpression value) = _
    simp [nodes_ofExpression value]
  | .labeled _ body => by
    rw [within_statement]
    change nodes (.statement _ :: ofStatement body) = _
    simp [nodes_ofStatement body]
  | .localType t => by
    rw [within_statement]
    change nodes (.statement _ :: ofType t) = _
    simp [nodes_ofType t]
  | .returnsDefault | .breaks _ | .continues _ | .empty | .verbatim _ => (within_statement _).symm

private theorem nodes_ofStatements : (body : List Statement) →
    nodes (ofStatements body) = body.flatMap fun s => within (.statement s)
  | [] => rfl
  | s :: rest => by
    change nodes (ofStatement s ++ ofStatements rest) = _
    rw [nodes_append, nodes_ofStatement s, nodes_ofStatements rest, List.flatMap_cons]

private theorem nodes_ofCases : (cases : List SwitchCase) →
    nodes (ofCases cases) = cases.flatMap fun group => within (.switchCase group)
  | [] => rfl
  | ⟨none, body⟩ :: rest => by
    rw [List.flatMap_cons, within_other rfl]
    change nodes ([] ++ ofStatements body ++ ofCases rest) = _
    simp [nodes_ofStatements body, nodes_ofCases rest]
  | ⟨some label, body⟩ :: rest => by
    rw [List.flatMap_cons, within_other rfl]
    change nodes (ofExpression label ++ ofStatements body ++ ofCases rest) = _
    simp [nodes_ofExpression label, nodes_ofStatements body, nodes_ofCases rest]

private theorem nodes_ofCatches : (catches : List CatchClause) →
    nodes (ofCatches catches) = catches.flatMap fun clause => within (.catchClause clause)
  | [] => rfl
  | ⟨⟨_, annotations, _, _⟩, body⟩ :: rest => by
    rw [List.flatMap_cons, within_other rfl]
    change nodes (ofAnnotations annotations ++ .named _ :: (ofStatements body ++ ofCatches rest)) = _
    simp [within_parameter, nodes_ofAnnotations annotations, within_block, nodes_ofStatements body,
      nodes_ofCatches rest]

private theorem nodes_ofType : (t : TypeDecl) → nodes (ofType t) = within (.type t)
  | ⟨_, _, annotations, _, _, _, superclass, _, constants, fields, initializers, constructors, methods, memberTypes,
      _, _⟩ => by
    rw [within_type]
    change nodes (.type _ :: (ofAnnotations annotations ++ ofTypeParameters _ ++ superclass.toList.map .named
      ++ List.map .named _ ++ ofConstants constants ++ ofFields fields ++ ofInitializers initializers
      ++ ofConstructors constructors ++ ofMethods methods ++ ofTypes memberTypes)) = _
    simp [nodes_ofAnnotations annotations, nodes_ofConstants constants, nodes_ofFields fields,
      nodes_ofInitializers initializers, nodes_ofConstructors constructors, nodes_ofMethods methods,
      nodes_ofTypes memberTypes]

private theorem nodes_ofTypes : (types : List TypeDecl) →
    nodes (ofTypes types) = types.flatMap fun t => within (.type t)
  | [] => rfl
  | t :: rest => by
    change nodes (ofType t ++ ofTypes rest) = _
    rw [nodes_append, nodes_ofType t, nodes_ofTypes rest, List.flatMap_cons]

private theorem nodes_ofConstants : (constants : List EnumConstant) →
    nodes (ofConstants constants) = constants.flatMap fun constant => within (.constant constant)
  | [] => rfl
  | ⟨_, _, arguments⟩ :: rest => by
    rw [List.flatMap_cons, within_other rfl]
    change nodes (ofExpressions arguments ++ ofConstants rest) = _
    simp [nodes_ofExpressions arguments, nodes_ofConstants rest]

private theorem nodes_ofFields : (fields : List Field) →
    nodes (ofFields fields) = fields.flatMap fun field => within (.field field)
  | [] => rfl
  | ⟨_, _, annotations, _, _, none⟩ :: rest => by
    rw [List.flatMap_cons, within_other rfl]
    change nodes (ofAnnotations annotations ++ .named _ :: ([] ++ ofFields rest)) = _
    simp [nodes_ofAnnotations annotations, nodes_ofFields rest]
  | ⟨_, _, annotations, _, _, some initial⟩ :: rest => by
    rw [List.flatMap_cons, within_other rfl]
    change nodes (ofAnnotations annotations ++ .named _ :: (ofExpression initial ++ ofFields rest)) = _
    simp [nodes_ofAnnotations annotations, nodes_ofExpression initial, nodes_ofFields rest]

private theorem nodes_ofInitializers : (initializers : List Initializer) →
    nodes (ofInitializers initializers) = initializers.flatMap fun initializer => within (.initializer initializer)
  | [] => rfl
  | ⟨_, _, body⟩ :: rest => by
    rw [List.flatMap_cons, within_other rfl]
    change nodes (ofStatements body ++ ofInitializers rest) = _
    simp [nodes_ofStatements body, nodes_ofInitializers rest]

private theorem nodes_ofConstructors : (constructors : List Constructor) →
    nodes (ofConstructors constructors) = constructors.flatMap fun constructor => within (.constructor constructor)
  | [] => rfl
  | ⟨_, _, annotations, _, _, parameters, _, body, _⟩ :: rest => by
    rw [List.flatMap_cons, within_constructor]
    change nodes (.constructor _ :: (ofAnnotations annotations ++ ofTypeParameters _ ++ ofParameters parameters
      ++ List.map .named _ ++ ofStatements body ++ ofConstructors rest)) = _
    simp [nodes_ofAnnotations annotations, nodes_ofParameters parameters, nodes_ofStatements body,
      nodes_ofConstructors rest]

private theorem nodes_ofMethods : (methods : List Method) →
    nodes (ofMethods methods) = methods.flatMap fun method => within (.method method)
  | [] => rfl
  | ⟨_, _, annotations, _, _, _, parameters, _, body, _, _⟩ :: rest => by
    rw [List.flatMap_cons, within_method]
    change nodes (.method _ :: (ofAnnotations annotations ++ ofTypeParameters _ ++ .named _ ::
      (ofParameters parameters ++ List.map .named _ ++ ofStatements body ++ ofMethods rest))) = _
    simp [nodes_ofAnnotations annotations, nodes_ofParameters parameters, nodes_ofStatements body, nodes_ofMethods rest]

end

end Event

namespace Visitor

/-- Notes that a part is met. -/
def record (node : Node) : StateM (List Node) Unit := modify (· ++ [node])

/-- The visitor that notes the handled parts that it meets and changes nothing. -/
def recorder : Visitor (StateM (List Node)) where
  type t inside := do record (.type t); inside
  method m inside := do record (.method m); inside
  constructor c inside := do record (.constructor c); inside
  statement s inside := do record (.statement s); inside
  expression e inside := do record (.expression e); inside

/-- The handled parts of a part that do not lie inside an annotation. -/
private abbrev outside : Node → List Node := Node.handled fun node => node.kind != .note

private theorem outside_notes (annotations : List Annotation) :
    annotations.flatMap (fun a => outside (.note a)) = [] :=
  List.flatMap_eq_nil_iff.mpr fun _ _ => Node.handled_eq _

/-- Of a part that is not met itself, its parts are met. -/
private theorem outside_other {node : Node} (other : node.isHandled = false) (opened : (node.kind != .note) = true) :
    outside node = node.children.flatMap outside := by
  rw [outside, Node.handled_eq, if_neg (by simp [other]), if_pos opened]
  rfl

private theorem outside_block (body : List Statement) :
    outside (.block body) = body.flatMap fun s => outside (.statement s) := by
  rw [outside_other rfl rfl]
  exact List.flatMap_map ..

private theorem outside_parameter (parameter : Parameter) : outside (.parameter parameter) = [] := by
  rw [outside_other rfl rfl]
  exact (List.flatMap_map ..).trans (outside_notes _)

private theorem outside_parameters (parameters : List Parameter) :
    parameters.flatMap (fun parameter => outside (.parameter parameter)) = [] :=
  List.flatMap_eq_nil_iff.mpr fun parameter _ => outside_parameter parameter

section

variable {log : List Node}

@[simp] private theorem recorded_bind (first : StateM (List Node) α) (next : α → StateM (List Node) β) :
    (first >>= next) log = next (first log).1 (first log).2 := rfl

@[simp] private theorem recorded_pure (value : α) : (pure value : StateM (List Node) α) log = (value, log) := rfl

@[simp] private theorem recorded_map (f : α → β) (action : StateM (List Node) α) :
    (f <$> action) log = (f (action log).1, (action log).2) := rfl

variable {nodes : List Node}

private theorem recorded_expression {e : Expression} {inside : StateM (List Node) Expression}
    (parts : ∀ log, inside log = (e, log ++ (Node.ofExpression e).flatMap outside)) :
    recorder.expression e inside log = (e, log ++ outside (.expression e)) := by
  change inside (log ++ [.expression e]) = _
  rw [parts, outside, Node.handled_eq, List.append_assoc]
  rfl

private theorem recorded_statement {s : Statement} {inside : StateM (List Node) Statement}
    (parts : ∀ log, inside log = (s, log ++ (Node.ofStatement s).flatMap outside)) :
    recorder.statement s inside log = (s, log ++ outside (.statement s)) := by
  change inside (log ++ [.statement s]) = _
  rw [parts, outside, Node.handled_eq, List.append_assoc]
  rfl

private theorem recorded_type {t : TypeDecl} {inside : StateM (List Node) TypeDecl}
    (parts : ∀ log, inside log = (t, log ++ (Node.type t).children.flatMap outside)) :
    recorder.type t inside log = (t, log ++ outside (.type t)) := by
  change inside (log ++ [.type t]) = _
  rw [parts, outside, Node.handled_eq, List.append_assoc]
  rfl

private theorem recorded_method {m : Method} {inside : StateM (List Node) Method}
    (parts : ∀ log, inside log = (m, log ++ (Node.method m).children.flatMap outside)) :
    recorder.method m inside log = (m, log ++ outside (.method m)) := by
  change inside (log ++ [.method m]) = _
  rw [parts, outside, Node.handled_eq, List.append_assoc]
  rfl

private theorem recorded_constructor {c : Constructor} {inside : StateM (List Node) Constructor}
    (parts : ∀ log, inside log = (c, log ++ (Node.constructor c).children.flatMap outside)) :
    recorder.constructor c inside log = (c, log ++ outside (.constructor c)) := by
  change inside (log ++ [.constructor c]) = _
  rw [parts, outside, Node.handled_eq, List.append_assoc]
  rfl

@[simp] private theorem recorded_field (field : Field) (inside : StateM (List Node) Field) :
    recorder.field field inside log = inside log := rfl

@[simp] private theorem recorded_initializer (initializer : Initializer) (inside : StateM (List Node) Initializer) :
    recorder.initializer initializer inside log = inside log := rfl

private theorem recorded_nil {meets : α → List Node} :
    (pure [] : StateM (List Node) (List α)) log = ([], log ++ [].flatMap meets) := by
  simp

private theorem recorded_cons {first : StateM (List Node) α} {others : StateM (List Node) (List α)} {a : α}
    {as : List α} {meets : α → List Node} (here : ∀ log, first log = (a, log ++ meets a))
    (there : ∀ log, others log = (as, log ++ as.flatMap meets)) :
    (do return (← first) :: (← others) : StateM (List Node) (List α)) log =
      (a :: as, log ++ (a :: as).flatMap meets) := by
  simp [here, there]

end

attribute [local simp] Node.ofExpression Node.ofStatement Node.children List.flatMap_map outside_notes
  outside_parameters

mutual

private theorem recorder_onExpression : (e : Expression) → (log : List Node) →
    recorder.onExpression e log = (e, log ++ outside (.expression e))
  | .field receiver _, _ => recorded_expression fun _ => by simp [recorder_onExpression receiver]
  | .element array index, _ => recorded_expression fun _ => by
    simp [recorder_onExpression array, recorder_onExpression index]
  | .call none _ _ arguments, _ => recorded_expression fun _ => by simp [recorder_onExpressions arguments]
  | .call (some receiver) _ _ arguments, _ => recorded_expression fun _ => by
    simp [recorder_onExpression receiver, recorder_onExpressions arguments]
  | .create _ arguments none, _ => recorded_expression fun _ => by simp [recorder_onExpressions arguments]
  | .create _ arguments (some body), _ => recorded_expression fun _ => by
    simp [recorder_onExpressions arguments, recorder_onType body]
  | .createArray _ sizes _ none, _ => recorded_expression fun _ => by simp [recorder_onExpressions sizes]
  | .createArray _ sizes _ (some elements), _ => recorded_expression fun _ => by
    simp [recorder_onExpressions sizes, recorder_onExpressions elements]
  | .arrayElements elements, _ => recorded_expression fun _ => by simp [recorder_onExpressions elements]
  | .binary _ left right, _ => recorded_expression fun _ => by
    simp [recorder_onExpression left, recorder_onExpression right]
  | .unary _ operand, _ => recorded_expression fun _ => by simp [recorder_onExpression operand]
  | .assign _ target value, _ => recorded_expression fun _ => by
    simp [recorder_onExpression target, recorder_onExpression value]
  | .instanceOf operand _, _ => recorded_expression fun _ => by simp [recorder_onExpression operand]
  | .cast _ operand, _ => recorded_expression fun _ => by simp [recorder_onExpression operand]
  | .conditional condition whenTrue whenFalse, _ => recorded_expression fun _ => by
    simp [recorder_onExpression condition, recorder_onExpression whenTrue, recorder_onExpression whenFalse]
  | .note a, _ => recorded_expression fun _ => by simp [show outside (.note a) = [] from Node.handled_eq _]
  | .classLiteral _, _ | .name _, _ | .this _, _ | .literal _, _ | .verbatim _, _ =>
    recorded_expression fun _ => by simp

private theorem recorder_onExpressions : (es : List Expression) → (log : List Node) →
    recorder.onExpressions es log = (es, log ++ es.flatMap fun e => outside (.expression e))
  | [], _ => recorded_nil
  | e :: rest, _ => recorded_cons (recorder_onExpression e) (recorder_onExpressions rest)

private theorem recorder_onStatement : (s : Statement) → (log : List Node) →
    recorder.onStatement s log = (s, log ++ outside (.statement s))
  | .block body, _ => recorded_statement fun _ => by simp [recorder_onStatements body]
  | .expression e, _ => recorded_statement fun _ => by simp [recorder_onExpression e]
  | .throws e, _ => recorded_statement fun _ => by simp [recorder_onExpression e]
  | .declare decl, _ => recorded_statement fun _ => by simp [recorder_onLocal decl]
  | .ifElse condition whenTrue none, _ => recorded_statement fun _ => by
    simp [recorder_onExpression condition, recorder_onStatement whenTrue]
  | .ifElse condition whenTrue (some whenFalse), _ => recorded_statement fun _ => by
    simp [recorder_onExpression condition, recorder_onStatement whenTrue, recorder_onStatement whenFalse]
  | .whileLoop condition body, _ => recorded_statement fun _ => by
    simp [recorder_onExpression condition, recorder_onStatement body]
  | .doWhile body condition, _ => recorded_statement fun _ => by
    simp [recorder_onExpression condition, recorder_onStatement body]
  | .forLoop start none update body, _ => recorded_statement fun _ => by
    simp [recorder_onStatements start, recorder_onExpressions update, recorder_onStatement body]
  | .forLoop start (some condition) update body, _ => recorded_statement fun _ => by
    simp [recorder_onStatements start, recorder_onExpression condition, recorder_onExpressions update,
      recorder_onStatement body]
  | .forEach item iterable body, _ => recorded_statement fun _ => by
    simp [recorder_onLocal item, recorder_onExpression iterable, recorder_onStatement body]
  | .switch selector cases, _ => recorded_statement fun _ => by
    simp [recorder_onExpression selector, recorder_onCases cases]
  | .tryCatch body catches none, _ => recorded_statement fun _ => by
    simp [recorder_onStatements body, recorder_onCatches catches, outside_block]
  | .tryCatch body catches (some finalizer), _ => recorded_statement fun _ => by
    simp [recorder_onStatements body, recorder_onCatches catches, recorder_onStatements finalizer, outside_block]
  | .synchronized lock body, _ => recorded_statement fun _ => by
    simp [recorder_onExpression lock, recorder_onStatements body, outside_block]
  | .returns none, _ => recorded_statement fun _ => by simp
  | .returns (some value), _ => recorded_statement fun _ => by simp [recorder_onExpression value]
  | .labeled _ body, _ => recorded_statement fun _ => by simp [recorder_onStatement body]
  | .localType t, _ => recorded_statement fun _ => by simp [recorder_onType t]
  | .returnsDefault, _ | .breaks _, _ | .continues _, _ | .empty, _ | .verbatim _, _ =>
    recorded_statement fun _ => by simp

private theorem recorder_onStatements : (body : List Statement) → (log : List Node) →
    recorder.onStatements body log = (body, log ++ body.flatMap fun s => outside (.statement s))
  | [], _ => recorded_nil
  | s :: rest, _ => recorded_cons (recorder_onStatement s) (recorder_onStatements rest)

private theorem recorder_onLocal : (decl : LocalVariable) → (log : List Node) →
    recorder.onLocal decl log = (decl, log ++ outside (.localVariable decl))
  | ⟨_, _, _, _, none⟩, _ => by
    rw [outside_other rfl rfl]
    simp [onLocal]
  | ⟨_, _, _, _, some initial⟩, _ => by
    rw [outside_other rfl rfl]
    simp [onLocal, recorder_onExpression initial]

private theorem recorder_onCases : (cases : List SwitchCase) → (log : List Node) →
    recorder.onCases cases log = (cases, log ++ cases.flatMap fun group => outside (.switchCase group))
  | [], _ => recorded_nil
  | ⟨none, body⟩ :: rest, _ => by
    refine recorded_cons (fun _ => ?_) (recorder_onCases rest)
    rw [outside_other rfl rfl]
    simp [recorder_onStatements body]
  | ⟨some label, body⟩ :: rest, _ => by
    refine recorded_cons (fun _ => ?_) (recorder_onCases rest)
    rw [outside_other rfl rfl]
    simp [recorder_onExpression label, recorder_onStatements body]

private theorem recorder_onCatches : (catches : List CatchClause) → (log : List Node) →
    recorder.onCatches catches log = (catches, log ++ catches.flatMap fun clause => outside (.catchClause clause))
  | [], _ => recorded_nil
  | ⟨parameter, body⟩ :: rest, _ => by
    refine recorded_cons (fun _ => ?_) (recorder_onCatches rest)
    rw [outside_other rfl rfl]
    simp [outside_parameter, outside_block, recorder_onStatements body]

private theorem recorder_onType : (t : TypeDecl) → (log : List Node) →
    recorder.onType t log = (t, log ++ outside (.type t))
  | ⟨_, _, _, _, _, _, _, _, constants, fields, initializers, constructors, methods, memberTypes, _, _⟩, _ =>
    recorded_type fun _ => by
      simp [recorder_onConstants constants, recorder_onFields fields, recorder_onInitializers initializers,
        recorder_onConstructors constructors, recorder_onMethods methods, recorder_onTypes memberTypes]

private theorem recorder_onTypes : (types : List TypeDecl) → (log : List Node) →
    recorder.onTypes types log = (types, log ++ types.flatMap fun t => outside (.type t))
  | [], _ => recorded_nil
  | t :: rest, _ => recorded_cons (recorder_onType t) (recorder_onTypes rest)

private theorem recorder_onConstants : (constants : List EnumConstant) → (log : List Node) →
    recorder.onConstants constants log = (constants, log ++ constants.flatMap fun c => outside (.constant c))
  | [], _ => recorded_nil
  | ⟨_, _, arguments⟩ :: rest, _ => by
    refine recorded_cons (fun _ => ?_) (recorder_onConstants rest)
    rw [outside_other rfl rfl]
    simp [recorder_onExpressions arguments]

private theorem recorder_onFields : (fields : List Field) → (log : List Node) →
    recorder.onFields fields log = (fields, log ++ fields.flatMap fun field => outside (.field field))
  | [], _ => recorded_nil
  | ⟨_, _, _, _, _, none⟩ :: rest, _ => by
    refine recorded_cons (fun _ => ?_) (recorder_onFields rest)
    rw [outside_other rfl rfl]
    simp
  | ⟨_, _, _, _, _, some initial⟩ :: rest, _ => by
    refine recorded_cons (fun _ => ?_) (recorder_onFields rest)
    rw [outside_other rfl rfl]
    simp [recorder_onExpression initial]

private theorem recorder_onInitializers : (initializers : List Initializer) → (log : List Node) →
    recorder.onInitializers initializers log =
      (initializers, log ++ initializers.flatMap fun initializer => outside (.initializer initializer))
  | [], _ => recorded_nil
  | ⟨_, _, body⟩ :: rest, _ => by
    refine recorded_cons (fun _ => ?_) (recorder_onInitializers rest)
    rw [outside_other rfl rfl]
    simp [recorder_onStatements body]

private theorem recorder_onConstructors : (constructors : List Constructor) → (log : List Node) →
    recorder.onConstructors constructors log =
      (constructors, log ++ constructors.flatMap fun constructor => outside (.constructor constructor))
  | [], _ => recorded_nil
  | ⟨_, _, _, _, _, _, _, body, _⟩ :: rest, _ =>
    recorded_cons (fun _ => recorded_constructor fun _ => by simp [recorder_onStatements body])
      (recorder_onConstructors rest)

private theorem recorder_onMethods : (methods : List Method) → (log : List Node) →
    recorder.onMethods methods log = (methods, log ++ methods.flatMap fun method => outside (.method method))
  | [], _ => recorded_nil
  | ⟨_, _, _, _, _, _, _, _, body, _, _⟩ :: rest, _ =>
    recorded_cons (fun _ => recorded_method fun _ => by simp [recorder_onStatements body]) (recorder_onMethods rest)

end

end Visitor

theorem Visit.all_ancestors (visit : Visit) :
    visit.ancestors.all (·.kind != .note) = (visit.enclosing? .note).isNone := by
  rw [enclosing?, Bool.eq_iff_iff, List.all_eq_true, Option.isNone_iff_eq_none, List.find?_eq_none]
  simp

/-- A reader meets the handled parts that a walk meets, and a visitor those of them that lie in no annotation, all in
the order of the walk. A reviser goes where a visitor goes. -/
theorem traversals_agree (unit : CompilationUnit) :
    Event.nodes (Event.ofUnit unit) = ((Node.unit unit).walk.map (·.node)).filter Node.isHandled ∧
      Visitor.recorder.onTypes unit.types [] =
        (unit.types, (((Node.unit unit).walk.filter fun visit => (visit.enclosing? .note).isNone).map (·.node)).filter
          Node.isHandled) ∧
      ∀ {γ : Type} {m : Type → Type} [Monad m] [LawfulMonad m] (r : Reviser γ m) (context : γ),
        r.onTypes context unit.types = r.visitor.onTypes unit.types (context, false) := by
  have among (entered : Node → Bool) (enters : entered (.unit unit) = true) :
      (Node.unit unit).handled entered = unit.types.flatMap fun t => (Node.type t).handled entered := by
    rw [Node.handled_eq, if_pos enters]
    exact List.flatMap_map ..
  refine ⟨?read, ?visited, fun r context => (r.visitor_onTypes unit.types context).symm⟩
  case read =>
    have all : (Node.unit unit).handled (fun _ => true) =
        ((Node.unit unit).walk.map (·.node)).filter Node.isHandled := by
      rw [Node.handled, Node.met, List.filter_eq_self.mpr fun visit _ => List.all_eq_true.mpr fun _ _ => rfl]
      rfl
    rw [← all, among _ rfl]
    exact Event.nodes_ofTypes unit.types
  case visited =>
    have outside : (Node.unit unit).handled (fun node => node.kind != .note) =
        (((Node.unit unit).walk.filter fun visit => (visit.enclosing? .note).isNone).map (·.node)).filter
          Node.isHandled := by
      simp only [Node.handled, Node.met, Visit.all_ancestors]
      rfl
    rw [← outside, among _ rfl]
    exact Visitor.recorder_onTypes unit.types []

/-- A class under an annotation with a value, and a method that returns a number. -/
def notedUnit : CompilationUnit where
  types := [{
    name := "Point"
    annotations := [{ type := .named "Version", members := [⟨"value", .literal (.int 1)⟩] }]
    methods := [{ returnType := .named "int", name := "size", body := [.returns (some (.literal (.int 2)))] }] }]

theorem traversals_agree_noted :
    (((Node.unit notedUnit).walk.map (·.node)).filter Node.isHandled).map Node.kind =
        [.type, .expression, .method, .statement, .expression] ∧
      (Visitor.recorder.onTypes notedUnit.types []).2.map Node.kind = [.type, .method, .statement, .expression] ∧
      ((((Node.unit notedUnit).walk.filter fun visit => (visit.enclosing? .note).isNone).map (·.node)).filter
        Node.isHandled).map Node.kind = [.type, .method, .statement, .expression] ∧
      (renamer fun _ => none).onTypes () notedUnit.types =
        (renamer fun _ => none).visitor.onTypes notedUnit.types ((), false) := by
  obtain ⟨read, visited, revised⟩ := traversals_agree notedUnit
  have outside := congrArg (fun result => result.2.map Node.kind) visited
  rw [← read]
  exact ⟨rfl, rfl, outside.symm, revised (renamer fun _ => none) ()⟩

end JavaWeave.Syntax
