import JavaWeave.Proofs.Syntax.JsonMembers

/-! The JSON form of a source tree loses nothing: what is written is read back as the same tree. The induction is
on the parts of a tree; each kind of part has a lemma that reads it back if its own parts are read back. -/

namespace JavaWeave.Syntax

namespace Encode

def annotationMember (member : AnnotationMember) : Json :=
  .obj [("name", .str member.name), ("value", expression member.value)]

def switchCase (group : SwitchCase) : Json :=
  .obj (optional "label" expression group.label ++ [("statements", .arr (group.body.map statement))])

def catchClause (clause : CatchClause) : Json :=
  .obj [("param", parameter clause.parameter), ("body", block (clause.body.map statement))]

def constant (c : EnumConstant) : Json :=
  .obj [("data", origin c.origin), ("name", .str c.name), ("args", .arr (c.arguments.map expression))]

theorem expressions_eq_map : ∀ es : List Expression, expressions es = es.map expression
  | [] => rfl
  | e :: rest => congrArg (expression e :: ·) (expressions_eq_map rest)

theorem statements_eq_map : ∀ ss : List Statement, statements ss = ss.map statement
  | [] => rfl
  | s :: rest => congrArg (statement s :: ·) (statements_eq_map rest)

theorem annotations_eq_map : ∀ notes : List Annotation, annotations notes = notes.map note
  | [] => rfl
  | a :: rest => congrArg (note a :: ·) (annotations_eq_map rest)

theorem annotationMembers_eq_map : ∀ members : List AnnotationMember,
    annotationMembers members = members.map annotationMember
  | [] => rfl
  | ⟨name, value⟩ :: rest => congrArg (annotationMember ⟨name, value⟩ :: ·) (annotationMembers_eq_map rest)

theorem parameters_eq_map : ∀ ps : List Parameter, parameters ps = ps.map parameter
  | [] => rfl
  | p :: rest => congrArg (parameter p :: ·) (parameters_eq_map rest)

theorem switchCases_eq_map : ∀ groups : List SwitchCase, switchCases groups = groups.map switchCase
  | [] => rfl
  | ⟨label, body⟩ :: rest => by
    rw [List.map_cons, ← switchCases_eq_map rest, switchCase, ← statements_eq_map]
    cases label <;> rfl

theorem catchClauses_eq_map : ∀ clauses : List CatchClause, catchClauses clauses = clauses.map catchClause
  | [] => rfl
  | ⟨parameter, body⟩ :: rest => by
    rw [List.map_cons, ← catchClauses_eq_map rest, catchClause, ← statements_eq_map]
    rfl

theorem constants_eq_map : ∀ cs : List EnumConstant, constants cs = cs.map constant
  | [] => rfl
  | ⟨_, _, _⟩ :: rest => by
    rw [List.map_cons, ← constants_eq_map rest, constant, ← expressions_eq_map]
    rfl

theorem fields_eq_map : ∀ fs : List Field, fields fs = fs.map field
  | [] => rfl
  | f :: rest => congrArg (field f :: ·) (fields_eq_map rest)

theorem methods_eq_map : ∀ ms : List Method, methods ms = ms.map method
  | [] => rfl
  | m :: rest => congrArg (method m :: ·) (methods_eq_map rest)

theorem constructors_eq_map : ∀ cs : List Constructor, constructors cs = cs.map constructor
  | [] => rfl
  | c :: rest => congrArg (constructor c :: ·) (constructors_eq_map rest)

theorem initializers_eq_map : ∀ is : List Initializer, initializers is = is.map initializer
  | [] => rfl
  | i :: rest => congrArg (initializer i :: ·) (initializers_eq_map rest)

theorem typeDecls_eq_map : ∀ ts : List TypeDecl, typeDecls ts = ts.map typeDecl
  | [] => rfl
  | t :: rest => congrArg (typeDecl t :: ·) (typeDecls_eq_map rest)

/-! The forms of nodes whose members may be absent or come in lists. -/

theorem expression_call (receiver : Option Expression) (name : String) (typeArguments : List JavaType)
    (arguments : List Expression) : expression (.call receiver name typeArguments arguments) =
      tagged "Call" (.obj (optional "receiver" expression receiver ++ [("name", .str name)]
        ++ nonempty "type_args" javaType typeArguments ++ [("args", .arr (arguments.map expression))])) := by
  rw [← expressions_eq_map]
  cases receiver <;> rfl

theorem expression_create (type : JavaType) (arguments : List Expression) (body : Option TypeDecl) :
    expression (.create type arguments body) =
      tagged "New" (.obj ([("ty", javaType type), ("args", .arr (arguments.map expression))]
        ++ optional "body" typeDecl body)) := by
  rw [← expressions_eq_map]
  cases body <;> rfl

theorem expression_createArray (type : JavaType) (sizes : List Expression) (unsized : Nat)
    (elements : Option (List Expression)) : expression (.createArray type sizes unsized elements) =
      tagged "NewArray" (.obj ([("ty", javaType type), ("dims", .arr (sizes.map expression)),
          ("extra_dims", .nat unsized)]
        ++ optional "init" (fun es => .obj [("elements", .arr (es.map expression))]) elements)) := by
  simp only [← expressions_eq_map]
  cases elements <;> rfl

theorem note_eq (a : Annotation) : note a =
    .obj [("data", origin a.origin), ("ty", javaType a.type), ("values", .arr (a.members.map annotationMember))] := by
  rw [← annotationMembers_eq_map]
  cases a
  rfl

theorem parameter_eq (p : Parameter) : parameter p =
    .obj [("modifiers", modifiers p.modifiers), ("annotations", .arr (p.annotations.map note)),
      ("ty", javaType p.type), ("name", .str p.name)] := by
  rw [← annotations_eq_map]
  cases p
  rfl

theorem localVariable_eq (decl : LocalVariable) : localVariable decl =
    .obj ([("modifiers", modifiers decl.modifiers), ("annotations", .arr (decl.annotations.map note)),
      ("ty", javaType decl.type), ("name", .str decl.name)] ++ optional "init" expression decl.initial) := by
  rw [← annotations_eq_map]
  obtain ⟨_, _, _, _, initial⟩ := decl
  cases initial <;> rfl

theorem field_eq (f : Field) : field f =
    .obj ([("data", origin f.origin), ("modifiers", modifiers f.modifiers),
      ("annotations", .arr (f.annotations.map note)), ("ty", javaType f.type), ("name", .str f.name)]
      ++ optional "init" expression f.initial) := by
  rw [← annotations_eq_map]
  obtain ⟨_, _, _, _, _, initial⟩ := f
  cases initial <;> rfl

theorem method_eq (m : Method) : method m =
    .obj [("data", origin m.origin), ("modifiers", modifiers m.modifiers),
      ("annotations", .arr (m.annotations.map note)), ("type_params", .ofList typeParameter m.typeParameters),
      ("return_type", javaType m.returnType), ("name", .str m.name), ("args", .arr (m.parameters.map parameter)),
      ("thrown", .ofList javaType m.thrown), ("statements", .arr (m.body.map statement)),
      ("no_body", .bool m.bodiless), ("implementing", .bool m.implementing)] := by
  rw [← annotations_eq_map, ← parameters_eq_map, ← statements_eq_map]
  cases m
  rfl

theorem constructor_eq (c : Constructor) : constructor c =
    .obj [("data", origin c.origin), ("modifiers", modifiers c.modifiers),
      ("annotations", .arr (c.annotations.map note)), ("type_params", .ofList typeParameter c.typeParameters),
      ("name", .str c.name), ("args", .arr (c.parameters.map parameter)), ("thrown", .ofList javaType c.thrown),
      ("statements", .arr (c.body.map statement)), ("implicit_super", .bool c.implicitSuper)] := by
  rw [← annotations_eq_map, ← parameters_eq_map, ← statements_eq_map]
  cases c
  rfl

theorem initializer_eq (i : Initializer) : initializer i =
    .obj [("data", origin i.origin), ("is_static", .bool i.isStatic), ("statements", .arr (i.body.map statement))] := by
  rw [← statements_eq_map]
  cases i
  rfl

theorem typeDecl_eq (t : TypeDecl) : typeDecl t =
    .obj ([("data", origin t.origin), ("modifiers", modifiers t.modifiers),
        ("annotations", .arr (t.annotations.map note)), ("kind", typeKind t.kind), ("name", .str t.name),
        ("type_params", .ofList typeParameter t.typeParameters)]
      ++ optional "superclass" javaType t.superclass
      ++ [("interfaces", .ofList javaType t.interfaces), ("enum_constants", .arr (t.constants.map constant)),
        ("fields", .arr (t.fields.map field)), ("initializers", .arr (t.initializers.map initializer)),
        ("constructors", .arr (t.constructors.map constructor)), ("methods", .arr (t.methods.map method)),
        ("member_types", .arr (t.memberTypes.map typeDecl)), ("local", .bool t.isLocal),
        ("anonymous", .bool t.isAnonymous)]) := by
  simp only [← annotations_eq_map, ← constants_eq_map, ← fields_eq_map, ← initializers_eq_map,
    ← constructors_eq_map, ← methods_eq_map, ← typeDecls_eq_map]
  cases t
  rfl

theorem statement_ifElse (condition : Expression) (whenTrue : Statement) (whenFalse : Option Statement) :
    statement (.ifElse condition whenTrue whenFalse) =
      tagged "If" (.obj ([("cond", expression condition), ("then", statement whenTrue)]
        ++ optional "otherwise" statement whenFalse)) := by
  cases whenFalse <;> rfl

theorem statement_forLoop (start : List Statement) (condition : Option Expression) (update : List Expression)
    (body : Statement) : statement (.forLoop start condition update body) =
      tagged "For" (.obj ([("init", .arr (start.map statement))] ++ optional "cond" expression condition
        ++ [("update", .arr (update.map expression)), ("body", statement body)])) := by
  rw [← statements_eq_map, ← expressions_eq_map]
  cases condition <;> rfl

theorem statement_tryCatch (body : List Statement) (catches : List CatchClause)
    (finalizer : Option (List Statement)) : statement (.tryCatch body catches finalizer) =
      tagged "Try" (.obj ([("body", block (body.map statement)), ("catches", .arr (catches.map catchClause))]
        ++ optional "finally" (fun ss => block (ss.map statement)) finalizer)) := by
  simp only [← statements_eq_map, ← catchClauses_eq_map]
  cases finalizer <;> rfl

theorem tagged_ne_null (tag : String) (content : Json) : tagged tag content ≠ .null := nofun

theorem expression_ne_null (e : Expression) : expression e ≠ .null := by
  cases e with
  | call => exact expression_call .. ▸ tagged_ne_null _ _
  | create => exact expression_create .. ▸ tagged_ne_null _ _
  | createArray => exact expression_createArray .. ▸ tagged_ne_null _ _
  | _ => exact tagged_ne_null _ _

theorem statement_ne_null (s : Statement) : statement s ≠ .null := by
  cases s with
  | returnsDefault | empty => nofun
  | ifElse => exact statement_ifElse .. ▸ tagged_ne_null _ _
  | forLoop => exact statement_forLoop .. ▸ tagged_ne_null _ _
  | tryCatch => exact statement_tryCatch .. ▸ tagged_ne_null _ _
  | returns value => cases value <;> exact tagged_ne_null _ _
  | _ => exact tagged_ne_null _ _

theorem typeDecl_ne_null (t : TypeDecl) : typeDecl t ≠ .null := by
  rw [typeDecl_eq]
  nofun

theorem depth_tagged (tag : String) (content : Json) : (tagged tag content).depth = content.depth + 1 := by
  simp [tagged, Json.depth, Json.depthMembers]

end Encode

namespace Decode

/-- The reader of a group of a switch. -/
def switchCase (fuel : Nat) (json : Json) : Option SwitchCase := do
  object json
  return ⟨← optional (expressionWithin fuel) json "label", ← items (statementWithin fuel) json "statements"⟩

/-- The reader of a catch clause. -/
def catchClause (fuel : Nat) (json : Json) : Option CatchClause := do
  return ⟨← required (parameterWithin fuel) json "param", ← required (blockWithin fuel) json "body"⟩

end Decode

open Decode in
/-- A part is read back from its JSON form. -/
def Node.Restored : Node → Prop
  | .unit u => Decode.unit (Encode.unit u) = some u
  | .type t => Restores typeDeclWithin (Encode.typeDecl t) t
  | .field f => Restores fieldWithin (Encode.field f) f
  | .method m => Restores methodWithin (Encode.method m) m
  | .constructor c => Restores constructorWithin (Encode.constructor c) c
  | .initializer i => Restores initializerWithin (Encode.initializer i) i
  | .constant c => Restores constantWithin (Encode.constant c) c
  | .parameter p => Restores parameterWithin (Encode.parameter p) p
  | .localVariable decl => Restores localVariableWithin (Encode.localVariable decl) decl
  | .note a => Restores annotationWithin (Encode.note a) a
  | .block body => Restores blockWithin (Encode.block (body.map Encode.statement)) body
  | .switchCase group => Restores Decode.switchCase (Encode.switchCase group) group
  | .catchClause clause => Restores Decode.catchClause (Encode.catchClause clause) clause
  | .statement s => Restores statementWithin (Encode.statement s) s
  | .expression e => Restores expressionWithin (Encode.expression e) e

namespace Decode

open Encode (expressions_eq_map statements_eq_map annotations_eq_map annotationMembers_eq_map parameters_eq_map
  switchCases_eq_map catchClauses_eq_map constants_eq_map fields_eq_map methods_eq_map constructors_eq_map
  initializers_eq_map typeDecls_eq_map)

/-- A node of a shape is read back if its content is. -/
theorem Restores.tagged {read : Nat → Json → Option α} {tag : String} {content : Json} {a : α}
    (reads : ∀ fuel, content.depth ≤ fuel → read (fuel + 1) (Encode.tagged tag content) = some a) :
    Restores read (Encode.tagged tag content) a :=
  .intro fun fuel deep => reads fuel (by rw [Encode.depth_tagged] at deep; omega)

attribute [local simp] Json.get? List.lookup_append List.lookup_cons lookup_optional lookup_nonempty

section Expressions

theorem restores_call {receiver : Option Expression} {name : String} {typeArguments : List JavaType}
    {arguments : List Expression} (fits : ∀ type ∈ typeArguments, type.Fits)
    (target : ∀ e ∈ receiver, (Node.expression e).Restored) (given : ∀ e ∈ arguments, (Node.expression e).Restored) :
    (Node.expression (.call receiver name typeArguments arguments)).Restored := by
  rw [Node.Restored, Encode.expression_call]
  refine .tagged fun fuel deep => ?_
  generalize form : Json.obj _ = content at deep ⊢
  have deeper : content.depth ≤ fuel + 1 := by omega
  change (do
    return Expression.call (← optional (expressionWithin fuel) content "receiver")
      (← required Json.str? content "name") (← items javaType content "type_args")
      (← items (expressionWithin fuel) content "args")) = _
  rw [Restores.optional target (by simp [← form]) Encode.expression_ne_null deeper,
    required_str (s := name) (by simp [← form]),
    items_nonempty (by simp [← form]) fun type member => javaType_encode (fits type member),
    Restores.items given (by simp [← form]) deeper]
  rfl

theorem restores_create {type : JavaType} {arguments : List Expression} {body : Option TypeDecl} (fits : type.Fits)
    (given : ∀ e ∈ arguments, (Node.expression e).Restored) (declared : ∀ t ∈ body, (Node.type t).Restored) :
    (Node.expression (.create type arguments body)).Restored := by
  rw [Node.Restored, Encode.expression_create]
  refine .tagged fun fuel deep => ?_
  generalize form : Json.obj _ = content at deep ⊢
  have deeper : content.depth ≤ fuel + 1 := by omega
  change (do
    return Expression.create (← required javaType content "ty") (← items (expressionWithin fuel) content "args")
      (← optional (typeDeclWithin fuel) content "body")) = _
  rw [required_found (by simp [← form]) (javaType_encode fits), Restores.items given (by simp [← form]) deeper,
    Restores.optional declared (by simp [← form]) Encode.typeDecl_ne_null deeper]
  rfl

theorem restores_createArray {type : JavaType} {sizes : List Expression} {unsized : Nat}
    {elements : Option (List Expression)} (fits : type.Fits) (word : unsized < 2 ^ 32)
    (sized : ∀ e ∈ sizes, (Node.expression e).Restored)
    (given : ∀ e ∈ elements.getD [], (Node.expression e).Restored) :
    (Node.expression (.createArray type sizes unsized elements)).Restored := by
  rw [Node.Restored, Encode.expression_createArray]
  refine .tagged fun fuel deep => ?_
  generalize form : Json.obj _ = content at deep ⊢
  have deeper : content.depth ≤ fuel + 1 := by omega
  change (do
    return Expression.createArray (← required javaType content "ty") (← items (expressionWithin fuel) content "dims")
      (← defaulted 0 Decode.word content "extra_dims")
      (← optional (fun i => (object i).bind fun _ => items (expressionWithin fuel) i "elements") content "init")) = _
  have filled : ∀ es ∈ elements, (object (.obj [("elements", .arr (es.map Encode.expression))])).bind (fun _ =>
      items (expressionWithin fuel) (.obj [("elements", .arr (es.map Encode.expression))]) "elements") = some es := by
    rintro es rfl
    have found : content.get? "init" = some (.obj [("elements", .arr (es.map Encode.expression))]) := by
      simp [← form]
    have outer := Json.depth_of_get? found
    exact Restores.items given rfl (by omega)
  rw [required_found (by simp [← form]) (javaType_encode fits), Restores.items sized (by simp [← form]) deeper,
    defaulted_found (by simp [← form]) (word_nat word),
    optional_map (o := elements) (by simp [← form]) (by simp) filled]
  rfl

theorem restored_expression {e : Expression} (fits : e.Fits)
    (parts : ∀ child ∈ Node.ofExpression e, child.Restored) : (Node.expression e).Restored := by
  cases e with
  | name | verbatim => exact .tagged fun fuel _ => rfl
  | this qualifier => exact .tagged fun fuel _ => by cases qualifier <;> rfl
  | literal value => exact .tagged fun fuel _ => congrArg (Option.map _) (literal_encode fits)
  | classLiteral type => exact .tagged fun fuel _ => congrArg (Option.map _) (javaType_encode fits)
  | note a =>
    have note : (Node.note a).Restored := parts _ List.mem_cons_self
    exact .tagged fun fuel deep => congrArg (Option.map _) (note fuel deep)
  | call receiver name typeArguments arguments =>
    simp only [Node.ofExpression, List.forall_mem_append, List.forall_mem_map] at parts
    exact restores_call fits (fun e given => parts.1 e (by simpa using given)) parts.2
  | create type arguments body =>
    simp only [Node.ofExpression, List.forall_mem_append, List.forall_mem_map] at parts
    exact restores_create fits parts.1 fun t given => parts.2 t (by simpa using given)
  | createArray type sizes unsized elements =>
    simp only [Node.ofExpression, List.forall_mem_append, List.forall_mem_map] at parts
    exact restores_createArray fits.1 fits.2 parts.1 parts.2
  | field receiver name =>
    have target : (Node.expression receiver).Restored := parts _ List.mem_cons_self
    refine .tagged fun fuel deep => ?_
    generalize form : Json.obj _ = content at deep ⊢
    change (do
      return Expression.field (← required (expressionWithin fuel) content "receiver")
        (← required Json.str? content "name")) = _
    rw [target.required (by simp [← form]) (by omega), required_str (s := name) (by simp [← form])]
    rfl
  | element array index =>
    simp only [Node.ofExpression, List.forall_mem_cons] at parts
    refine .tagged fun fuel deep => ?_
    generalize form : Json.obj _ = content at deep ⊢
    change (do
      return Expression.element (← required (expressionWithin fuel) content "array")
        (← required (expressionWithin fuel) content "index")) = _
    rw [parts.1.required (by simp [← form]) (by omega), parts.2.1.required (by simp [← form]) (by omega)]
    rfl
  | arrayElements elements =>
    simp only [Node.ofExpression, List.forall_mem_map] at parts
    refine .tagged fun fuel deep => ?_
    rw [expressions_eq_map] at deep ⊢
    generalize form : Json.obj _ = content at deep ⊢
    have held : object content = some () := form ▸ rfl
    change (do
      object content
      return Expression.arrayElements (← items (expressionWithin fuel) content "elements")) = _
    rw [held, Restores.items parts (by simp [← form]) (by omega)]
    rfl
  | binary op left right =>
    simp only [Node.ofExpression, List.forall_mem_cons] at parts
    refine .tagged fun fuel deep => ?_
    generalize form : Json.obj _ = content at deep ⊢
    change (do
      return Expression.binary (← required binaryOp content "op") (← required (expressionWithin fuel) content "left")
        (← required (expressionWithin fuel) content "right")) = _
    rw [required_found (by simp [← form]) (binaryOp_encode op), parts.1.required (by simp [← form]) (by omega),
      parts.2.1.required (by simp [← form]) (by omega)]
    rfl
  | unary op operand =>
    have inner : (Node.expression operand).Restored := parts _ List.mem_cons_self
    refine .tagged fun fuel deep => ?_
    generalize form : Json.obj _ = content at deep ⊢
    change (do
      return Expression.unary (← required unaryOp content "op")
        (← required (expressionWithin fuel) content "operand")) = _
    rw [required_found (by simp [← form]) (unaryOp_encode op), inner.required (by simp [← form]) (by omega)]
    rfl
  | assign op target value =>
    simp only [Node.ofExpression, List.forall_mem_cons] at parts
    refine .tagged fun fuel deep => ?_
    generalize form : Json.obj _ = content at deep ⊢
    change (do
      return Expression.assign (← optional binaryOp content "op") (← required (expressionWithin fuel) content "target")
        (← required (expressionWithin fuel) content "value")) = _
    rw [optional_map (o := op) (by simp [← form]) (by simp [Encode.binaryOp]) fun op _ => binaryOp_encode op,
      parts.1.required (by simp [← form]) (by omega), parts.2.1.required (by simp [← form]) (by omega)]
    rfl
  | instanceOf operand type =>
    have inner : (Node.expression operand).Restored := parts _ List.mem_cons_self
    refine .tagged fun fuel deep => ?_
    generalize form : Json.obj _ = content at deep ⊢
    change (do
      return Expression.instanceOf (← required (expressionWithin fuel) content "expr")
        (← required javaType content "ty")) = _
    rw [inner.required (by simp [← form]) (by omega), required_found (by simp [← form]) (javaType_encode fits)]
    rfl
  | cast type operand =>
    have inner : (Node.expression operand).Restored := parts _ List.mem_cons_self
    refine .tagged fun fuel deep => ?_
    generalize form : Json.obj _ = content at deep ⊢
    change (do
      return Expression.cast (← required javaType content "ty")
        (← required (expressionWithin fuel) content "expr")) = _
    rw [inner.required (by simp [← form]) (by omega), required_found (by simp [← form]) (javaType_encode fits)]
    rfl
  | conditional condition whenTrue whenFalse =>
    simp only [Node.ofExpression, List.forall_mem_cons] at parts
    refine .tagged fun fuel deep => ?_
    generalize form : Json.obj _ = content at deep ⊢
    change (do
      return Expression.conditional (← required (expressionWithin fuel) content "cond")
        (← required (expressionWithin fuel) content "then")
        (← required (expressionWithin fuel) content "otherwise")) = _
    rw [parts.1.required (by simp [← form]) (by omega), parts.2.1.required (by simp [← form]) (by omega),
      parts.2.2.1.required (by simp [← form]) (by omega)]
    rfl

end Expressions

section Statements

theorem restores_block {body : List Statement} (parts : ∀ s ∈ body, (Node.statement s).Restored) :
    (Node.block body).Restored := by
  refine .intro fun fuel deep => ?_
  rw [Encode.block] at deep ⊢
  generalize form : Json.obj _ = content at deep ⊢
  have held : object content = some () := form ▸ rfl
  rw [blockWithin, held]
  exact Restores.items parts (by simp [← form]) deep

theorem restores_switchCase {group : SwitchCase} (label : ∀ e ∈ group.label, (Node.expression e).Restored)
    (parts : ∀ s ∈ group.body, (Node.statement s).Restored) : (Node.switchCase group).Restored := by
  obtain ⟨caseLabel, body⟩ := group
  intro fuel deep
  rw [Encode.switchCase] at deep ⊢
  generalize form : Json.obj _ = content at deep ⊢
  have held : object content = some () := form ▸ rfl
  rw [switchCase, held, Restores.optional label (by simp [← form]) Encode.expression_ne_null (by omega),
    Restores.items parts (by simp [← form]) (by omega)]
  rfl

theorem restores_catchClause {clause : CatchClause} (parameter : (Node.parameter clause.parameter).Restored)
    (body : (Node.block clause.body).Restored) : (Node.catchClause clause).Restored := by
  obtain ⟨caught, handler⟩ := clause
  intro fuel deep
  rw [Encode.catchClause] at deep ⊢
  generalize form : Json.obj _ = content at deep ⊢
  rw [catchClause, Restores.required parameter (by simp [← form]) (by omega),
    Restores.required body (by simp [← form]) (by omega)]
  rfl

theorem restores_forLoop {start : List Statement} {condition : Option Expression} {update : List Expression}
    {body : Statement} (starts : ∀ s ∈ start, (Node.statement s).Restored)
    (conditions : ∀ e ∈ condition, (Node.expression e).Restored)
    (updates : ∀ e ∈ update, (Node.expression e).Restored) (repeated : (Node.statement body).Restored) :
    (Node.statement (.forLoop start condition update body)).Restored := by
  rw [Node.Restored, Encode.statement_forLoop]
  refine .tagged fun fuel deep => ?_
  generalize form : Json.obj _ = content at deep ⊢
  change (do
    return Statement.forLoop (← items (statementWithin fuel) content "init")
      (← optional (expressionWithin fuel) content "cond") (← items (expressionWithin fuel) content "update")
      (← required (statementWithin fuel) content "body")) = _
  rw [Restores.items starts (by simp [← form]) (by omega),
    Restores.optional conditions (by simp [← form]) Encode.expression_ne_null (by omega),
    Restores.items updates (by simp [← form]) (by omega), repeated.required (by simp [← form]) (by omega)]
  rfl

theorem restores_switch {selector : Expression} {cases : List SwitchCase}
    (selected : (Node.expression selector).Restored) (groups : ∀ group ∈ cases, (Node.switchCase group).Restored) :
    (Node.statement (.switch selector cases)).Restored := by
  refine .tagged fun fuel deep => ?_
  rw [switchCases_eq_map] at deep ⊢
  generalize form : Json.obj _ = content at deep ⊢
  change (do
    return Statement.switch (← required (expressionWithin fuel) content "selector")
      (← items (Decode.switchCase fuel) content "cases")) = _
  rw [selected.required (by simp [← form]) (by omega), Restores.items groups (by simp [← form]) (by omega)]
  rfl

theorem restores_tryCatch {body : List Statement} {catches : List CatchClause} {finalizer : Option (List Statement)}
    (guarded : (Node.block body).Restored) (clauses : ∀ clause ∈ catches, (Node.catchClause clause).Restored)
    (final : ∀ ss ∈ finalizer, (Node.block ss).Restored) :
    (Node.statement (.tryCatch body catches finalizer)).Restored := by
  rw [Node.Restored, Encode.statement_tryCatch]
  refine .tagged fun fuel deep => ?_
  generalize form : Json.obj _ = content at deep ⊢
  change (do
    return Statement.tryCatch (← required (blockWithin fuel) content "body")
      (← items (Decode.catchClause fuel) content "catches") (← optional (blockWithin fuel) content "finally")) = _
  rw [guarded.required (by simp [← form]) (by omega), Restores.items clauses (by simp [← form]) (by omega),
    Restores.optional final (by simp [← form]) (by simp [Encode.block]) (by omega)]
  rfl

theorem statementWithin_return {fuel : Nat} {value : Json} (solid : value ≠ .null) :
    statementWithin (fuel + 1) (Encode.tagged "Return" value) =
      (expressionWithin fuel value).map fun e => .returns (some e) := by
  cases value with
  | null => exact absurd rfl solid
  | _ => rfl

theorem restored_statement {s : Statement} (parts : ∀ child ∈ Node.ofStatement s, child.Restored) :
    (Node.statement s).Restored := by
  cases s with
  | returnsDefault | empty => exact .intro fun fuel _ => rfl
  | verbatim => exact .tagged fun fuel _ => rfl
  | breaks label | continues label => exact .tagged fun fuel _ => by cases label <;> rfl
  | block body =>
    have inner : (Node.block body).Restored := restores_block (by simpa [Node.ofStatement] using parts)
    refine .tagged fun fuel deep => ?_
    rw [statements_eq_map] at deep ⊢
    exact congrArg (Option.map _) (inner fuel deep)
  | expression e =>
    have inner : (Node.expression e).Restored := parts _ List.mem_cons_self
    exact .tagged fun fuel deep => congrArg (Option.map _) (inner fuel deep)
  | throws e =>
    have inner : (Node.expression e).Restored := parts _ List.mem_cons_self
    exact .tagged fun fuel deep => congrArg (Option.map _) (inner fuel deep)
  | declare decl =>
    have inner : (Node.localVariable decl).Restored := parts _ List.mem_cons_self
    exact .tagged fun fuel deep => congrArg (Option.map _) (inner fuel deep)
  | localType t =>
    have inner : (Node.type t).Restored := parts _ List.mem_cons_self
    exact .tagged fun fuel deep => congrArg (Option.map _) (inner fuel deep)
  | returns value =>
    cases value with
    | none => exact .tagged fun fuel _ => rfl
    | some e =>
      have inner : (Node.expression e).Restored := parts _ List.mem_cons_self
      exact .tagged fun fuel deep => (statementWithin_return (Encode.expression_ne_null e)).trans
        (congrArg (Option.map _) (inner fuel deep))
  | ifElse condition whenTrue whenFalse =>
    simp only [Node.ofStatement, List.forall_mem_append, List.forall_mem_map, List.forall_mem_cons] at parts
    rw [Node.Restored, Encode.statement_ifElse]
    refine .tagged fun fuel deep => ?_
    generalize form : Json.obj _ = content at deep ⊢
    change (do
      return Statement.ifElse (← required (expressionWithin fuel) content "cond")
        (← required (statementWithin fuel) content "then") (← optional (statementWithin fuel) content "otherwise")) = _
    rw [parts.1.1.required (by simp [← form]) (by omega), parts.1.2.1.required (by simp [← form]) (by omega),
      Restores.optional (o := whenFalse) (fun s given => parts.2 s (by simpa using given)) (by simp [← form])
        Encode.statement_ne_null (by omega)]
    rfl
  | whileLoop condition body =>
    simp only [Node.ofStatement, List.forall_mem_cons] at parts
    refine .tagged fun fuel deep => ?_
    generalize form : Json.obj _ = content at deep ⊢
    change (do
      return Statement.whileLoop (← required (expressionWithin fuel) content "cond")
        (← required (statementWithin fuel) content "body")) = _
    rw [parts.1.required (by simp [← form]) (by omega), parts.2.1.required (by simp [← form]) (by omega)]
    rfl
  | doWhile body condition =>
    simp only [Node.ofStatement, List.forall_mem_cons] at parts
    refine .tagged fun fuel deep => ?_
    generalize form : Json.obj _ = content at deep ⊢
    change (do
      return Statement.doWhile (← required (statementWithin fuel) content "body")
        (← required (expressionWithin fuel) content "cond")) = _
    rw [parts.1.required (by simp [← form]) (by omega), parts.2.1.required (by simp [← form]) (by omega)]
    rfl
  | forLoop start condition update body =>
    simp only [Node.ofStatement, List.forall_mem_append, List.forall_mem_map, List.forall_mem_cons] at parts
    exact restores_forLoop parts.1.1.1 (fun e given => parts.1.1.2 e (by simpa using given)) parts.1.2 parts.2.1
  | forEach item iterable body =>
    simp only [Node.ofStatement, List.forall_mem_cons] at parts
    refine .tagged fun fuel deep => ?_
    generalize form : Json.obj _ = content at deep ⊢
    change (do
      return Statement.forEach (← required (localVariableWithin fuel) content "var")
        (← required (expressionWithin fuel) content "iterable") (← required (statementWithin fuel) content "body")) = _
    rw [parts.1.required (by simp [← form]) (by omega), parts.2.1.required (by simp [← form]) (by omega),
      parts.2.2.1.required (by simp [← form]) (by omega)]
    rfl
  | switch selector cases =>
    simp only [Node.ofStatement, List.forall_mem_cons, List.forall_mem_map] at parts
    exact restores_switch parts.1 parts.2
  | tryCatch body catches finalizer =>
    simp only [Node.ofStatement, List.forall_mem_cons, List.forall_mem_append, List.forall_mem_map] at parts
    exact restores_tryCatch parts.1 parts.2.1 fun ss given => parts.2.2 ss (by simpa using given)
  | synchronized lock body =>
    simp only [Node.ofStatement, List.forall_mem_cons] at parts
    refine .tagged fun fuel deep => ?_
    rw [statements_eq_map] at deep ⊢
    generalize form : Json.obj _ = content at deep ⊢
    change (do
      return Statement.synchronized (← required (expressionWithin fuel) content "lock")
        (← required (blockWithin fuel) content "body")) = _
    rw [parts.1.required (by simp [← form]) (by omega), parts.2.1.required (by simp [← form]) (by omega)]
    rfl
  | labeled label body =>
    have inner : (Node.statement body).Restored := parts _ List.mem_cons_self
    refine .tagged fun fuel deep => ?_
    generalize form : Json.obj _ = content at deep ⊢
    change (do
      return Statement.labeled (← required Json.str? content "label")
        (← required (statementWithin fuel) content "body")) = _
    rw [required_str (s := label) (by simp [← form]), inner.required (by simp [← form]) (by omega)]
    rfl

end Statements

section Declarations

theorem restores_note {a : Annotation} (fits : a.origin.Fits ∧ a.type.Fits)
    (parts : ∀ member ∈ a.members, (Node.expression member.value).Restored) : (Node.note a).Restored := by
  obtain ⟨o, type, members⟩ := a
  refine .intro fun fuel deep => ?_
  rw [Encode.note_eq] at deep ⊢
  generalize form : Json.obj _ = json at deep ⊢
  have listed : items (fun m => do
      return (⟨← required Json.str? m "name", ← required (expressionWithin fuel) m "value"⟩ : AnnotationMember))
      json "values" = some members := by
    have found : json.get? "values" = some (.arr (members.map Encode.annotationMember)) := by simp [← form]
    refine items_found found fun member inside => ?_
    have outer := Json.depth_of_get? found
    have inner := Json.depth_of_mem_items (List.mem_map_of_mem (f := Encode.annotationMember) inside)
    obtain ⟨name, value⟩ := member
    have given : (Node.expression value).Restored := parts _ inside
    rw [required_str rfl, given.required rfl (by omega)]
    rfl
  rw [annotationWithin, defaulted_found (by simp [← form]) (origin_encode fits.1),
    required_found (by simp [← form]) (javaType_encode fits.2), listed]
  rfl

theorem restores_parameter {p : Parameter} (fits : p.type.Fits)
    (parts : ∀ a ∈ p.annotations, (Node.note a).Restored) : (Node.parameter p).Restored := by
  obtain ⟨m, marks, type, name⟩ := p
  refine .intro fun fuel deep => ?_
  rw [Encode.parameter_eq] at deep ⊢
  generalize form : Json.obj _ = json at deep ⊢
  rw [parameterWithin, defaulted_found (by simp [← form]) (modifiers_encode m),
    Restores.items parts (by simp [← form]) deep, required_found (by simp [← form]) (javaType_encode fits),
    required_str (s := name) (by simp [← form])]
  rfl

theorem restores_localVariable {decl : LocalVariable} (fits : decl.type.Fits)
    (notes : ∀ a ∈ decl.annotations, (Node.note a).Restored)
    (initial : ∀ e ∈ decl.initial, (Node.expression e).Restored) : (Node.localVariable decl).Restored := by
  obtain ⟨m, marks, type, name, start⟩ := decl
  refine .intro fun fuel deep => ?_
  rw [Encode.localVariable_eq] at deep ⊢
  generalize form : Json.obj _ = json at deep ⊢
  rw [localVariableWithin, defaulted_found (by simp [← form]) (modifiers_encode m),
    Restores.items notes (by simp [← form]) deep, required_found (by simp [← form]) (javaType_encode fits),
    required_str (s := name) (by simp [← form]),
    Restores.optional initial (by simp [← form]) Encode.expression_ne_null deep]
  rfl

theorem restores_field {f : Field} (fits : f.origin.Fits ∧ f.type.Fits)
    (notes : ∀ a ∈ f.annotations, (Node.note a).Restored)
    (initial : ∀ e ∈ f.initial, (Node.expression e).Restored) : (Node.field f).Restored := by
  obtain ⟨o, m, marks, type, name, start⟩ := f
  refine .intro fun fuel deep => ?_
  rw [Encode.field_eq] at deep ⊢
  generalize form : Json.obj _ = json at deep ⊢
  rw [fieldWithin, defaulted_found (by simp [← form]) (origin_encode fits.1),
    defaulted_found (by simp [← form]) (modifiers_encode m),
    Restores.items notes (by simp [← form]) deep, required_found (by simp [← form]) (javaType_encode fits.2),
    required_str (s := name) (by simp [← form]),
    Restores.optional initial (by simp [← form]) Encode.expression_ne_null deep]
  rfl

theorem typeParameters_found {json : Json} {key : String} {parameters : List TypeParameter}
    (found : json.get? key = some (.ofList Encode.typeParameter parameters))
    (fits : ∀ parameter ∈ parameters, parameter.Fits) : items typeParameter json key = some parameters :=
  items_found found fun parameter member => typeParameter_encode (fits parameter member)

theorem types_found {json : Json} {key : String} {types : List JavaType}
    (found : json.get? key = some (.ofList Encode.javaType types)) (fits : ∀ type ∈ types, type.Fits) :
    items javaType json key = some types :=
  items_found found fun type member => javaType_encode (fits type member)

theorem restores_method {m : Method} (fits : (Node.method m).Fits)
    (notes : ∀ a ∈ m.annotations, (Node.note a).Restored) (given : ∀ p ∈ m.parameters, (Node.parameter p).Restored)
    (body : ∀ s ∈ m.body, (Node.statement s).Restored) : (Node.method m).Restored := by
  obtain ⟨o, set, marks, typeParameters, returnType, name, ps, thrown, statements, bodiless, implementing⟩ := m
  obtain ⟨placed, generic, returned, failing⟩ := fits
  refine .intro fun fuel deep => ?_
  rw [Encode.method_eq] at deep ⊢
  generalize form : Json.obj _ = json at deep ⊢
  rw [methodWithin, defaulted_found (by simp [← form]) (origin_encode placed),
    defaulted_found (by simp [← form]) (modifiers_encode set),
    Restores.items notes (by simp [← form]) deep, typeParameters_found (by simp [← form]) generic,
    required_found (by simp [← form]) (javaType_encode returned), required_str (s := name) (by simp [← form]),
    Restores.items given (by simp [← form]) deep, types_found (by simp [← form]) failing,
    Restores.items body (by simp [← form]) deep, defaulted_bool (b := bodiless) (by simp [← form]),
    defaulted_bool (b := implementing) (by simp [← form])]
  rfl

theorem restores_constructor {c : Constructor} (fits : (Node.constructor c).Fits)
    (notes : ∀ a ∈ c.annotations, (Node.note a).Restored) (given : ∀ p ∈ c.parameters, (Node.parameter p).Restored)
    (body : ∀ s ∈ c.body, (Node.statement s).Restored) : (Node.constructor c).Restored := by
  obtain ⟨o, set, marks, typeParameters, name, ps, thrown, statements, implicitSuper⟩ := c
  obtain ⟨placed, generic, failing⟩ := fits
  refine .intro fun fuel deep => ?_
  rw [Encode.constructor_eq] at deep ⊢
  generalize form : Json.obj _ = json at deep ⊢
  rw [constructorWithin, defaulted_found (by simp [← form]) (origin_encode placed),
    defaulted_found (by simp [← form]) (modifiers_encode set),
    Restores.items notes (by simp [← form]) deep, typeParameters_found (by simp [← form]) generic,
    required_str (s := name) (by simp [← form]), Restores.items given (by simp [← form]) deep,
    types_found (by simp [← form]) failing, Restores.items body (by simp [← form]) deep,
    defaulted_bool (b := implicitSuper) (by simp [← form])]
  rfl

theorem restores_initializer {i : Initializer} (fits : i.origin.Fits)
    (body : ∀ s ∈ i.body, (Node.statement s).Restored) : (Node.initializer i).Restored := by
  obtain ⟨o, isStatic, statements⟩ := i
  refine .intro fun fuel deep => ?_
  rw [Encode.initializer_eq] at deep ⊢
  generalize form : Json.obj _ = json at deep ⊢
  have held : object json = some () := form ▸ rfl
  rw [initializerWithin, held, defaulted_found (by simp [← form]) (origin_encode fits),
    defaulted_bool (b := isStatic) (by simp [← form]), Restores.items body (by simp [← form]) deep]
  rfl

theorem restores_constant {c : EnumConstant} (fits : c.origin.Fits)
    (given : ∀ e ∈ c.arguments, (Node.expression e).Restored) : (Node.constant c).Restored := by
  obtain ⟨o, name, arguments⟩ := c
  refine .intro fun fuel deep => ?_
  rw [Encode.constant] at deep ⊢
  generalize form : Json.obj _ = json at deep ⊢
  rw [constantWithin, defaulted_found (by simp [← form]) (origin_encode fits),
    required_str (s := name) (by simp [← form]), Restores.items given (by simp [← form]) deep]
  rfl

theorem restores_type {t : TypeDecl} (fits : (Node.type t).Fits)
    (parts : ∀ child ∈ (Node.type t).children, child.Restored) : (Node.type t).Restored := by
  obtain ⟨o, set, marks, kind, name, typeParameters, superclass, interfaces, ks, fs, is, cs, ms, memberTypes, isLocal,
    isAnonymous⟩ := t
  obtain ⟨placed, generic, extended, implemented⟩ := fits
  simp only [Node.children, List.forall_mem_append, List.forall_mem_map] at parts
  obtain ⟨⟨⟨⟨⟨⟨notes, constants⟩, fields⟩, initializers⟩, constructors⟩, methods⟩, members⟩ := parts
  refine .intro fun fuel deep => ?_
  rw [Encode.typeDecl_eq] at deep ⊢
  generalize form : Json.obj _ = json at deep ⊢
  rw [typeDeclWithin, defaulted_found (by simp [← form]) (origin_encode placed),
    defaulted_found (by simp [← form]) (modifiers_encode set), Restores.items notes (by simp [← form]) deep,
    defaulted_found (by simp [← form]) (typeKind_encode kind), required_str (s := name) (by simp [← form]),
    typeParameters_found (by simp [← form]) generic,
    optional_map (by simp [← form]) javaType_ne_null fun type given => javaType_encode (extended type given),
    types_found (by simp [← form]) implemented, Restores.items constants (by simp [← form]) deep,
    Restores.items fields (by simp [← form]) deep, Restores.items initializers (by simp [← form]) deep,
    Restores.items constructors (by simp [← form]) deep, Restores.items methods (by simp [← form]) deep,
    Restores.items members (by simp [← form]) deep, defaulted_bool (b := isLocal) (by simp [← form]),
    defaulted_bool (b := isAnonymous) (by simp [← form])]
  rfl

theorem restores_unit {u : CompilationUnit} (types : ∀ t ∈ u.types, (Node.type t).Restored) :
    (Node.unit u).Restored := by
  rw [Node.Restored, Encode.unit, typeDecls_eq_map]
  generalize form : Json.obj _ = json
  have held : keyed ["file_name", "package", "imports", "types"] json = json := form ▸ rfl
  have solid : object json = some () := form ▸ rfl
  have fileName : json.get? "file_name" = some (.str u.fileName) := by simp [← form]
  have package : json.get? "package" = u.package.map .str := by simp [← form]
  have imports : json.get? "imports" = some (.arr (u.imports.map .str)) := by simp [← form, Json.ofList]
  have declared : json.get? "types" = some (.arr (u.types.map Encode.typeDecl)) := by simp [← form]
  have declarations : Decode.items typeDecl json "types" = some u.types :=
    items_found declared fun t member => types t member _ (Nat.le_refl _)
  rw [Decode.unit, held, solid, defaulted_found (a := u.fileName) fileName rfl,
    optional_map package (by simp) fun _ _ => rfl, items_found imports fun _ _ => rfl, declarations]
  rfl

end Declarations

/-- Every part of a tree for which the form has room is read back. -/
theorem restored (node : Node) : node.Storable → node.Restored := by
  induction node using Node.induct with
  | step node inductionHypothesis =>
    intro storable
    have fits := storable.fits
    have parts : ∀ child ∈ node.children, child.Restored := fun child member =>
      inductionHypothesis child member (storable.child member)
    cases node with
    | expression e => exact restored_expression fits parts
    | statement s => exact restored_statement parts
    | type t => exact restores_type fits parts
    | unit u => exact restores_unit (by simpa [Node.children] using parts)
    | note a => exact restores_note fits (by simpa [Node.children] using parts)
    | block body => exact restores_block (by simpa [Node.children] using parts)
    | parameter p => exact restores_parameter fits (by simpa [Node.children] using parts)
    | initializer i => exact restores_initializer fits (by simpa [Node.children] using parts)
    | constant c => exact restores_constant fits (by simpa [Node.children] using parts)
    | localVariable decl =>
      simp only [Node.children, List.forall_mem_append, List.forall_mem_map, Option.mem_toList] at parts
      exact restores_localVariable fits parts.1 parts.2
    | field f =>
      simp only [Node.children, List.forall_mem_append, List.forall_mem_map, Option.mem_toList] at parts
      exact restores_field fits parts.1 parts.2
    | method m =>
      simp only [Node.children, List.forall_mem_append, List.forall_mem_map] at parts
      exact restores_method fits parts.1.1 parts.1.2 parts.2
    | constructor c =>
      simp only [Node.children, List.forall_mem_append, List.forall_mem_map] at parts
      exact restores_constructor fits parts.1.1 parts.1.2 parts.2
    | switchCase group =>
      simp only [Node.children, List.forall_mem_append, List.forall_mem_map, Option.mem_toList] at parts
      exact restores_switchCase parts.1 parts.2
    | catchClause clause =>
      simp only [Node.children, List.forall_mem_cons] at parts
      exact restores_catchClause parts.1 parts.2.1

/-- A tree is read back from its JSON form as it was, whatever its root is. -/
theorem decode_encode :
    (∀ u : CompilationUnit, (Node.unit u).Storable → unit (Encode.unit u) = some u) ∧
    (∀ t : TypeDecl, (Node.type t).Storable → typeDecl (Encode.typeDecl t) = some t) ∧
    (∀ m : Method, (Node.method m).Storable → method (Encode.method m) = some m) ∧
    (∀ c : Constructor, (Node.constructor c).Storable → constructor (Encode.constructor c) = some c) ∧
    (∀ f : Field, (Node.field f).Storable → field (Encode.field f) = some f) ∧
    (∀ s : Statement, (Node.statement s).Storable → statement (Encode.statement s) = some s) ∧
    (∀ e : Expression, (Node.expression e).Storable → expression (Encode.expression e) = some e) ∧
    (∀ type : JavaType, type.Fits → javaType (Encode.javaType type) = some type) ∧
    ∀ a : Annotation, (Node.note a).Storable → note (Encode.note a) = some a := by
  refine ⟨fun u => restored (.unit u), fun t storable => ?_, fun m storable => ?_, fun c storable => ?_,
    fun f storable => ?_, fun s storable => ?_, fun e storable => ?_, fun _ => javaType_encode, fun a storable => ?_⟩
  · exact restored (.type t) storable _ (Nat.le_refl _)
  · exact restored (.method m) storable _ (Nat.le_refl _)
  · exact restored (.constructor c) storable _ (Nat.le_refl _)
  · exact restored (.field f) storable _ (Nat.le_refl _)
  · exact restored (.statement s) storable _ (Nat.le_refl _)
  · exact restored (.expression e) storable _ (Nat.le_refl _)
  · exact restored (.note a) storable _ (Nat.le_refl _)

/-- A class whose modifiers and marks have bits without a name, with a constructor that does not call that of the
parent and a field whose value is a negative zero. -/
def unnamedBits : TypeDecl where
  origin := { span := some ⟨7, 4294967295⟩, marks := 0x81 }
  modifiers := ⟨0x8801⟩
  name := "Point"
  superclass := some { name := "Base", arguments := [.extending (.named "T")], dimensions := 2 }
  fields := [{ type := .named "double", name := "x", initial := some (.literal (.double (-0.0))) }]
  constructors := [{ name := "Point", body := [.returns none, .breaks (some "out")], implicitSuper := false }]

theorem decode_encode_unnamedBits : (Node.type unnamedBits).Storable ∧
    typeDecl (Encode.typeDecl unnamedBits) = some unnamedBits := by
  have storable : (Node.type unnamedBits).Storable := by
    simp [Node.Storable, Node.parts_eq, Node.children, Node.ofExpression, Node.ofStatement, unnamedBits, Node.Fits,
      Origin.Fits, JavaType.Fits, JavaType.FitAll, Expression.Fits, Literal.Fits, JavaType.extending, JavaType.named]
    decide
  exact ⟨storable, decode_encode.2.1 unnamedBits storable⟩

end Decode

end JavaWeave.Syntax
