import JavaWeave.Json.Value
import JavaWeave.Syntax.Tree

/-! The JSON form of source trees. A node with one of several shapes is an object whose only key names the
shape; members that are absent or empty by default are left out where the form says so. -/

namespace JavaWeave.Syntax.Encode

/-- A member that is left out when there is no value. -/
def optional (key : String) (write : α → Json) : Option α → List (String × Json)
  | none => []
  | some value => [(key, write value)]

/-- A member that is left out when its list is empty. -/
def nonempty (key : String) (write : α → Json) (items : List α) : List (String × Json) :=
  if items.isEmpty then [] else [(key, .ofList write items)]

/-- A node of a named shape. -/
def tagged (tag : String) (content : Json) : Json := .obj [(tag, content)]

def hexDigits (n : Nat) : String := "0x" ++ String.ofList (Nat.toDigits 16 n)

/-- The names of modifiers in the JSON form. -/
def modifierName (modifier : Modifier) : String :=
  String.ofList (modifier.keyword.toList.flatMap Text.upper)

/-- The bits of a set that belong to no modifier. -/
def unnamedBits (set : Modifiers) : UInt16 := set.bits &&& ~~~(0x7FF : UInt16)

/-- A set of modifiers: its names in the order of their bits, then the other bits as one number. -/
def modifiers (set : Modifiers) : Json :=
  let names := (Modifier.all.filter set.has).map modifierName
  let rest := unnamedBits set
  .str (" | ".intercalate (names ++ if rest == 0 then [] else [hexDigits rest.toNat]))

/-- The marks of an origin, in the same form. -/
def marks (bits : UInt8) : Json :=
  let rest := bits &&& ~~~Origin.synthesized
  let names := if bits &&& Origin.synthesized == Origin.synthesized then ["SYNTHESIZED"] else []
  .str (" | ".intercalate (names ++ if rest == 0 then [] else [hexDigits rest.toNat]))

def access : Access → Json
  | .publicAccess => .str "Public"
  | .protectedAccess => .str "Protected"
  | .packageAccess => .str "Package"
  | .privateAccess => .str "Private"
  | .nothing => .str "None"

def span (span : Span) : Json := .obj [("start", .nat span.start), ("length", .nat span.length)]

def origin (o : Origin) : Json :=
  .obj (optional "span" span o.span ++ if o.marks == 0 then [] else [("flags", marks o.marks)])

def binaryOp (op : BinaryOp) : Json :=
  .str (match op with
    | .add => "Add" | .sub => "Sub" | .mul => "Mul" | .div => "Div" | .rem => "Rem"
    | .and => "And" | .or => "Or"
    | .bitAnd => "BitAnd" | .bitOr => "BitOr" | .bitXor => "BitXor"
    | .shl => "Shl" | .shr => "Shr" | .ushr => "UShr"
    | .eq => "Eq" | .ne => "Ne" | .lt => "Lt" | .le => "Le" | .gt => "Gt" | .ge => "Ge")

def unaryOp (op : UnaryOp) : Json :=
  .str (match op with
    | .not => "Not" | .neg => "Neg" | .plus => "Plus" | .bitNot => "BitNot"
    | .preInc => "PreInc" | .preDec => "PreDec" | .postInc => "PostInc" | .postDec => "PostDec")

def wildcard : Wildcard → Json
  | .unbound => .str "Unbound"
  | .upper => .str "Extends"
  | .lower => .str "Super"

mutual

def javaType : JavaType → Json
  | ⟨name, arguments, dimensions, w⟩ =>
    .obj (("name", .str name)
      :: ((if arguments.isEmpty then [] else [("type_args", .arr (javaTypes arguments))])
        ++ (if dimensions = 0 then [] else [("dims", .nat dimensions)])
        ++ optional "wildcard" wildcard w))

def javaTypes : List JavaType → List Json
  | [] => []
  | type :: rest => javaType type :: javaTypes rest

end

def typeParameter (parameter : TypeParameter) : Json :=
  .obj (("name", .str parameter.name) :: nonempty "bounds" javaType parameter.bounds)

/-- A double that JSON has no number for is written as `null`. -/
def double (x : Float) : Json := if x.isNaN || x.isInf then .null else .float x

def literal : Literal → Json
  | .null => .str "Null"
  | .bool value => tagged "Bool" (.bool value)
  | .int value => tagged "Int" (.int value.toInt)
  | .long value => tagged "Long" (.int value.toInt)
  | .double value => tagged "Double" (double value)
  | .char value => tagged "Char" (.str (String.singleton value))
  | .string value => tagged "String" (.str value)

def typeKind : TypeKind → Json
  | .plain => .str "Class"
  | .interface => .str "Interface"
  | .enum => .str "Enum"

def label : Option String → Json := .ofOption .str

/-- A block of statements that are already encoded. -/
def block (body : List Json) : Json := .obj [("statements", .arr body)]

mutual

def expression : Expression → Json
  | .name text => tagged "Name" (.str text)
  | .this qualifier => tagged "This" (label qualifier)
  | .field receiver name =>
    tagged "FieldRef" (.obj [("receiver", expression receiver), ("name", .str name)])
  | .element array index =>
    tagged "ArrayRef" (.obj [("array", expression array), ("index", expression index)])
  | .call receiver name typeArguments arguments =>
    tagged "Call" (.obj ((match receiver with | some e => [("receiver", expression e)] | none => [])
      ++ [("name", .str name)] ++ nonempty "type_args" javaType typeArguments
      ++ [("args", .arr (expressions arguments))]))
  | .create type arguments body =>
    tagged "New" (.obj ([("ty", javaType type), ("args", .arr (expressions arguments))]
      ++ (match body with | some decl => [("body", typeDecl decl)] | none => [])))
  | .createArray element sizes unsized elements =>
    tagged "NewArray" (.obj ([("ty", javaType element), ("dims", .arr (expressions sizes)),
        ("extra_dims", .nat unsized)]
      ++ (match elements with
        | some es => [("init", .obj [("elements", .arr (expressions es))])]
        | none => [])))
  | .arrayElements elements => tagged "ArrayInit" (.obj [("elements", .arr (expressions elements))])
  | .binary op left right =>
    tagged "Binary" (.obj [("op", binaryOp op), ("left", expression left), ("right", expression right)])
  | .unary op operand => tagged "Unary" (.obj [("op", unaryOp op), ("operand", expression operand)])
  | .assign op target value =>
    tagged "Assign" (.obj (optional "op" binaryOp op
      ++ [("target", expression target), ("value", expression value)]))
  | .instanceOf operand type =>
    tagged "InstanceOf" (.obj [("expr", expression operand), ("ty", javaType type)])
  | .cast type operand => tagged "Cast" (.obj [("ty", javaType type), ("expr", expression operand)])
  | .conditional condition whenTrue whenFalse =>
    tagged "Conditional" (.obj [("cond", expression condition), ("then", expression whenTrue),
      ("otherwise", expression whenFalse)])
  | .literal value => tagged "Literal" (literal value)
  | .classLiteral type => tagged "ClassLiteral" (javaType type)
  | .note a => tagged "Annotation" (note a)
  | .verbatim text => tagged "Wrapped" (.obj [("text", .str text)])

def expressions : List Expression → List Json
  | [] => []
  | e :: rest => expression e :: expressions rest

def note : Annotation → Json
  | ⟨o, type, members⟩ =>
    .obj [("data", origin o), ("ty", javaType type), ("values", .arr (annotationMembers members))]

def annotationMembers : List AnnotationMember → List Json
  | [] => []
  | ⟨name, value⟩ :: rest =>
    .obj [("name", .str name), ("value", expression value)] :: annotationMembers rest

def annotations : List Annotation → List Json
  | [] => []
  | a :: rest => note a :: annotations rest

def parameter : Parameter → Json
  | ⟨m, marks, type, name⟩ =>
    .obj [("modifiers", modifiers m), ("annotations", .arr (annotations marks)),
      ("ty", javaType type), ("name", .str name)]

def parameters : List Parameter → List Json
  | [] => []
  | p :: rest => parameter p :: parameters rest

def localVariable : LocalVariable → Json
  | ⟨m, marks, type, name, initial⟩ =>
    .obj ([("modifiers", modifiers m), ("annotations", .arr (annotations marks)),
        ("ty", javaType type), ("name", .str name)]
      ++ (match initial with | some e => [("init", expression e)] | none => []))

def statement : Statement → Json
  | .block body => tagged "Block" (block (statements body))
  | .expression e => tagged "Expression" (expression e)
  | .declare decl => tagged "LocalDecl" (localVariable decl)
  | .ifElse condition whenTrue whenFalse =>
    tagged "If" (.obj ([("cond", expression condition), ("then", statement whenTrue)]
      ++ (match whenFalse with | some s => [("otherwise", statement s)] | none => [])))
  | .whileLoop condition body =>
    tagged "While" (.obj [("cond", expression condition), ("body", statement body)])
  | .doWhile body condition =>
    tagged "DoWhile" (.obj [("body", statement body), ("cond", expression condition)])
  | .forLoop start condition update body =>
    tagged "For" (.obj ([("init", .arr (statements start))]
      ++ (match condition with | some e => [("cond", expression e)] | none => [])
      ++ [("update", .arr (expressions update)), ("body", statement body)]))
  | .forEach item iterable body =>
    tagged "Foreach" (.obj [("var", localVariable item), ("iterable", expression iterable),
      ("body", statement body)])
  | .switch selector cases =>
    tagged "Switch" (.obj [("selector", expression selector), ("cases", .arr (switchCases cases))])
  | .tryCatch body catches finalizer =>
    tagged "Try" (.obj ([("body", block (statements body)), ("catches", .arr (catchClauses catches))]
      ++ (match finalizer with | some ss => [("finally", block (statements ss))] | none => [])))
  | .synchronized lock body =>
    tagged "Synchronized" (.obj [("lock", expression lock), ("body", block (statements body))])
  | .returns value =>
    tagged "Return" (match value with | some e => expression e | none => .null)
  | .returnsDefault => .str "ReturnDefault"
  | .throws value => tagged "Throw" (expression value)
  | .breaks target => tagged "Break" (label target)
  | .continues target => tagged "Continue" (label target)
  | .labeled name body => tagged "Labeled" (.obj [("label", .str name), ("body", statement body)])
  | .localType decl => tagged "LocalClass" (typeDecl decl)
  | .empty => .str "Empty"
  | .verbatim text => tagged "Wrapped" (.obj [("text", .str text)])

def statements : List Statement → List Json
  | [] => []
  | s :: rest => statement s :: statements rest

def switchCases : List SwitchCase → List Json
  | [] => []
  | ⟨caseLabel, body⟩ :: rest =>
    .obj ((match caseLabel with | some e => [("label", expression e)] | none => [])
      ++ [("statements", .arr (statements body))]) :: switchCases rest

def catchClauses : List CatchClause → List Json
  | [] => []
  | ⟨p, body⟩ :: rest =>
    .obj [("param", parameter p), ("body", block (statements body))] :: catchClauses rest

def field : Field → Json
  | ⟨o, m, marks, type, name, initial⟩ =>
    .obj ([("data", origin o), ("modifiers", modifiers m), ("annotations", .arr (annotations marks)),
        ("ty", javaType type), ("name", .str name)]
      ++ (match initial with | some e => [("init", expression e)] | none => []))

def fields : List Field → List Json
  | [] => []
  | f :: rest => field f :: fields rest

def method : Method → Json
  | ⟨o, m, marks, typeParameters, returnType, name, ps, thrown, body, bodiless, implementing⟩ =>
    .obj [("data", origin o), ("modifiers", modifiers m), ("annotations", .arr (annotations marks)),
      ("type_params", .ofList typeParameter typeParameters), ("return_type", javaType returnType),
      ("name", .str name), ("args", .arr (parameters ps)), ("thrown", .ofList javaType thrown),
      ("statements", .arr (statements body)), ("no_body", .bool bodiless),
      ("implementing", .bool implementing)]

def methods : List Method → List Json
  | [] => []
  | m :: rest => method m :: methods rest

def constructor : Constructor → Json
  | ⟨o, m, marks, typeParameters, name, ps, thrown, body, implicitSuper⟩ =>
    .obj [("data", origin o), ("modifiers", modifiers m), ("annotations", .arr (annotations marks)),
      ("type_params", .ofList typeParameter typeParameters), ("name", .str name),
      ("args", .arr (parameters ps)), ("thrown", .ofList javaType thrown),
      ("statements", .arr (statements body)), ("implicit_super", .bool implicitSuper)]

def constructors : List Constructor → List Json
  | [] => []
  | c :: rest => constructor c :: constructors rest

def initializer : Initializer → Json
  | ⟨o, isStatic, body⟩ =>
    .obj [("data", origin o), ("is_static", .bool isStatic), ("statements", .arr (statements body))]

def initializers : List Initializer → List Json
  | [] => []
  | i :: rest => initializer i :: initializers rest

def constants : List EnumConstant → List Json
  | [] => []
  | ⟨o, name, arguments⟩ :: rest =>
    .obj [("data", origin o), ("name", .str name), ("args", .arr (expressions arguments))]
      :: constants rest

def typeDecl : TypeDecl → Json
  | ⟨o, m, marks, kind, name, typeParameters, superclass, interfaces, ks, fs, is, cs, ms, memberTypes,
      isLocal, isAnonymous⟩ =>
    .obj ([("data", origin o), ("modifiers", modifiers m), ("annotations", .arr (annotations marks)),
        ("kind", typeKind kind), ("name", .str name),
        ("type_params", .ofList typeParameter typeParameters)]
      ++ optional "superclass" javaType superclass
      ++ [("interfaces", .ofList javaType interfaces), ("enum_constants", .arr (constants ks)),
        ("fields", .arr (fields fs)), ("initializers", .arr (initializers is)),
        ("constructors", .arr (constructors cs)), ("methods", .arr (methods ms)),
        ("member_types", .arr (typeDecls memberTypes)), ("local", .bool isLocal),
        ("anonymous", .bool isAnonymous)])

def typeDecls : List TypeDecl → List Json
  | [] => []
  | decl :: rest => typeDecl decl :: typeDecls rest

end

def unit (u : CompilationUnit) : Json :=
  .obj ([("file_name", .str u.fileName)] ++ optional "package" .str u.package
    ++ [("imports", .ofList .str u.imports), ("types", .arr (typeDecls u.types))])

end JavaWeave.Syntax.Encode
