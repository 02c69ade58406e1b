import JavaWeave.Decimal.Binary64
import JavaWeave.Json.Value
import JavaWeave.Syntax.Tree
import JavaWeave.Text.Runs

/-! Reading source trees from their JSON form. A reader gives nothing for a value that is not of the form.

Readers of nested nodes take fuel; the depth of the value is always enough, since each level of a node lies at
least one level deeper in the value. -/

namespace JavaWeave.Syntax.Decode

/-- A member that has to be there. -/
def required (read : Json → Option α) (json : Json) (key : String) : Option α :=
  (json.get? key).bind read

/-- A member that may be missing or `null`. -/
def optional (read : Json → Option α) (json : Json) (key : String) : Option (Option α) :=
  match json.given? key with
  | none => some none
  | some value => (read value).map some

/-- A member that stands for a default when it is missing. -/
def defaulted (standard : α) (read : Json → Option α) (json : Json) (key : String) : Option α :=
  match json.get? key with
  | none => some standard
  | some value => read value

def list (read : Json → Option α) : Json → Option (List α)
  | .arr items => items.mapM read
  | _ => none

/-- A list that is empty when its member is missing. -/
def items (read : Json → Option α) (json : Json) (key : String) : Option (List α) :=
  defaulted [] (list read) json key

/-- Succeeds on objects only. -/
def object : Json → Option Unit
  | .obj _ => some ()
  | _ => none

/-- The name of a node's shape and its content; a shape without content may be a bare string. -/
def shape : Json → Option (String × Option Json)
  | .str tag => some (tag, none)
  | .obj [(tag, content)] => some (tag, some content)
  | _ => none

/-- A value of one of finitely many names. -/
def choice (names : List (String × α)) (json : Json) : Option α :=
  match shape json with
  | some (tag, none) | some (tag, some .null) => names.lookup tag
  | _ => none

/-- A number below a bound. -/
def below (bound : Nat) (json : Json) : Option Nat :=
  json.nat?.filter (· < bound)

/-- A natural number of 32 bits. -/
def word : Json → Option Nat := below (Nat.pow 2 32)

def hexDigit? (c : Char) : Option Nat :=
  if '0' ≤ c ∧ c ≤ '9' then some (c.toNat - '0'.toNat)
  else if 'a' ≤ c ∧ c ≤ 'f' then some (c.toNat - 'a'.toNat + 10)
  else if 'A' ≤ c ∧ c ≤ 'F' then some (c.toNat - 'A'.toNat + 10)
  else none

/-- Hexadecimal digits after an optional plus sign, below a bound. -/
def hex? (bound : Nat) (digits : List Char) : Option Nat :=
  let digits := match digits with
    | '+' :: rest => rest
    | _ => digits
  if digits.isEmpty then none
  else
    (digits.foldlM (fun n c => (hexDigit? c).map (n * 16 + ·)) 0).filter (· < bound)

/-- The bits named by one part of a set: a name, or a number after `0x`. -/
def flag (names : List (String × Nat)) (bound : Nat) (part : String) : Option Nat :=
  match part.toList with
  | '0' :: 'x' :: digits => hex? bound digits
  | _ => names.lookup part

/-- A set of bits: nothing, or parts between bars. -/
def flags (names : List (String × Nat)) (bound : Nat) : Json → Option Nat
  | .str text =>
    if (Text.strip text).isEmpty then some 0
    else
      (Text.split '|' text).foldlM (fun bits part => (flag names bound (Text.strip part)).map (bits ||| ·)) 0
  | _ => none

def modifierNames : List (String × Nat) :=
  [("PUBLIC", 1), ("PRIVATE", 2), ("PROTECTED", 4), ("STATIC", 8), ("FINAL", 16), ("ABSTRACT", 32),
   ("SYNCHRONIZED", 64), ("TRANSIENT", 128), ("VOLATILE", 256), ("NATIVE", 512), ("STRICTFP", 1024),
   ("ACCESS", 7)]

def modifiers (json : Json) : Option Modifiers :=
  (flags modifierNames (Nat.pow 2 16) json).map fun bits => ⟨UInt16.ofNat bits⟩

def marks (json : Json) : Option UInt8 :=
  (flags [("SYNTHESIZED", 1)] (Nat.pow 2 8) json).map UInt8.ofNat

def access : Json → Option Access :=
  choice [("Public", .publicAccess), ("Protected", .protectedAccess), ("Package", .packageAccess),
    ("Private", .privateAccess), ("None", .nothing)]

def span (json : Json) : Option Span := do
  return ⟨← required word json "start", ← required word json "length"⟩

def origin (json : Json) : Option Origin := do
  object json
  return { span := ← optional span json "span", marks := ← defaulted 0 marks json "flags" }

def binaryOp : Json → Option BinaryOp :=
  choice [("Add", .add), ("Sub", .sub), ("Mul", .mul), ("Div", .div), ("Rem", .rem), ("And", .and),
    ("Or", .or), ("BitAnd", .bitAnd), ("BitOr", .bitOr), ("BitXor", .bitXor), ("Shl", .shl),
    ("Shr", .shr), ("UShr", .ushr), ("Eq", .eq), ("Ne", .ne), ("Lt", .lt), ("Le", .le), ("Gt", .gt),
    ("Ge", .ge)]

def unaryOp : Json → Option UnaryOp :=
  choice [("Not", .not), ("Neg", .neg), ("Plus", .plus), ("BitNot", .bitNot), ("PreInc", .preInc),
    ("PreDec", .preDec), ("PostInc", .postInc), ("PostDec", .postDec)]

def wildcard : Json → Option Wildcard :=
  choice [("Unbound", .unbound), ("Extends", .upper), ("Super", .lower)]

def typeKind : Json → Option TypeKind :=
  choice [("Class", .plain), ("Interface", .interface), ("Enum", .enum)]

def javaTypeWithin : Nat → Json → Option JavaType
  | 0, _ => none
  | fuel + 1, json => do
    return {
      name := ← required Json.str? json "name"
      arguments := ← items (javaTypeWithin fuel) json "type_args"
      dimensions := ← defaulted 0 word json "dims"
      wildcard := ← optional wildcard json "wildcard" }

def javaType (json : Json) : Option JavaType := javaTypeWithin json.depth json

def typeParameter (json : Json) : Option TypeParameter := do
  return { name := ← required Json.str? json "name", bounds := ← items javaType json "bounds" }

/-- A whole number of a fixed width. -/
def signed (bits : Nat) : Json → Option Int
  | .int value =>
    let bound : Int := Nat.pow 2 (bits - 1)
    if -bound ≤ value ∧ value < bound then some value else none
  | _ => none

def double : Json → Option Float
  | .float value => some value
  | .int (.ofNat value) => some (Decimal.nearest false value 0)
  | .int (.negSucc value) => some (Decimal.nearest true (value + 1) 0)
  | _ => none

def char (json : Json) : Option Char :=
  match json.str?.map String.toList with
  | some [c] => some c
  | _ => none

def literal (json : Json) : Option Literal :=
  match shape json with
  | some ("Null", none) | some ("Null", some .null) => some .null
  | some ("Bool", some content) => content.bool?.map .bool
  | some ("Int", some content) => (signed 32 content).map fun n => .int (Int32.ofInt n)
  | some ("Long", some content) => (signed 64 content).map fun n => .long (Int64.ofInt n)
  | some ("Double", some content) => (double content).map .double
  | some ("Char", some content) => (char content).map .char
  | some ("String", some content) => content.str?.map .string
  | _ => none

/-- A text or `null`. -/
def label : Json → Option (Option String)
  | .null => some none
  | .str text => some (some text)
  | _ => none

mutual

def expressionWithin : Nat → Json → Option Expression
  | 0, _ => none
  | fuel + 1, json =>
    let expression := expressionWithin fuel
    match shape json with
    | some ("Name", some c) => c.str?.map .name
    | some ("This", some c) => (label c).map .this
    | some ("FieldRef", some c) => do
      return .field (← required expression c "receiver") (← required Json.str? c "name")
    | some ("ArrayRef", some c) => do
      return .element (← required expression c "array") (← required expression c "index")
    | some ("Call", some c) => do
      return .call (← optional expression c "receiver") (← required Json.str? c "name")
        (← items javaType c "type_args") (← items expression c "args")
    | some ("New", some c) => do
      return .create (← required javaType c "ty") (← items expression c "args")
        (← optional (typeDeclWithin fuel) c "body")
    | some ("NewArray", some c) => do
      return .createArray (← required javaType c "ty") (← items expression c "dims")
        (← defaulted 0 word c "extra_dims")
        (← optional (fun i => (object i).bind fun _ => items expression i "elements") c "init")
    | some ("ArrayInit", some c) => do
      object c
      return .arrayElements (← items expression c "elements")
    | some ("Binary", some c) => do
      return .binary (← required binaryOp c "op") (← required expression c "left")
        (← required expression c "right")
    | some ("Unary", some c) => do
      return .unary (← required unaryOp c "op") (← required expression c "operand")
    | some ("Assign", some c) => do
      return .assign (← optional binaryOp c "op") (← required expression c "target")
        (← required expression c "value")
    | some ("InstanceOf", some c) => do
      return .instanceOf (← required expression c "expr") (← required javaType c "ty")
    | some ("Cast", some c) => do
      return .cast (← required javaType c "ty") (← required expression c "expr")
    | some ("Conditional", some c) => do
      return .conditional (← required expression c "cond") (← required expression c "then")
        (← required expression c "otherwise")
    | some ("Literal", some c) => (literal c).map .literal
    | some ("ClassLiteral", some c) => (javaType c).map .classLiteral
    | some ("Annotation", some c) => (annotationWithin fuel c).map .note
    | some ("Wrapped", some c) => (required Json.str? c "text").map .verbatim
    | _ => none

def annotationWithin : Nat → Json → Option Annotation
  | 0, _ => none
  | fuel + 1, json => do
    return {
      origin := ← defaulted {} origin json "data"
      type := ← required javaType json "ty"
      members := ← items
        (fun m => do
          return ⟨← required Json.str? m "name", ← required (expressionWithin fuel) m "value"⟩)
        json "values" }

def parameterWithin : Nat → Json → Option Parameter
  | 0, _ => none
  | fuel + 1, json => do
    return {
      modifiers := ← defaulted {} modifiers json "modifiers"
      annotations := ← items (annotationWithin fuel) json "annotations"
      type := ← required javaType json "ty"
      name := ← required Json.str? json "name" }

def localVariableWithin : Nat → Json → Option LocalVariable
  | 0, _ => none
  | fuel + 1, json => do
    return {
      modifiers := ← defaulted {} modifiers json "modifiers"
      annotations := ← items (annotationWithin fuel) json "annotations"
      type := ← required javaType json "ty"
      name := ← required Json.str? json "name"
      initial := ← optional (expressionWithin fuel) json "init" }

def blockWithin : Nat → Json → Option (List Statement)
  | 0, _ => none
  | fuel + 1, json => do
    object json
    items (statementWithin fuel) json "statements"

def statementWithin : Nat → Json → Option Statement
  | 0, _ => none
  | fuel + 1, json =>
    let expression := expressionWithin fuel
    let statement := statementWithin fuel
    let block := blockWithin fuel
    match shape json with
    | some ("Block", some c) => (block c).map .block
    | some ("Expression", some c) => (expression c).map .expression
    | some ("LocalDecl", some c) => (localVariableWithin fuel c).map .declare
    | some ("If", some c) => do
      return .ifElse (← required expression c "cond") (← required statement c "then")
        (← optional statement c "otherwise")
    | some ("While", some c) => do
      return .whileLoop (← required expression c "cond") (← required statement c "body")
    | some ("DoWhile", some c) => do
      return .doWhile (← required statement c "body") (← required expression c "cond")
    | some ("For", some c) => do
      return .forLoop (← items statement c "init") (← optional expression c "cond")
        (← items expression c "update") (← required statement c "body")
    | some ("Foreach", some c) => do
      return .forEach (← required (localVariableWithin fuel) c "var")
        (← required expression c "iterable") (← required statement c "body")
    | some ("Switch", some c) => do
      return .switch (← required expression c "selector")
        (← items
          (fun g => do
            object g
            return ⟨← optional expression g "label", ← items statement g "statements"⟩)
          c "cases")
    | some ("Try", some c) => do
      return .tryCatch (← required block c "body")
        (← items
          (fun g => do
            return ⟨← required (parameterWithin fuel) g "param", ← required block g "body"⟩)
          c "catches")
        (← optional block c "finally")
    | some ("Synchronized", some c) => do
      return .synchronized (← required expression c "lock") (← required block c "body")
    | some ("Return", some .null) => some (.returns none)
    | some ("Return", some c) => (expression c).map fun e => .returns (some e)
    | some ("ReturnDefault", none) | some ("ReturnDefault", some .null) => some .returnsDefault
    | some ("Throw", some c) => (expression c).map .throws
    | some ("Break", some c) => (label c).map .breaks
    | some ("Continue", some c) => (label c).map .continues
    | some ("Labeled", some c) => do
      return .labeled (← required Json.str? c "label") (← required statement c "body")
    | some ("LocalClass", some c) => (typeDeclWithin fuel c).map .localType
    | some ("Empty", none) | some ("Empty", some .null) => some .empty
    | some ("Wrapped", some c) => (required Json.str? c "text").map .verbatim
    | _ => none

def fieldWithin : Nat → Json → Option Field
  | 0, _ => none
  | fuel + 1, json => do
    return {
      origin := ← defaulted {} origin json "data"
      modifiers := ← defaulted {} modifiers json "modifiers"
      annotations := ← items (annotationWithin fuel) json "annotations"
      type := ← required javaType json "ty"
      name := ← required Json.str? json "name"
      initial := ← optional (expressionWithin fuel) json "init" }

def methodWithin : Nat → Json → Option Method
  | 0, _ => none
  | fuel + 1, json => do
    return {
      origin := ← defaulted {} origin json "data"
      modifiers := ← defaulted {} modifiers json "modifiers"
      annotations := ← items (annotationWithin fuel) json "annotations"
      typeParameters := ← items typeParameter json "type_params"
      returnType := ← required javaType json "return_type"
      name := ← required Json.str? json "name"
      parameters := ← items (parameterWithin fuel) json "args"
      thrown := ← items javaType json "thrown"
      body := ← items (statementWithin fuel) json "statements"
      bodiless := ← defaulted false Json.bool? json "no_body"
      implementing := ← defaulted false Json.bool? json "implementing" }

def constructorWithin : Nat → Json → Option Constructor
  | 0, _ => none
  | fuel + 1, json => do
    return {
      origin := ← defaulted {} origin json "data"
      modifiers := ← defaulted {} modifiers json "modifiers"
      annotations := ← items (annotationWithin fuel) json "annotations"
      typeParameters := ← items typeParameter json "type_params"
      name := ← required Json.str? json "name"
      parameters := ← items (parameterWithin fuel) json "args"
      thrown := ← items javaType json "thrown"
      body := ← items (statementWithin fuel) json "statements"
      implicitSuper := ← defaulted true Json.bool? json "implicit_super" }

def initializerWithin : Nat → Json → Option Initializer
  | 0, _ => none
  | fuel + 1, json => do
    object json
    return {
      origin := ← defaulted {} origin json "data"
      isStatic := ← defaulted false Json.bool? json "is_static"
      body := ← items (statementWithin fuel) json "statements" }

def constantWithin : Nat → Json → Option EnumConstant
  | 0, _ => none
  | fuel + 1, json => do
    return {
      origin := ← defaulted {} origin json "data"
      name := ← required Json.str? json "name"
      arguments := ← items (expressionWithin fuel) json "args" }

def typeDeclWithin : Nat → Json → Option TypeDecl
  | 0, _ => none
  | fuel + 1, json => do
    return {
      origin := ← defaulted {} origin json "data"
      modifiers := ← defaulted {} modifiers json "modifiers"
      annotations := ← items (annotationWithin fuel) json "annotations"
      kind := ← defaulted .plain typeKind json "kind"
      name := ← required Json.str? json "name"
      typeParameters := ← items typeParameter json "type_params"
      superclass := ← optional javaType json "superclass"
      interfaces := ← items javaType json "interfaces"
      constants := ← items (constantWithin fuel) json "enum_constants"
      fields := ← items (fieldWithin fuel) json "fields"
      initializers := ← items (initializerWithin fuel) json "initializers"
      constructors := ← items (constructorWithin fuel) json "constructors"
      methods := ← items (methodWithin fuel) json "methods"
      memberTypes := ← items (typeDeclWithin fuel) json "member_types"
      isLocal := ← defaulted false Json.bool? json "local"
      isAnonymous := ← defaulted false Json.bool? json "anonymous" }

end

def expression (json : Json) : Option Expression := expressionWithin json.depth json

def note (json : Json) : Option Annotation := annotationWithin json.depth json

def statement (json : Json) : Option Statement := statementWithin json.depth json

def field (json : Json) : Option Field := fieldWithin json.depth json

def method (json : Json) : Option Method := methodWithin json.depth json

def constructor (json : Json) : Option Constructor := constructorWithin json.depth json

def initializer (json : Json) : Option Initializer := initializerWithin json.depth json

def constant (json : Json) : Option EnumConstant := constantWithin json.depth json

def parameter (json : Json) : Option Parameter := parameterWithin json.depth json

def typeDecl (json : Json) : Option TypeDecl := typeDeclWithin json.depth json

/-- An object whose members are listed in order without their keys, as far as they are given. -/
def keyed (keys : List String) : Json → Json
  | .arr items => if items.length ≤ keys.length then .obj (keys.zip items) else .arr items
  | json => json

/-- A source file. Every member may be left out, and the keys may be left out together. -/
def unit (json : Json) : Option CompilationUnit := do
  let json := keyed ["file_name", "package", "imports", "types"] json
  object json
  return {
    fileName := ← defaulted "" Json.str? json "file_name"
    package := ← optional Json.str? json "package"
    imports := ← items Json.str? json "imports"
    types := ← items typeDecl json "types" }

end JavaWeave.Syntax.Decode
