import JavaWeave.Syntax.Tree

/-! Renaming local variables apart. Every local, loop variable and catch parameter of a body gets a name of its
own, and the names that refer to it follow. Declarations inside nested types keep their names and hide outer
ones. -/

namespace JavaWeave.Generator

open Syntax

/-- What is known at a place of a body. -/
structure Scope where
  /-- The declarations in sight and their new names, the nearest first. -/
  bindings : List (String × String) := []
  names : Names.Pool := {}
  /-- The place is inside a nested type. -/
  nested : Bool := false

namespace Scope

/-- A dotted name with its first segment renamed. -/
def rename (scope : Scope) (text : String) : String :=
  match Text.split '.' text with
  | [] => text
  | head :: rest =>
    match scope.bindings.lookup head with
    | none => text
    | some renamed => ".".intercalate (renamed :: rest)

/-- The scope in which names stand for themselves. -/
def hide (scope : Scope) (names : List String) : Scope :=
  { scope with bindings := names.map (fun name => (name, name)) ++ scope.bindings }

/-- The scope inside a nested type that declares the fields. -/
def enter (scope : Scope) (fields : List Field) : Scope :=
  { scope.hide (fields.map (·.name)) with nested := true }

end Scope

/-- Declares a name and gives back its new one. -/
def declareName (name : String) : StateM Scope String := do
  let scope ← get
  if scope.nested then
    set { scope with bindings := (name, name) :: scope.bindings }
    return name
  else
    let (renamed, names) := scope.names.fresh name
    set { scope with bindings := (name, renamed) :: scope.bindings, names }
    return renamed

/-- Runs steps whose declarations are not seen afterwards. -/
def withinBlock (steps : StateM Scope α) : StateM Scope α := do
  let bindings := (← get).bindings
  let result ← steps
  modify fun scope => { scope with bindings }
  return result

mutual

def renameExpression (scope : Scope) : Expression → Expression
  | .name text => .name (scope.rename text)
  | .field receiver name => .field (renameExpression scope receiver) name
  | .element array index => .element (renameExpression scope array) (renameExpression scope index)
  | .call receiver name typeArguments arguments =>
    .call (match receiver with | some e => some (renameExpression scope e) | none => none) name
      typeArguments (renameExpressions scope arguments)
  | .create type arguments body =>
    .create type (renameExpressions scope arguments)
      (match body with | some decl => some (renameType scope decl) | none => none)
  | .createArray element sizes unsized elements =>
    .createArray element (renameExpressions scope sizes) unsized
      (match elements with | some es => some (renameExpressions scope es) | none => none)
  | .arrayElements elements => .arrayElements (renameExpressions scope elements)
  | .binary op left right => .binary op (renameExpression scope left) (renameExpression scope right)
  | .unary op operand => .unary op (renameExpression scope operand)
  | .assign op target value =>
    .assign op (renameExpression scope target) (renameExpression scope value)
  | .instanceOf operand type => .instanceOf (renameExpression scope operand) type
  | .cast type operand => .cast type (renameExpression scope operand)
  | .conditional condition whenTrue whenFalse =>
    .conditional (renameExpression scope condition) (renameExpression scope whenTrue)
      (renameExpression scope whenFalse)
  | .this qualifier => .this qualifier
  | .literal value => .literal value
  | .classLiteral type => .classLiteral type
  | .note note => .note note
  | .verbatim text => .verbatim text

def renameExpressions (scope : Scope) : List Expression → List Expression
  | [] => []
  | e :: rest => renameExpression scope e :: renameExpressions scope rest

def renameStatement : Statement → StateM Scope Statement
  | .block body => do return .block (← renameBody body)
  | .expression e => do return .expression (renameExpression (← get) e)
  | .declare ⟨modifiers, annotations, type, name, initial⟩ => do
    let scope ← get
    let initial := match initial with | some e => some (renameExpression scope e) | none => none
    let name ← declareName name
    return .declare ⟨modifiers, annotations, type, name, initial⟩
  | .ifElse condition whenTrue whenFalse => do
    let condition := renameExpression (← get) condition
    let whenTrue ← renameStatement whenTrue
    let whenFalse ← match whenFalse with
      | some s => some <$> renameStatement s
      | none => pure none
    return .ifElse condition whenTrue whenFalse
  | .whileLoop condition body => do
    let condition := renameExpression (← get) condition
    return .whileLoop condition (← renameStatement body)
  | .doWhile body condition => do
    let body ← renameStatement body
    return .doWhile body (renameExpression (← get) condition)
  | .forLoop start condition update body =>
    withinBlock do
      let start ← renameStatements start
      let scope ← get
      let condition := match condition with | some e => some (renameExpression scope e) | none => none
      let update := renameExpressions scope update
      return .forLoop start condition update (← renameStatement body)
  | .forEach ⟨modifiers, annotations, type, name, initial⟩ iterable body => do
    let iterable := renameExpression (← get) iterable
    withinBlock do
      let name ← declareName name
      return .forEach ⟨modifiers, annotations, type, name, initial⟩ iterable (← renameStatement body)
  | .switch selector cases => do
    let selector := renameExpression (← get) selector
    return .switch selector (← withinBlock (renameCases cases))
  | .tryCatch body catches finalizer => do
    let body ← renameBody body
    let catches ← renameCatches catches
    let finalizer ← match finalizer with
      | some ss => some <$> renameBody ss
      | none => pure none
    return .tryCatch body catches finalizer
  | .synchronized lock body => do
    let lock := renameExpression (← get) lock
    return .synchronized lock (← renameBody body)
  | .returns value => do
    let scope ← get
    return .returns (match value with | some e => some (renameExpression scope e) | none => none)
  | .throws value => do return .throws (renameExpression (← get) value)
  | .labeled label body => do return .labeled label (← renameStatement body)
  | .localType type => do return .localType (renameType (← get) type)
  | .returnsDefault => return .returnsDefault
  | .breaks label => return .breaks label
  | .continues label => return .continues label
  | .empty => return .empty
  | .verbatim text => return .verbatim text

def renameStatements : List Statement → StateM Scope (List Statement)
  | [] => return []
  | s :: rest => do
    let s ← renameStatement s
    return s :: (← renameStatements rest)

/-- Renames statements that are a scope of their own. -/
def renameBody : List Statement → StateM Scope (List Statement)
  | [] => return []
  | s :: rest => withinBlock do
    let s ← renameStatement s
    return s :: (← renameStatements rest)

/-- All groups of a switch share one scope; their labels are constants. -/
def renameCases : List SwitchCase → StateM Scope (List SwitchCase)
  | [] => return []
  | ⟨label, body⟩ :: rest => do
    let body ← renameStatements body
    return ⟨label, body⟩ :: (← renameCases rest)

def renameCatches : List CatchClause → StateM Scope (List CatchClause)
  | [] => return []
  | ⟨⟨modifiers, annotations, type, name⟩, body⟩ :: rest => do
    let clause ← withinBlock do
      let name ← declareName name
      return CatchClause.mk ⟨modifiers, annotations, type, name⟩ (← renameBody body)
    return clause :: (← renameCatches rest)

def renameType (scope : Scope) : TypeDecl → TypeDecl
  | ⟨origin, modifiers, annotations, kind, name, typeParameters, superclass, interfaces, constants, fields,
      initializers, constructors, methods, memberTypes, isLocal, isAnonymous⟩ =>
    let inside := scope.enter fields
    ⟨origin, modifiers, annotations, kind, name, typeParameters, superclass, interfaces,
      renameConstants inside constants, renameFields inside fields,
      renameInitializers inside initializers, renameConstructors inside constructors,
      renameMethods inside methods, renameTypes inside memberTypes, isLocal, isAnonymous⟩

def renameTypes (scope : Scope) : List TypeDecl → List TypeDecl
  | [] => []
  | type :: rest => renameType scope type :: renameTypes scope rest

def renameConstants (scope : Scope) : List EnumConstant → List EnumConstant
  | [] => []
  | ⟨origin, name, arguments⟩ :: rest =>
    ⟨origin, name, renameExpressions scope arguments⟩ :: renameConstants scope rest

def renameFields (scope : Scope) : List Field → List Field
  | [] => []
  | ⟨origin, modifiers, annotations, type, name, initial⟩ :: rest =>
    ⟨origin, modifiers, annotations, type, name,
      match initial with | some e => some (renameExpression scope e) | none => none⟩
      :: renameFields scope rest

def renameInitializers (scope : Scope) : List Initializer → List Initializer
  | [] => []
  | ⟨origin, isStatic, body⟩ :: rest =>
    ⟨origin, isStatic, (renameBody body scope).1⟩ :: renameInitializers scope rest

def renameConstructors (scope : Scope) : List Constructor → List Constructor
  | [] => []
  | ⟨origin, modifiers, annotations, typeParameters, name, parameters, thrown, body, implicitSuper⟩ ::
      rest =>
    ⟨origin, modifiers, annotations, typeParameters, name, parameters, thrown,
      (renameBody body (scope.hide (parameters.map (·.name)))).1, implicitSuper⟩
      :: renameConstructors scope rest

def renameMethods (scope : Scope) : List Method → List Method
  | [] => []
  | ⟨origin, modifiers, annotations, typeParameters, returnType, name, parameters, thrown, body, bodiless,
      implementing⟩ :: rest =>
    ⟨origin, modifiers, annotations, typeParameters, returnType, name, parameters, thrown,
      (renameBody body (scope.hide (parameters.map (·.name)))).1, bodiless, implementing⟩
      :: renameMethods scope rest

end

/-- Gives every declaration of a body a name that no other declaration, parameter or reserved name has. -/
def renameApart (taken : List String) (body : List Statement) : List Statement :=
  (renameBody body { names := .ofList taken }).1

end JavaWeave.Generator
