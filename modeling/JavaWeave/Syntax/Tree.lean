import JavaWeave.Syntax.JavaType
import JavaWeave.Syntax.Modifiers
import JavaWeave.Syntax.Operator

namespace JavaWeave.Syntax

inductive Literal where
  | null
  | bool (value : Bool)
  | int (value : Int32)
  | long (value : Int64)
  | double (value : Float)
  | char (value : Char)
  | string (value : String)
  deriving DecidableEq, Repr, Inhabited

/-- What a type declaration declares. -/
inductive TypeKind where
  | plain
  | interface
  | enum
  deriving DecidableEq, Repr, Inhabited

mutual

inductive Expression where
  /-- A simple or dotted name. -/
  | name (text : String)
  /-- The current object, or that of an enclosing class. -/
  | this (qualifier : Option String)
  | field (receiver : Expression) (name : String)
  | element (array index : Expression)
  /-- A call; without receiver it is unqualified. -/
  | call (receiver : Option Expression) (name : String) (typeArguments : List JavaType)
      (arguments : List Expression)
  /-- An object creation, with the body of an anonymous class if it has one. -/
  | create (type : JavaType) (arguments : List Expression) (body : Option TypeDecl)
  /-- An array creation with sized dimensions, then dimensions without size. -/
  | createArray (element : JavaType) (sizes : List Expression) (unsized : Nat)
      (elements : Option (List Expression))
  | arrayElements (elements : List Expression)
  | binary (op : BinaryOp) (left right : Expression)
  | unary (op : UnaryOp) (operand : Expression)
  | assign (op : Option BinaryOp) (target value : Expression)
  | instanceOf (operand : Expression) (type : JavaType)
  | cast (type : JavaType) (operand : Expression)
  | conditional (condition whenTrue whenFalse : Expression)
  | literal (value : Literal)
  | classLiteral (type : JavaType)
  | note (note : Annotation)
  | verbatim (text : String)

inductive Statement where
  | block (body : List Statement)
  | expression (expression : Expression)
  | declare (decl : LocalVariable)
  | ifElse (condition : Expression) (whenTrue : Statement) (whenFalse : Option Statement)
  | whileLoop (condition : Expression) (body : Statement)
  | doWhile (body : Statement) (condition : Expression)
  | forLoop (start : List Statement) (condition : Option Expression) (update : List Expression)
      (body : Statement)
  | forEach (item : LocalVariable) (iterable : Expression) (body : Statement)
  | switch (selector : Expression) (cases : List SwitchCase)
  | tryCatch (body : List Statement) (catches : List CatchClause) (finalizer : Option (List Statement))
  | synchronized (lock : Expression) (body : List Statement)
  | returns (value : Option Expression)
  /-- A return of the zero value of the enclosing method's type. -/
  | returnsDefault
  | throws (value : Expression)
  | breaks (label : Option String)
  | continues (label : Option String)
  | labeled (label : String) (body : Statement)
  | localType (type : TypeDecl)
  | empty
  | verbatim (text : String)

structure Annotation where
  origin : Origin := {}
  type : JavaType
  members : List AnnotationMember := []

structure AnnotationMember where
  name : String
  value : Expression

/-- A parameter of a method, constructor or catch clause. -/
structure Parameter where
  modifiers : Modifiers := {}
  annotations : List Annotation := []
  type : JavaType
  name : String

structure LocalVariable where
  modifiers : Modifiers := {}
  annotations : List Annotation := []
  type : JavaType
  name : String
  initial : Option Expression := none

structure Field where
  origin : Origin := {}
  modifiers : Modifiers := {}
  annotations : List Annotation := []
  type : JavaType
  name : String
  initial : Option Expression := none

structure Method where
  origin : Origin := {}
  modifiers : Modifiers := {}
  annotations : List Annotation := []
  typeParameters : List TypeParameter := []
  returnType : JavaType
  name : String
  parameters : List Parameter := []
  thrown : List JavaType := []
  body : List Statement := []
  /-- The declaration ends in `;` instead of a body. -/
  bodiless : Bool := false
  /-- The method implements one of a supertype. -/
  implementing : Bool := false

structure Constructor where
  origin : Origin := {}
  modifiers : Modifiers := {}
  annotations : List Annotation := []
  typeParameters : List TypeParameter := []
  name : String
  parameters : List Parameter := []
  thrown : List JavaType := []
  body : List Statement := []
  /-- The body starts with a call of the parent's constructor that is not written. -/
  implicitSuper : Bool := true

structure Initializer where
  origin : Origin := {}
  isStatic : Bool := false
  body : List Statement := []

structure EnumConstant where
  origin : Origin := {}
  name : String
  arguments : List Expression := []

/-- A group of statements behind a label; without label it is the default group. -/
structure SwitchCase where
  label : Option Expression := none
  body : List Statement := []

structure CatchClause where
  parameter : Parameter
  body : List Statement := []

structure TypeDecl where
  origin : Origin := {}
  modifiers : Modifiers := {}
  annotations : List Annotation := []
  kind : TypeKind := .plain
  name : String
  typeParameters : List TypeParameter := []
  superclass : Option JavaType := none
  interfaces : List JavaType := []
  constants : List EnumConstant := []
  fields : List Field := []
  initializers : List Initializer := []
  constructors : List Constructor := []
  methods : List Method := []
  memberTypes : List TypeDecl := []
  isLocal : Bool := false
  isAnonymous : Bool := false

end

instance : Inhabited Expression := ⟨.literal .null⟩
instance : Inhabited Statement := ⟨.empty⟩

/-- One source file. -/
structure CompilationUnit where
  fileName : String := ""
  package : Option String := none
  imports : List String := []
  types : List TypeDecl := []

end JavaWeave.Syntax
