import JavaWeave.Syntax.Tree

namespace JavaWeave

/-- A method as it is seen from outside. -/
structure Signature where
  name : String
  returnType : Syntax.JavaType
  parameters : List Syntax.JavaType
  thrown : List Syntax.JavaType := []
  deriving DecidableEq, Repr

/-- What is known about a type. -/
structure TypeInfo where
  qualifiedName : String
  kind : Syntax.TypeKind
  typeParameters : List String := []
  /-- The names of the direct supertypes. -/
  supertypes : List String := []
  methods : List Signature := []
  deriving DecidableEq, Repr

namespace TypeInfo

def isInterface (info : TypeInfo) : Bool := info.kind == .interface

def simpleName (info : TypeInfo) : String := Names.simple info.qualifiedName

end TypeInfo

/-- Types by name; the first entry of a name counts. -/
structure TypeTable where
  entries : List (String × TypeInfo) := []

namespace TypeTable

def resolve? (table : TypeTable) (name : String) : Option TypeInfo := table.entries.lookup name

/-- Gives a name a new meaning. -/
def insert (table : TypeTable) (name : String) (info : TypeInfo) : TypeTable :=
  ⟨(name, info) :: table.entries⟩

/-- Gives a name a meaning unless it has one. -/
def insertNew (table : TypeTable) (name : String) (info : TypeInfo) : TypeTable :=
  if (table.resolve? name).isSome then table else table.insert name info

/-- The entries of one table, then those of another. -/
def orElse (table other : TypeTable) : TypeTable := ⟨table.entries ++ other.entries⟩

/-- How many supertypes the entries of a table list. -/
def edges (table : TypeTable) : Nat :=
  table.entries.foldl (fun count entry => count + entry.2.supertypes.length) 0

/-- Searches the names in `pending` and what they lead to. Of the supertypes of one type the last listed comes
first, which matters where two names lead to types of one qualified name: that name is expanded once. The fuel
bounds the steps. -/
def searchFrom (table : TypeTable) (ancestor : String) : Nat → List String → List String → Bool
  | 0, _, _ => false
  | _, [], _ => false
  | fuel + 1, current :: pending, expanded =>
    match table.resolve? current with
    | none =>
      Names.denotes current ancestor || Names.denotes ancestor current
        || searchFrom table ancestor fuel pending expanded
    | some info =>
      if Names.denotes info.qualifiedName ancestor then true
      else if expanded.contains info.qualifiedName then searchFrom table ancestor fuel pending expanded
      else
        searchFrom table ancestor fuel (info.supertypes.reverse ++ pending) (info.qualifiedName :: expanded)

/-- Whether a name leads to the ancestor by listed supertypes. Every step takes one name, and a type adds its
supertypes once. -/
def isSubtype (table : TypeTable) (name ancestor : String) : Bool :=
  table.searchFrom ancestor (table.edges + 2) [name] []

def isCollection (table : TypeTable) (type : Syntax.JavaType) : Bool :=
  type.dimensions == 0 && table.isSubtype type.name "java.util.Collection"

def isMap (table : TypeTable) (type : Syntax.JavaType) : Bool :=
  type.dimensions == 0 && table.isSubtype type.name "java.util.Map"

/-- The qualified name of a type inside a package or type. -/
def qualify (outer name : String) : String := if outer.isEmpty then name else outer ++ "." ++ name

/-- What a declaration says about its type. -/
def infoOf (qualifiedName : String) (type : Syntax.TypeDecl) : TypeInfo where
  qualifiedName := qualifiedName
  kind := type.kind
  typeParameters := type.typeParameters.map (·.name)
  supertypes := (type.superclass.toList ++ type.interfaces).map (·.name)
  methods := type.methods.map fun method =>
    { name := method.name, returnType := method.returnType,
      parameters := method.parameters.map (·.type), thrown := method.thrown }

mutual

/-- Adds a declaration and its member types. The simple name keeps an earlier meaning, the qualified name
takes the new one. -/
def addType (table : TypeTable) (outer : String) : Syntax.TypeDecl → TypeTable
  | ⟨origin, modifiers, annotations, kind, name, typeParameters, superclass, interfaces, constants, fields,
      initializers, constructors, methods, memberTypes, isLocal, isAnonymous⟩ =>
    let qualified := qualify outer name
    let info := infoOf qualified
      ⟨origin, modifiers, annotations, kind, name, typeParameters, superclass, interfaces, constants, fields,
        initializers, constructors, methods, memberTypes, isLocal, isAnonymous⟩
    (addTypes (table.insertNew name info) qualified memberTypes).insert qualified info

def addTypes (table : TypeTable) (outer : String) : List Syntax.TypeDecl → TypeTable
  | [] => table
  | type :: rest => addTypes (addType table outer type) outer rest

end

def addUnit (table : TypeTable) (unit : Syntax.CompilationUnit) : TypeTable :=
  addTypes table (unit.package.getD "") unit.types

end TypeTable

end JavaWeave
