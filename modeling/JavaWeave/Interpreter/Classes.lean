import JavaWeave.Interpreter.Library
import JavaWeave.Interpreter.Value
import JavaWeave.Syntax.Build
import JavaWeave.Syntax.Revision

namespace JavaWeave.Interpreter

open Syntax

/-- What the name of a type stands for. -/
inductive ClassRef where
  | user (id : ClassId)
  /-- A library type by its simple name. -/
  | library (name : String)
  deriving DecidableEq, Repr

/-- Where a class is declared. -/
inductive Nesting where
  | topLevel
  | member
  | inCode
  | anonymous
  deriving DecidableEq, Repr

/-- How far the static part of a class is initialized. -/
inductive Stage where
  | pending
  | running
  | done
  deriving DecidableEq, Repr

/-- The part of a class that changes while the program runs. -/
structure ClassState where
  stage : Stage := .pending
  statics : Bindings Value := []
  /-- The constants of an enum that exist so far, in their order. -/
  constants : List Value := []
  deriving Inhabited

structure ClassInfo where
  decl : TypeDecl
  qualifiedName : String
  nesting : Nesting
  /-- The classes around the declaration, from the nearest on. -/
  enclosing : List ClassId := []
  superclass : Option ClassRef := none
  /-- The names of the interfaces. -/
  interfaces : List String := []
  members : Bindings ClassId := []
  state : ClassState := {}

instance : Inhabited ClassInfo := ⟨{ decl := { name := "" }, qualifiedName := "", nesting := .topLevel }⟩

namespace ClassInfo

/-- The simple name; an anonymous class has its qualified name only. -/
def name (info : ClassInfo) : String :=
  if info.decl.name.isEmpty then info.qualifiedName else info.decl.name

/-- Whether objects of the class have an enclosing object. -/
def isInner (info : ClassInfo) : Bool :=
  match info.nesting with
  | .topLevel => false
  | .member => info.decl.kind == .plain && !info.decl.isStatic
  | .inCode | .anonymous => true

end ClassInfo

/-- Static fields; every field of an interface is one. -/
def staticFields (decl : TypeDecl) : List Field :=
  decl.fields.filter fun field => field.isStatic || decl.isInterface

def instanceFields (decl : TypeDecl) : List Field := decl.fields.filter fun field => !field.isStatic

structure ClassTable where
  infos : Array ClassInfo := #[]
  /-- Classes by qualified name, and those of the top level by simple name too. The latest comes first. -/
  names : Bindings ClassId := []
  /-- Classes inside of code, by the place of their declaration. -/
  places : List (Nat × ClassId) := []

namespace ClassTable

def get (table : ClassTable) (id : ClassId) : ClassInfo := table.infos[id.index]?.getD default

def modify (table : ClassTable) (id : ClassId) (change : ClassInfo → ClassInfo) : ClassTable :=
  { table with infos := table.infos.modify id.index change }

def modifyState (table : ClassTable) (id : ClassId) (change : ClassState → ClassState) : ClassTable :=
  table.modify id fun info => { info with state := change info.state }

/-- A class and the classes around it, from the nearest on. -/
def lexical (table : ClassTable) (id : ClassId) : List ClassId := id :: (table.get id).enclosing

/-- Adds a class as it is declared, without its members. -/
def add (table : ClassTable) (info : ClassInfo) : ClassTable :=
  let id : ClassId := ⟨table.infos.size⟩
  let names := match info.nesting with
    | .topLevel => [(info.decl.name, id), (info.qualifiedName, id)]
    | .member => [(info.qualifiedName, id)]
    | .inCode | .anonymous => []
  { table with infos := table.infos.push info, names := names ++ table.names }

mutual

/-- Adds a class with its members. -/
def register (table : ClassTable) (qualifiedName : String) (nesting : Nesting) (enclosing : List ClassId) :
    TypeDecl → ClassTable
  | decl@⟨_, _, _, _, _, _, _, _, _, _, _, _, _, memberTypes, _, _⟩ =>
    let id : ClassId := ⟨table.infos.size⟩
    registerMembers (table.add { decl, qualifiedName, nesting, enclosing }) id qualifiedName
      (id :: enclosing) memberTypes

/-- Adds the members of a class. Of two with one name the later counts. -/
def registerMembers (table : ClassTable) (owner : ClassId) (qualifiedName : String)
    (enclosing : List ClassId) : List TypeDecl → ClassTable
  | [] => table
  | decl :: rest =>
    let id : ClassId := ⟨table.infos.size⟩
    let table := register table (qualifiedName ++ "." ++ decl.name) .member enclosing decl
    let table := table.modify owner fun info => { info with members := info.members.put decl.name id }
    registerMembers table owner qualifiedName enclosing rest

end

/-- Follows superclasses that belong to the program, each once; the number bounds how many. -/
def chainFrom (table : ClassTable) : Nat → List ClassId → ClassId → List ClassId
  | 0, _, _ => []
  | height + 1, seen, id =>
    if seen.contains id then []
    else match (table.get id).superclass with
      | some (.user above) => id :: table.chainFrom height (id :: seen) above
      | _ => [id]

/-- A class and its superclasses that belong to the program. -/
def chain (table : ClassTable) (id : ClassId) : List ClassId := table.chainFrom (table.infos.size + 1) [] id

/-- A member type of a class or of one of its superclasses. -/
def member? (table : ClassTable) (id : ClassId) (name : String) : Option ClassId :=
  (table.chain id).findSome? fun type => (table.get type).members.lookup name

/-- The type that a path of names leads to from inside a class, which may name itself. -/
def resolveWithin (table : ClassTable) (name : String) (id : ClassId) : Option ClassId :=
  match Text.split '.' name with
  | [] => none
  | first :: rest => do
    let start ← if (table.get id).decl.name == first then some id else table.member? id first
    rest.foldlM table.member? start

/-- What the name of a type stands for inside a class: a type of the class or of a class around it, then a
type of the program, then a type of the library. -/
def resolve (table : ClassTable) (context : Option ClassId) (name : String) : Option ClassRef :=
  let around := (context.map table.lexical).getD []
  match (around.findSome? (table.resolveWithin name)).or (table.names.lookup name) with
  | some id => some (.user id)
  | none =>
    let simple := Names.simple name
    if Library.isKnown simple then some (.library simple) else none

/-- What the name of a superclass stands for. One that nobody declares counts as a library type. -/
def resolveSuper (table : ClassTable) (context : ClassId) (type : JavaType) : ClassRef :=
  (table.resolve (some context) type.name).getD (.library type.simpleName)

/-- Finds out what a class of the top level or a member extends. -/
def link (table : ClassTable) (id : ClassId) : ClassTable :=
  let info := table.get id
  let context := info.enclosing.head?.getD id
  table.modify id fun _ =>
    { info with
      superclass := info.decl.superclass.map (table.resolveSuper context)
      interfaces := info.decl.interfaces.map (·.name) }

/-- Gives every class inside of code a place of its own, by which it is known again. -/
def placing : Reviser Unit (StateM Nat) where
  expression := fun _ e =>
    match e with
    | .create type arguments (some body) => do
      let place ← getModify (· + 1)
      return .create type arguments (some { body with origin := { span := some ⟨place, 0⟩ } })
    | e => pure e
  statement := fun _ s =>
    match s with
    | .localType type => do
      let place ← getModify (· + 1)
      return .localType { type with origin := { span := some ⟨place, 0⟩ } }
    | s => pure s

def placeOf (decl : TypeDecl) : Nat := (decl.origin.span.map (·.start)).getD 0

/-- The types of source files with their packages, all places given. -/
def placeAll (units : List CompilationUnit) : StateM Nat (List (Option String × List TypeDecl)) :=
  units.mapM fun unit => return (unit.package, ← placing.onTypes () unit.types)

/-- Adds the types of a package. -/
def addPackage (table : ClassTable) (package : Option String) (types : List TypeDecl) : ClassTable :=
  types.foldl
    (fun table decl => table.register ((package.map (· ++ ".")).getD "" ++ decl.name) .topLevel [] decl)
    table

/-- The classes of source files. -/
def load (units : List CompilationUnit) : ClassTable :=
  let placed := ((placeAll units).run 1).run.1
  let table := placed.foldl (fun table (package, types) => table.addPackage package types) {}
  ((List.range table.infos.size).map ClassId.mk).foldl link table

/-- What the type that an anonymous class names adds to its supertypes. -/
def withBase (table : ClassTable) (context : ClassId) (base : JavaType) (info : ClassInfo) : ClassInfo :=
  let implementing (name : String) : ClassInfo := { info with interfaces := info.interfaces ++ [name] }
  match table.resolve (some context) base.name with
  | none => implementing base.name
  | some (.user id) =>
    if (table.get id).decl.isInterface then implementing base.name
    else { info with superclass := some (.user id) }
  | some (.library name) =>
    if Library.isThrowable name || name == "Object" then { info with superclass := some (.library name) }
    else implementing name

/-- The class of a declaration inside of code, which is added when it is first met. An anonymous class names
a type that it extends or implements. -/
def nested (table : ClassTable) (decl : TypeDecl) (outer : ClassId) (base : Option JavaType) :
    ClassId × ClassTable :=
  let place := placeOf decl
  match table.places.lookup place with
  | some id => (id, table)
  | none =>
    let id : ClassId := ⟨table.infos.size⟩
    let suffix := if base.isSome then toString (table.places.length + 1) else decl.name
    let table := table.register ((table.get outer).qualifiedName ++ "$" ++ suffix)
      (if base.isSome then .anonymous else .inCode) (table.lexical outer) decl
    let table := table.modify id fun info =>
      let info := { info with
        superclass := decl.superclass.map (table.resolveSuper outer)
        interfaces := decl.interfaces.map (·.name) }
      match base with
      | some base => table.withBase outer base info
      | none => info
    (id, { table with places := (place, id) :: table.places })

/-- The library class above the superclasses that belong to the program. -/
def libraryBase? (table : ClassTable) (id : ClassId) : Option String :=
  match (table.chain id).getLast?.bind fun last => (table.get last).superclass with
  | some (.library name) => some name
  | _ => none

def isSubclass (table : ClassTable) (id ancestor : ClassId) : Bool := (table.chain id).contains ancestor

/-- Whether a class has a supertype of a simple name; the number bounds how far up one is looked for. -/
def isNamedFrom (table : ClassTable) (target : String) : Nat → ClassId → Bool
  | 0, _ => false
  | height + 1, id =>
    target == "Object"
      || (table.chain id).any (fun current =>
        (table.get current).name == target
          || (table.get current).interfaces.any fun name =>
            Names.simple name == target
              || match table.resolve (some current) name with
                | some (.user above) => above != current && table.isNamedFrom target height above
                | _ => false)
      || (table.libraryBase? id).any (Library.isSubtype · target)

/-- Whether objects of a class are of the type with a given name. -/
def isNamed (table : ClassTable) (id : ClassId) (target : String) : Bool :=
  table.isNamedFrom (Names.simple target) (table.infos.size + 1) id

/-- The method that a call on an object of a class runs, and the class that declares it. -/
def method? (table : ClassTable) (id : ClassId) (name : String) (arity : Nat) :
    Option (ClassId × Method) :=
  (table.chain id).findSome? fun owner =>
    ((table.get owner).decl.methods.find? fun method =>
      method.name == name && method.arity == arity && !method.isAbstract).map (owner, ·)

/-- The class that declares a static field or constant, among a class and its superclasses. -/
def staticOwner? (table : ClassTable) (id : ClassId) (name : String) : Option ClassId :=
  (table.chain id).find? fun owner =>
    let decl := (table.get owner).decl
    (staticFields decl).any (·.name == name) || decl.constants.any (·.name == name)

end ClassTable

end JavaWeave.Interpreter
