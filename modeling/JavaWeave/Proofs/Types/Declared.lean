import JavaWeave.Proofs.Text.Pieces
import JavaWeave.Types.Library
import Mathlib.Algebra.GroupWithZero.Nat
import Mathlib.Data.List.Nodup
import Mathlib.Data.List.Perm.Basic

/-! What a table of types holds of the types that source files declare. If no two of them have one simple name, the
order in which they were entered does not show: every name means the same, and there are as many supertypes to
follow. -/

namespace JavaWeave.TypeTable

open Syntax

mutual

/-- The types that a declaration brings, itself and those within, each with the name it is declared by. -/
def declared (outer : String) : TypeDecl → List (String × TypeInfo)
  | ⟨origin, modifiers, annotations, kind, name, typeParameters, superclass, interfaces, constants, fields,
      initializers, constructors, methods, memberTypes, isLocal, isAnonymous⟩ =>
    let info := infoOf (qualify outer name)
      ⟨origin, modifiers, annotations, kind, name, typeParameters, superclass, interfaces, constants, fields,
        initializers, constructors, methods, memberTypes, isLocal, isAnonymous⟩
    (name, info) :: declaredAll (qualify outer name) memberTypes

def declaredAll (outer : String) : List TypeDecl → List (String × TypeInfo)
  | [] => []
  | type :: rest => declared outer type ++ declaredAll outer rest

end

/-- The types that a source file declares. -/
def declaredIn (unit : CompilationUnit) : List (String × TypeInfo) :=
  declaredAll (unit.package.getD "") unit.types

/-- The simple names of declared types. -/
def simpleNames (types : List (String × TypeInfo)) : List String := types.map fun type => Names.simple type.1

/-- How a declared type is entered: by its qualified name and by the name it is declared by. -/
def entriesOf (type : String × TypeInfo) : List (String × TypeInfo) := [(type.2.qualifiedName, type.2), type]

theorem declared_eq (outer : String) (type : TypeDecl) :
    declared outer type = (type.name, infoOf (qualify outer type.name) type)
      :: declaredAll (qualify outer type.name) type.memberTypes := by
  cases type
  rfl

theorem addType_eq (table : TypeTable) (outer : String) (type : TypeDecl) :
    addType table outer type =
      (addTypes (table.insertNew type.name (infoOf (qualify outer type.name) type)) (qualify outer type.name)
        type.memberTypes).insert (qualify outer type.name) (infoOf (qualify outer type.name) type) := by
  cases type
  rfl

mutual

/-- What holds of a type if it holds of the types declared in it holds of all types. -/
theorem forall_of_members {holds : TypeDecl → Prop}
    (step : ∀ type : TypeDecl, (∀ member ∈ type.memberTypes, holds member) → holds type) : ∀ type, holds type
  | ⟨_, _, _, _, _, _, _, _, _, _, _, _, _, memberTypes, _, _⟩ => step _ (forall_mem_of_members step memberTypes)

theorem forall_mem_of_members {holds : TypeDecl → Prop}
    (step : ∀ type : TypeDecl, (∀ member ∈ type.memberTypes, holds member) → holds type) :
    ∀ types : List TypeDecl, ∀ type ∈ types, holds type
  | [] => nofun
  | first :: rest => List.forall_mem_cons.mpr ⟨forall_of_members step first, forall_mem_of_members step rest⟩

end

theorem simple_qualify (outer name : String) : Names.simple (qualify outer name) = Names.simple name := by
  rw [qualify]
  split
  · rfl
  · exact Names.simple_qualified outer name

/-- A declared type has the simple name of what it is declared by. -/
theorem simpleName_declared (type : TypeDecl) : ∀ outer : String, ∀ entry ∈ declared outer type,
    entry.2.simpleName = Names.simple entry.1 := by
  induction type using forall_of_members with
  | step type inductionHypothesis =>
    intro outer entry listed
    rw [declared_eq] at listed
    rcases List.mem_cons.mp listed with rfl | listed
    · exact simple_qualify outer type.name
    generalize qualify outer type.name = outer at listed
    generalize type.memberTypes = types at inductionHypothesis listed
    induction types with
    | nil => cases listed
    | cons first rest inductionHypothesis' =>
      obtain ⟨own, others⟩ := List.forall_mem_cons.mp inductionHypothesis
      rcases List.mem_append.mp listed with listed | listed
      · exact own outer entry listed
      · exact inductionHypothesis' others listed

/-- No name of the table has the simple name of one of the types. -/
def Fresh (table : TypeTable) (types : List (String × TypeInfo)) : Prop :=
  ∀ entry ∈ table.entries, Names.simple entry.1 ∉ simpleNames types

/-- A table that has the entries of another and those of some types. -/
def Grows (table after : TypeTable) (types : List (String × TypeInfo)) : Prop :=
  after.entries.Perm (types.flatMap entriesOf ++ table.entries)

variable {table after : TypeTable} {types others : List (String × TypeInfo)}

theorem simpleNames_append : simpleNames (types ++ others) = simpleNames types ++ simpleNames others :=
  List.map_append

theorem Fresh.append : table.Fresh (types ++ others) ↔ table.Fresh types ∧ table.Fresh others := by
  simp only [Fresh, simpleNames_append, List.mem_append, not_or]
  exact forall₂_and

theorem Grows.append {last : TypeTable} (first : Grows table after types) (second : Grows after last others) :
    Grows table last (types ++ others) := by
  refine second.trans ((first.append_left _).trans ?_)
  rw [List.flatMap_append, ← List.append_assoc]
  exact List.perm_append_comm.append_right _

/-- Entering types leaves fresh what has other simple names. -/
theorem Grows.fresh (grows : Grows table after types)
    (named : ∀ type ∈ types, type.2.simpleName = Names.simple type.1)
    (apart : (simpleNames types).Disjoint (simpleNames others)) (fresh : table.Fresh others) :
    after.Fresh others := by
  intro entry listed
  rcases List.mem_append.mp (grows.mem_iff.mp listed) with listed | listed
  · obtain ⟨type, declared, listed⟩ := List.mem_flatMap.mp listed
    have name : Names.simple entry.1 = Names.simple type.1 := by
      rcases List.mem_cons.mp listed with rfl | listed
      · exact named type declared
      · rw [List.mem_singleton.mp listed]
    exact name ▸ apart (List.mem_map_of_mem declared)
  · exact fresh entry listed

theorem insertNew_fresh {name : String} {info : TypeInfo} (fresh : table.Fresh ((name, info) :: types)) :
    table.insertNew name info = table.insert name info := by
  have unknown : table.resolve? name = none := by
    rw [resolve?, List.lookup_eq_none_iff]
    intro entry listed
    have apart := fresh entry listed
    rw [simpleNames, List.map_cons, List.mem_cons, not_or] at apart
    exact bne_iff_ne.mpr fun same => apart.1 (congrArg Names.simple same.symm)
  rw [insertNew, unknown]
  rfl

/-- Declarations that each enter what they bring do so together. -/
theorem grows_addTypes {outer : String} {decls : List TypeDecl}
    (each : ∀ decl ∈ decls, ∀ table : TypeTable, (simpleNames (declared outer decl)).Nodup →
      table.Fresh (declared outer decl) → Grows table (addType table outer decl) (declared outer decl)) :
    ∀ table : TypeTable, (simpleNames (declaredAll outer decls)).Nodup → table.Fresh (declaredAll outer decls) →
      Grows table (addTypes table outer decls) (declaredAll outer decls) := by
  induction decls with
  | nil => exact fun table _ _ => .refl _
  | cons decl rest inductionHypothesis =>
    intro table distinct fresh
    obtain ⟨first, others⟩ := List.forall_mem_cons.mp each
    rw [declaredAll, simpleNames_append, List.nodup_append'] at distinct
    obtain ⟨firstDistinct, restDistinct, apart⟩ := distinct
    obtain ⟨firstFresh, restFresh⟩ := Fresh.append.mp fresh
    have grows := first table firstDistinct firstFresh
    exact grows.append (inductionHypothesis others _ restDistinct
      (grows.fresh (simpleName_declared decl outer) apart restFresh))

/-- A declaration enters every type it brings by both of its names. -/
theorem grows_addType (decl : TypeDecl) : ∀ (outer : String) (table : TypeTable),
    (simpleNames (declared outer decl)).Nodup → table.Fresh (declared outer decl) →
      Grows table (addType table outer decl) (declared outer decl) := by
  induction decl using forall_of_members with
  | step decl inductionHypothesis =>
    intro outer table distinct fresh
    rw [declared_eq] at distinct fresh ⊢
    obtain ⟨apart, others⟩ := List.nodup_cons.mp distinct
    rw [addType_eq, insertNew_fresh fresh]
    have within : (table.insert decl.name (infoOf (qualify outer decl.name) decl)).Fresh
        (declaredAll (qualify outer decl.name) decl.memberTypes) :=
      List.forall_mem_cons.mpr ⟨apart, fun entry listed found => fresh entry listed (List.mem_cons_of_mem _ found)⟩
    have grows := grows_addTypes (fun member listed => inductionHypothesis member listed _) _ others within
    exact (grows.cons _).trans (.cons _ List.perm_middle)

theorem simpleName_declaredAll {outer : String} {decls : List TypeDecl} : ∀ entry ∈ declaredAll outer decls,
    entry.2.simpleName = Names.simple entry.1 := by
  induction decls with
  | nil => exact nofun
  | cons decl rest inductionHypothesis =>
    exact List.forall_mem_append.mpr ⟨simpleName_declared decl outer, inductionHypothesis⟩

theorem grows_foldl_addUnit (units : List CompilationUnit) : ∀ table : TypeTable,
    (simpleNames (units.flatMap declaredIn)).Nodup → table.Fresh (units.flatMap declaredIn) →
      Grows table (units.foldl addUnit table) (units.flatMap declaredIn) := by
  induction units with
  | nil => exact fun table _ _ => .refl _
  | cons unit rest inductionHypothesis =>
    intro table distinct fresh
    rw [List.flatMap_cons, simpleNames_append, List.nodup_append'] at distinct
    obtain ⟨firstDistinct, restDistinct, apart⟩ := distinct
    obtain ⟨firstFresh, restFresh⟩ := Fresh.append.mp fresh
    have grows := grows_addTypes (fun decl _ => grows_addType decl _) table firstDistinct firstFresh
    exact grows.append (inductionHypothesis _ restDistinct (grows.fresh simpleName_declaredAll apart restFresh))

/-- Tables that answer all questions alike. -/
structure Alike (first second : TypeTable) : Prop where
  resolve? : ∀ name, first.resolve? name = second.resolve? name
  edges : first.edges = second.edges

namespace Alike

variable {first second : TypeTable} (alike : Alike first second)
include alike

theorem searchFrom (ancestor : String) : ∀ (fuel : Nat) (pending expanded : List String),
    first.searchFrom ancestor fuel pending expanded = second.searchFrom ancestor fuel pending expanded := by
  intro fuel
  induction fuel with
  | zero => exact fun _ _ => rfl
  | succ fuel inductionHypothesis =>
    intro pending expanded
    cases pending with
    | nil => rfl
    | cons current pending =>
      rw [TypeTable.searchFrom, TypeTable.searchFrom, alike.resolve? current]
      simp only [inductionHypothesis]

theorem isCollection (type : JavaType) : first.isCollection type = second.isCollection type := by
  rw [TypeTable.isCollection, TypeTable.isCollection, isSubtype, isSubtype, alike.edges, alike.searchFrom]

theorem isMap (type : JavaType) : first.isMap type = second.isMap type := by
  rw [TypeTable.isMap, TypeTable.isMap, isSubtype, isSubtype, alike.edges, alike.searchFrom]

end Alike

/-- A list in which no name has two meanings. -/
def Unambiguous (entries : List (String × TypeInfo)) : Prop :=
  ∀ name first second, (name, first) ∈ entries → (name, second) ∈ entries → first = second

theorem lookup_eq_some_iff_mem {entries : List (String × TypeInfo)} (unambiguous : Unambiguous entries)
    {name : String} {info : TypeInfo} : entries.lookup name = some info ↔ (name, info) ∈ entries := by
  have listed {info : TypeInfo} (found : entries.lookup name = some info) : (name, info) ∈ entries := by
    obtain ⟨before, after, rfl, _⟩ := List.lookup_eq_some_iff.mp found
    simp
  constructor
  · exact listed
  · intro member
    cases found : entries.lookup name with
    | none => simpa using List.lookup_eq_none_iff.mp found _ member
    | some other => rw [unambiguous name other info (listed found) member]

theorem unambiguous_declared {units : List CompilationUnit}
    (distinct : (simpleNames (units.flatMap declaredIn)).Nodup) :
    Unambiguous ((units.flatMap declaredIn).flatMap entriesOf) := by
  intro name first second one other
  have source {info : TypeInfo} (listed : (name, info) ∈ (units.flatMap declaredIn).flatMap entriesOf) :
      ∃ type ∈ units.flatMap declaredIn, Names.simple type.1 = Names.simple name ∧ type.2 = info := by
    obtain ⟨type, declared, entered⟩ := List.mem_flatMap.mp listed
    obtain ⟨unit, _, within⟩ := List.mem_flatMap.mp declared
    refine ⟨type, declared, ?_⟩
    rcases List.mem_cons.mp entered with same | entered
    · cases same
      exact ⟨(simpleName_declaredAll type within).symm, rfl⟩
    · cases List.mem_singleton.mp entered
      exact ⟨rfl, rfl⟩
  obtain ⟨type, listed, named, rfl⟩ := source one
  obtain ⟨type', listed', named', rfl⟩ := source other
  rw [List.inj_on_of_nodup_map distinct listed listed' (named.trans named'.symm)]

theorem edges_eq_sum (table : TypeTable) :
    table.edges = (table.entries.map fun entry => entry.2.supertypes.length).sum := by
  rw [edges, List.sum_eq_foldl_nat, List.foldl_map]

/-- The order of source files does not show in the table of their types. -/
theorem alike_ofUnits {units units' : List CompilationUnit} (order : units.Perm units')
    (distinct : (simpleNames (units.flatMap declaredIn)).Nodup) : (ofUnits units).Alike (ofUnits units') := by
  have reordered : (units.flatMap declaredIn).Perm (units'.flatMap declaredIn) := order.flatMap_right _
  have distinct' : (simpleNames (units'.flatMap declaredIn)).Nodup := (reordered.map _).nodup_iff.mp distinct
  have grows := grows_foldl_addUnit units {} distinct nofun
  have grows' := grows_foldl_addUnit units' {} distinct' nofun
  rw [Grows, List.append_nil] at grows grows'
  have same := grows.trans ((reordered.flatMap_right _).trans grows'.symm)
  have unambiguous : Unambiguous (units.foldl addUnit {}).entries := fun name first second one other =>
    unambiguous_declared distinct name first second (grows.mem_iff.mp one) (grows.mem_iff.mp other)
  have unambiguous' : Unambiguous (units'.foldl addUnit {}).entries := fun name first second one other =>
    unambiguous name first second (same.mem_iff.mpr one) (same.mem_iff.mpr other)
  constructor
  · intro name
    have found : (units.foldl addUnit {}).entries.lookup name = (units'.foldl addUnit {}).entries.lookup name :=
      Option.ext fun info =>
        (lookup_eq_some_iff_mem unambiguous).trans (same.mem_iff.trans (lookup_eq_some_iff_mem unambiguous').symm)
    rw [ofUnits, ofUnits, orElse, orElse, resolve?, resolve?, List.lookup_append, List.lookup_append, found]
  · rw [edges_eq_sum, edges_eq_sum, ofUnits, ofUnits, orElse, orElse]
    exact ((same.append_right _).map _).sum_nat

end JavaWeave.TypeTable
