import JavaWeave.Handler.ListenerSupport
import JavaWeave.Proofs.Types.Subtyping

/-! The methods that a listener declares or inherits.

Types are put for the type parameters of the listener. Next to `substitute` stands the substitution at every depth, array
elements included. Both give the same type unless a parameter is the element type of an array: such an array stays as it
is written, and its parameter with it.

The loop over pending types is told without a bound, and the fuel outlasts it for every table, cyclic ones included. No
two of the collected methods have one name and the same parameters. Where types of one qualified name are one type, a
method is collected iff some type that the listener leads to declares it. -/

namespace JavaWeave.Weave

open Syntax TypeTable

mutual

/-- Types put for all parameters of a type at once. An occurrence keeps its dimensions, which are added to those of
the type that is put for it, and its wildcard. What is put is not looked through again. A name with arguments of its
own is no parameter. -/
def instantiate (bindings : List (String × JavaType)) : JavaType → JavaType
  | ⟨name, arguments, dimensions, wildcard⟩ =>
    match boundType? bindings name, arguments with
    | some bound, [] => { bound with dimensions := bound.dimensions + dimensions, wildcard }
    | _, _ => ⟨name, instantiateAll bindings arguments, dimensions, wildcard⟩

def instantiateAll (bindings : List (String × JavaType)) : List JavaType → List JavaType
  | [] => []
  | type :: rest => instantiate bindings type :: instantiateAll bindings rest

end

/-- A type is part of itself and of every type that has it among its arguments, at any depth. -/
inductive PartOf : JavaType → JavaType → Prop where
  | self {type : JavaType} : PartOf type type
  | argument {part argument type : JavaType} (listed : argument ∈ type.arguments) (inside : PartOf part argument) :
      PartOf part type

/-- A type mentions a name without arguments, as it would a parameter. -/
def Mentions (parameter : String) (type : JavaType) : Prop :=
  ∃ part, PartOf part type ∧ part.name = parameter ∧ part.arguments = []

/-- A type has an array whose elements are of a parameter. -/
def HasArrayOf (parameter : String) (type : JavaType) : Prop :=
  ∃ part, PartOf part type ∧ part.name = parameter ∧ part.arguments = [] ∧ part.dimensions ≠ 0

/-- Nothing but itself is put for a name. -/
def BoundToItself (bindings : List (String × JavaType)) (name : String) : Prop :=
  ∀ bound, boundType? bindings name = some bound → bound.name = name ∧ bound.arguments = [] ∧ bound.dimensions = 0

section

variable {bindings : List (String × JavaType)} {name parameter : String} {bound : JavaType}
  {arguments : List JavaType} {dimensions : Nat} {wildcard : Option Wildcard}

theorem mentions_iff :
    Mentions parameter ⟨name, arguments, dimensions, wildcard⟩ ↔
      name = parameter ∧ arguments = [] ∨ ∃ argument ∈ arguments, Mentions parameter argument := by
  constructor
  · rintro ⟨part, inside, named, bare⟩
    cases inside with
    | self => exact .inl ⟨named, bare⟩
    | argument listed inside => exact .inr ⟨_, listed, part, inside, named, bare⟩
  · rintro (⟨named, bare⟩ | ⟨argument, listed, part, inside, named, bare⟩)
    · exact ⟨_, .self, named, bare⟩
    · exact ⟨part, .argument listed inside, named, bare⟩

theorem hasArrayOf_iff :
    HasArrayOf parameter ⟨name, arguments, dimensions, wildcard⟩ ↔
      name = parameter ∧ arguments = [] ∧ dimensions ≠ 0 ∨ ∃ argument ∈ arguments, HasArrayOf parameter argument := by
  constructor
  · rintro ⟨part, inside, named, bare, deep⟩
    cases inside with
    | self => exact .inl ⟨named, bare, deep⟩
    | argument listed inside => exact .inr ⟨_, listed, part, inside, named, bare, deep⟩
  · rintro (⟨named, bare, deep⟩ | ⟨argument, listed, part, inside, named, bare, deep⟩)
    · exact ⟨_, .self, named, bare, deep⟩
    · exact ⟨part, .argument listed inside, named, bare, deep⟩

/-- A wildcard in front of a type does not change what the type mentions. -/
theorem mentions_wildcard {type : JavaType} : Mentions parameter { type with wildcard } ↔ Mentions parameter type := by
  cases type
  exact mentions_iff.trans mentions_iff.symm

theorem mem_of_boundType? (found : boundType? bindings name = some bound) : (name, bound) ∈ bindings := by
  obtain ⟨before, after, entries, -⟩ := List.lookup_eq_some_iff.mp found
  rw [← List.mem_reverse, entries]
  exact List.mem_append_right _ List.mem_cons_self

theorem substituteAll_eq_map (bindings : List (String × JavaType)) (types : List JavaType) :
    substituteAll bindings types = types.map (substitute bindings) := by
  induction types with
  | nil => rfl
  | cons type rest inductionHypothesis => rw [substituteAll, inductionHypothesis, List.map_cons]

theorem instantiateAll_eq_map (bindings : List (String × JavaType)) (types : List JavaType) :
    instantiateAll bindings types = types.map (instantiate bindings) := by
  induction types with
  | nil => rfl
  | cons type rest inductionHypothesis => rw [instantiateAll, inductionHypothesis, List.map_cons]

theorem substitute_parameter (found : boundType? bindings name = some bound) :
    substitute bindings ⟨name, [], 0, wildcard⟩ = { bound with wildcard } := by
  simp only [substitute, found]

theorem instantiate_parameter (found : boundType? bindings name = some bound) :
    instantiate bindings ⟨name, [], dimensions, wildcard⟩ =
      { bound with dimensions := bound.dimensions + dimensions, wildcard } := by
  simp only [instantiate, found]

/-- A type keeps its name unless that is a bound parameter without arguments and dimensions. -/
theorem substitute_kept (kept : arguments = [] → dimensions = 0 → boundType? bindings name = none) :
    substitute bindings ⟨name, arguments, dimensions, wildcard⟩ =
      ⟨name, arguments.map (substitute bindings), dimensions, wildcard⟩ := by
  rw [substitute, substituteAll_eq_map]
  intro bound found bare flat
  rw [kept bare flat] at found
  cases found

theorem instantiate_kept (kept : arguments = [] → boundType? bindings name = none) :
    instantiate bindings ⟨name, arguments, dimensions, wildcard⟩ =
      ⟨name, arguments.map (instantiate bindings), dimensions, wildcard⟩ := by
  rw [instantiate, instantiateAll_eq_map]
  intro bound found bare
  rw [kept bare] at found
  cases found

end

/-- Where no parameter is bound, nothing is put. -/
theorem substitute_nil (type : JavaType) : substitute [] type = type := by
  obtain ⟨name, arguments, dimensions, wildcard⟩ := type
  have each : ∀ argument ∈ arguments, substitute [] argument = id argument := fun argument _ => substitute_nil argument
  rw [substitute_kept fun _ _ => rfl, List.map_congr_left each, List.map_id]

/-- Both substitutions give the same type iff no array of the type has elements of a parameter that something else is
put for. -/
theorem substitute_eq_instantiate_iff (bindings : List (String × JavaType)) : ∀ type : JavaType,
    substitute bindings type = instantiate bindings type ↔
      ∀ parameter, HasArrayOf parameter type → BoundToItself bindings parameter
  | ⟨name, [], dimensions, wildcard⟩ => by
    have arrays : (∀ parameter, HasArrayOf parameter ⟨name, [], dimensions, wildcard⟩ → BoundToItself bindings parameter) ↔
        (dimensions ≠ 0 → BoundToItself bindings name) := by
      simp only [hasArrayOf_iff, List.not_mem_nil, false_and, exists_false, or_false, true_and, and_imp, forall_eq']
    rw [arrays]
    cases found : boundType? bindings name with
    | none =>
      rw [substitute_kept fun _ _ => found, instantiate_kept fun _ => found]
      exact iff_of_true rfl fun _ bound other => nomatch found.symm.trans other
    | some bound =>
      rw [instantiate_parameter found]
      by_cases flat : dimensions = 0
      · subst flat
        rw [substitute_parameter found]
        exact iff_of_true rfl fun deep => absurd rfl deep
      · rw [substitute_kept fun _ absent => absurd absent flat, JavaType.mk.injEq]
        constructor
        · rintro ⟨named, bare, same, -⟩ - other again
          cases found.symm.trans again
          exact ⟨named.symm, bare.symm, by omega⟩
        · intro itself
          obtain ⟨named, bare, same⟩ := itself flat bound found
          exact ⟨named.symm, bare.symm, by omega, rfl⟩
  | ⟨name, first :: rest, dimensions, wildcard⟩ => by
    have each (argument : JavaType) (listed : argument ∈ first :: rest) := substitute_eq_instantiate_iff bindings argument
    have applied : first :: rest ≠ [] := List.cons_ne_nil first rest
    rw [substitute_kept fun bare => absurd bare applied, instantiate_kept fun bare => absurd bare applied,
      JavaType.mk.injEq, List.map_inj_left, forall₂_congr each]
    simp only [hasArrayOf_iff, reduceCtorEq, false_and, and_false, false_or, true_and, and_true]
    constructor
    · rintro inside parameter ⟨argument, listed, array⟩
      exact inside argument listed parameter array
    · intro inside argument listed parameter array
      exact inside parameter ⟨argument, listed, array⟩

/-- The elements of an array stay as they are written. -/
example : substitute [("T", .named "String")] ⟨"T", [], 1, none⟩ = ⟨"T", [], 1, none⟩ ∧
    instantiate [("T", .named "String")] ⟨"T", [], 1, none⟩ = ⟨"String", [], 1, none⟩ := ⟨rfl, rfl⟩

/-- A bound parameter that no type put for a parameter mentions is left over in the arrays of it, and nowhere else. -/
theorem mentions_substitute_iff {bindings : List (String × JavaType)} {parameter : String}
    (bound : (boundType? bindings parameter).isSome) (apart : ∀ entry ∈ bindings, ¬ Mentions parameter entry.2) :
    ∀ type : JavaType, Mentions parameter (substitute bindings type) ↔ HasArrayOf parameter type
  | ⟨name, [], dimensions, wildcard⟩ => by
    have arrays : HasArrayOf parameter ⟨name, [], dimensions, wildcard⟩ ↔ name = parameter ∧ dimensions ≠ 0 := by
      simp [hasArrayOf_iff]
    rw [arrays]
    by_cases flat : dimensions = 0
    · subst flat
      refine iff_of_false ?_ fun array => array.2 rfl
      cases found : boundType? bindings name with
      | none =>
        have other : name ≠ parameter := by
          intro same
          rw [← same, found] at bound
          cases bound
        rw [substitute_kept fun _ _ => found, mentions_iff]
        simp [other]
      | some type =>
        rw [substitute_parameter found, mentions_wildcard]
        exact apart _ (mem_of_boundType? found)
    · rw [substitute_kept fun _ absent => absurd absent flat, mentions_iff]
      simp [flat]
  | ⟨name, first :: rest, dimensions, wildcard⟩ => by
    have each (argument : JavaType) (listed : argument ∈ first :: rest) := mentions_substitute_iff bound apart argument
    have applied : first :: rest ≠ [] := List.cons_ne_nil first rest
    rw [substitute_kept fun bare => absurd bare applied, mentions_iff, hasArrayOf_iff]
    simp only [List.map_eq_nil_iff, applied, and_false, false_and, false_or]
    constructor
    · rintro ⟨_, mapped, mentioned⟩
      obtain ⟨argument, listed, rfl⟩ := List.mem_map.mp mapped
      exact ⟨argument, listed, (each argument listed).mp mentioned⟩
    · rintro ⟨argument, listed, array⟩
      exact ⟨_, List.mem_map_of_mem listed, (each argument listed).mpr array⟩

/-- Two signatures differ in their names or in their parameters. -/
def Differ (one other : Signature) : Prop := ¬ (one.name = other.name ∧ one.parameters = other.parameters)

/-- A signature of the given name and parameters is in a list. -/
def Answered (signatures : List Signature) (name : String) (parameters : List JavaType) : Prop :=
  ∃ signature ∈ signatures, signature.name = name ∧ signature.parameters = parameters

section

variable {collected signatures : List Signature} {signature : Signature} {name : String} {parameters : List JavaType}

/-- A signature is added behind the others, or there is one like it. -/
theorem addSignature_cases (collected : List Signature) (signature : Signature) :
    addSignature collected signature = collected ∧ Answered collected signature.name signature.parameters ∨
      addSignature collected signature = collected ++ [signature] ∧ ∀ other ∈ collected, Differ other signature := by
  have found : (collected.any fun other => other.name == signature.name && other.parameters == signature.parameters) = true ↔
      Answered collected signature.name signature.parameters := by
    simp only [List.any_eq_true, Bool.and_eq_true, beq_iff_eq, Answered]
  by_cases answered : Answered collected signature.name signature.parameters
  · left
    exact ⟨if_pos (found.mpr answered), answered⟩
  · right
    refine ⟨if_neg fun any => answered (found.mp any), fun other listed alike => ?_⟩
    exact answered ⟨other, listed, alike⟩

theorem answered_append_singleton :
    Answered (collected ++ [signature]) name parameters ↔
      Answered collected name parameters ∨ signature.name = name ∧ signature.parameters = parameters := by
  simp only [Answered, List.mem_append, List.mem_singleton, or_and_right, exists_or, exists_eq_left]

theorem answered_addSignature :
    Answered (addSignature collected signature) name parameters ↔
      Answered collected name parameters ∨ signature.name = name ∧ signature.parameters = parameters := by
  rcases addSignature_cases collected signature with ⟨same, answered⟩ | ⟨added, -⟩
  · rw [same]
    constructor
    · exact .inl
    · rintro (before | ⟨rfl, rfl⟩)
      · exact before
      · exact answered
  · rw [added]
    exact answered_append_singleton

/-- What adding signatures one after the other comes to. -/
theorem answered_foldl_addSignature :
    Answered (signatures.foldl addSignature collected) name parameters ↔
      Answered collected name parameters ∨ Answered signatures name parameters := by
  induction signatures generalizing collected with
  | nil => simp [Answered]
  | cons signature rest inductionHypothesis =>
    rw [List.foldl_cons, inductionHypothesis, answered_addSignature, or_assoc]
    simp only [Answered, List.exists_mem_cons_iff]

theorem differ_addSignature (differ : collected.Pairwise Differ) :
    (addSignature collected signature).Pairwise Differ := by
  rcases addSignature_cases collected signature with ⟨same, -⟩ | ⟨added, different⟩
  · rw [same]
    exact differ
  · rw [added, List.pairwise_append]
    refine ⟨differ, List.pairwise_singleton _ _, fun other listed last alone => ?_⟩
    rw [List.mem_singleton.mp alone]
    exact different other listed

theorem differ_foldl_addSignature (differ : collected.Pairwise Differ) :
    (signatures.foldl addSignature collected).Pairwise Differ := by
  induction signatures generalizing collected with
  | nil => exact differ
  | cons signature rest inductionHypothesis => exact inductionHypothesis (differ_addSignature differ)

end

/-- The signatures that a type adds, given arguments for its parameters. -/
def offered (info : TypeInfo) (arguments : List JavaType) : List Signature :=
  info.methods.map (Signature.substitute (info.typeParameters.zip arguments))

/-- Supertypes as they are pending: without arguments. -/
def parents (info : TypeInfo) : List (String × List JavaType) :=
  info.supertypes.reverse.map fun supertype => (supertype, [])

/-- The loop from pending types, qualified names that were met and methods that were collected, to all methods. Each
rule but the first is one round. -/
inductive Collects (types : TypeTable) :
    List (String × List JavaType) → List String → List Signature → List Signature → Prop where
  | drained {seen : List String} {collected : List Signature} : Collects types [] seen collected collected
  | unknown {current : String} {arguments : List JavaType} {pending : List (String × List JavaType)}
      {seen : List String} {collected methods : List Signature} (unresolved : types.resolve? current = none)
      (onward : Collects types pending seen collected methods) :
      Collects types ((current, arguments) :: pending) seen collected methods
  | pass {current : String} {arguments : List JavaType} {pending : List (String × List JavaType)}
      {seen : List String} {collected methods : List Signature} {info : TypeInfo}
      (resolved : types.resolve? current = some info)
      (known : info.qualifiedName = "java.util.EventListener" ∨ info.qualifiedName ∈ seen)
      (onward : Collects types pending seen collected methods) :
      Collects types ((current, arguments) :: pending) seen collected methods
  | collect {current : String} {arguments : List JavaType} {pending : List (String × List JavaType)}
      {seen : List String} {collected methods : List Signature} {info : TypeInfo}
      (resolved : types.resolve? current = some info) (other : info.qualifiedName ≠ "java.util.EventListener")
      (fresh : info.qualifiedName ∉ seen)
      (onward : Collects types (parents info ++ pending) (info.qualifiedName :: seen)
        ((offered info arguments).foldl addSignature collected) methods) :
      Collects types ((current, arguments) :: pending) seen collected methods

/-- A name leads to a type by listed supertypes, none of which is the library's base of all listeners. -/
inductive Inherits (types : TypeTable) : String → TypeInfo → Prop where
  | own {name : String} {info : TypeInfo} (resolved : types.resolve? name = some info)
      (other : info.qualifiedName ≠ "java.util.EventListener") : Inherits types name info
  | supertype {name parent : String} {info target : TypeInfo} (resolved : types.resolve? name = some info)
      (other : info.qualifiedName ≠ "java.util.EventListener") (listed : parent ∈ info.supertypes)
      (onward : Inherits types parent target) : Inherits types name target

variable {types : TypeTable} {pending : List (String × List JavaType)} {seen : List String}
  {collected methods : List Signature}

/-- With a step for each pending type and each supertype to come, the bounded collection is the loop. -/
theorem collects_collectMethods {fuel : Nat}
    (enough : pending.length + (types.entries.map (remaining seen)).sum < fuel) :
    Collects types pending seen collected (collectMethods types fuel pending seen collected) := by
  induction fuel generalizing pending seen collected with
  | zero => cases enough
  | succ fuel inductionHypothesis =>
    cases pending with
    | nil => exact .drained
    | cons entry pending =>
      obtain ⟨current, arguments⟩ := entry
      rw [List.length_cons] at enough
      rw [collectMethods]
      cases resolved : types.resolve? current with
      | none => exact .unknown resolved (inductionHypothesis (by omega))
      | some info =>
        simp only
        split
        · rename_i known
          rw [Bool.or_eq_true, beq_iff_eq, List.contains_iff_mem] at known
          exact .pass resolved known (inductionHypothesis (by omega))
        · rename_i unknown
          rw [Bool.or_eq_true, beq_iff_eq, List.contains_iff_mem, not_or] at unknown
          refine .collect resolved unknown.1 unknown.2 (inductionHypothesis ?_)
          have used := sum_remaining_expand (mem_of_resolve? resolved) unknown.2
          rw [List.length_append, parents, List.length_map, List.length_reverse]
          dsimp only at used
          omega

/-- The collection of the methods of a listener runs to the end of the loop. -/
theorem collects_listenerMethods (types : TypeTable) (listener : JavaType) :
    Collects types [(listener.name, listener.arguments)] [] [] (listenerMethods types listener) := by
  refine collects_collectMethods ?_
  have whole : types.entries.map (remaining []) = types.entries.map fun entry => entry.2.supertypes.length :=
    List.map_congr_left fun entry _ => if_neg List.not_mem_nil
  rw [whole, ← edges_eq_sum, List.length_singleton]
  omega

/-- The loop keeps signatures apart. -/
theorem Collects.differ (collects : Collects types pending seen collected methods)
    (differ : collected.Pairwise Differ) : methods.Pairwise Differ := by
  induction collects with
  | drained => exact differ
  | unknown _ _ inductionHypothesis | pass _ _ _ inductionHypothesis => exact inductionHypothesis differ
  | collect _ _ _ _ inductionHypothesis => exact inductionHypothesis (differ_foldl_addSignature differ)

theorem Inherits.resolved {name : String} {info : TypeInfo} (inherits : Inherits types name info) :
    ∃ own, types.resolve? own = some info := by
  induction inherits with
  | own resolved _ => exact ⟨_, resolved⟩
  | supertype _ _ _ _ inductionHypothesis => exact inductionHypothesis

/-- Nothing is left to collect of the type of a name itself. -/
def Met (types : TypeTable) (seen : List String) (name : String) : Prop :=
  ∀ info, types.resolve? name = some info →
    info.qualifiedName = "java.util.EventListener" ∨ info.qualifiedName ∈ seen

theorem Met.cons {name : String} (settled : Met types seen name) (qualified : String) :
    Met types (qualified :: seen) name := by
  intro info resolved
  exact (settled info resolved).imp_right (List.mem_cons_of_mem qualified)

/-- What holds between two rounds, once the type of the listener had its own: which arguments a type is given is told
by `given`, and the types that are still to be collected get none. -/
structure Gathered (types : TypeTable) (start : String) (given : TypeInfo → List JavaType)
    (pending : List (String × List JavaType)) (seen : List String) (collected : List Signature) : Prop where
  bare : ∀ entry ∈ pending, entry.2 = []
  unseen : ∀ info : TypeInfo, info.qualifiedName ∉ seen → given info = []
  within : ∀ entry ∈ pending, ∀ info, Inherits types entry.1 info → Inherits types start info
  started : Met types seen start
  onward : ∀ name info, types.resolve? name = some info → info.qualifiedName ∈ seen →
    ∀ parent ∈ info.supertypes, (parent, []) ∈ pending ∨ Met types seen parent
  answered : ∀ name parameters, Answered collected name parameters ↔
    ∃ info, Inherits types start info ∧ info.qualifiedName ∈ seen ∧ Answered (offered info (given info)) name parameters

section

variable {start current : String} {given : TypeInfo → List JavaType} {arguments : List JavaType} {info : TypeInfo}

/-- A round for a name that has nothing to collect. -/
theorem Gathered.skip (gathered : Gathered types start given ((current, arguments) :: pending) seen collected)
    (settled : Met types seen current) : Gathered types start given pending seen collected where
  bare entry listed := gathered.bare entry (List.mem_cons_of_mem _ listed)
  unseen := gathered.unseen
  within entry listed := gathered.within entry (List.mem_cons_of_mem _ listed)
  started := gathered.started
  onward name info resolved known parent listed := by
    rcases gathered.onward name info resolved known parent listed with waiting | done
    · rcases List.mem_cons.mp waiting with here | later
      · cases here
        exact .inr settled
      · exact .inl later
    · exact .inr done
  answered := gathered.answered

/-- A round for a name whose type is met for the first time. -/
theorem Gathered.collect (consistent : types.Consistent)
    (gathered : Gathered types start given ((current, arguments) :: pending) seen collected)
    (resolved : types.resolve? current = some info) (other : info.qualifiedName ≠ "java.util.EventListener")
    (fresh : info.qualifiedName ∉ seen) :
    Gathered types start given (parents info ++ pending) (info.qualifiedName :: seen)
      ((offered info arguments).foldl addSignature collected) := by
  have alone (name : String) (info' : TypeInfo) (resolved' : types.resolve? name = some info')
      (same : info'.qualifiedName = info.qualifiedName) : info' = info :=
    consistent name current info' info resolved' resolved same
  have none : arguments = given info := by
    rw [gathered.unseen info fresh]
    exact gathered.bare _ List.mem_cons_self
  have first (target : TypeInfo) (inherits : Inherits types current target) : Inherits types start target :=
    gathered.within _ List.mem_cons_self target inherits
  constructor
  case bare =>
    intro entry listed
    rcases List.mem_append.mp listed with added | before
    · obtain ⟨parent, -, rfl⟩ := List.mem_map.mp added
      rfl
    · exact gathered.bare entry (List.mem_cons_of_mem _ before)
  case unseen =>
    intro info' unseen
    exact gathered.unseen info' fun known => unseen (List.mem_cons_of_mem _ known)
  case within =>
    intro entry listed target inherits
    rcases List.mem_append.mp listed with added | before
    · obtain ⟨parent, among, rfl⟩ := List.mem_map.mp added
      exact first target (.supertype resolved other (List.mem_reverse.mp among) inherits)
    · exact gathered.within entry (List.mem_cons_of_mem _ before) target inherits
  case started => exact gathered.started.cons _
  case onward =>
    intro name info' resolved' known parent listed
    rcases List.mem_cons.mp known with same | before
    · left
      rw [alone name info' resolved' same] at listed
      exact List.mem_append_left _ (List.mem_map_of_mem (List.mem_reverse.mpr listed))
    · rcases gathered.onward name info' resolved' before parent listed with waiting | done
      · rcases List.mem_cons.mp waiting with here | later
        · right
          cases here
          intro info'' resolved''
          cases resolved.symm.trans resolved''
          exact .inr List.mem_cons_self
        · exact .inl (List.mem_append_right _ later)
      · exact .inr (done.cons _)
  case answered =>
    intro name parameters
    rw [answered_foldl_addSignature, gathered.answered, none]
    constructor
    · rintro (⟨info', inherits, known, answered⟩ | answered)
      · exact ⟨info', inherits, List.mem_cons_of_mem _ known, answered⟩
      · exact ⟨info, first info (.own resolved other), List.mem_cons_self, answered⟩
    · rintro ⟨info', inherits, known, answered⟩
      rcases List.mem_cons.mp known with same | before
      · right
        obtain ⟨own, resolved'⟩ := inherits.resolved
        rw [← alone own info' resolved' same]
        exact answered
      · exact .inl ⟨info', inherits, before, answered⟩

theorem Collects.gathered (consistent : types.Consistent) (collects : Collects types pending seen collected methods)
    (gathered : Gathered types start given pending seen collected) :
    ∃ seen', Gathered types start given [] seen' methods := by
  induction collects with
  | drained => exact ⟨_, gathered⟩
  | unknown unresolved _ inductionHypothesis =>
    refine inductionHypothesis (gathered.skip fun info resolved => ?_)
    rw [unresolved] at resolved
    cases resolved
  | pass resolved known _ inductionHypothesis =>
    refine inductionHypothesis (gathered.skip fun info resolved' => ?_)
    cases resolved.symm.trans resolved'
    exact known
  | collect resolved other fresh _ inductionHypothesis =>
    exact inductionHypothesis (gathered.collect consistent resolved other fresh)

/-- When nothing is pending, all that the start leads to was met. -/
theorem Gathered.complete (gathered : Gathered types start given [] seen collected)
    (inherits : Inherits types start info) : info.qualifiedName ∈ seen := by
  have closed {name : String} {target : TypeInfo} (inherits : Inherits types name target)
      (settled : Met types seen name) : target.qualifiedName ∈ seen := by
    induction inherits with
    | own resolved other => exact (settled _ resolved).resolve_left other
    | @supertype name _ _ _ resolved other listed _ inductionHypothesis =>
      have known := (settled _ resolved).resolve_left other
      exact inductionHypothesis ((gathered.onward name _ resolved known _ listed).resolve_left List.not_mem_nil)
  exact closed inherits gathered.started

end

/-- The type arguments of a listener are for its own type. -/
def argumentsFor (types : TypeTable) (listener : JavaType) (info : TypeInfo) : List JavaType :=
  if types.resolve? listener.name = some info then listener.arguments else []

/-- Where the loop stands after the type of the listener. -/
theorem gathered_listener {listener : JavaType} {info : TypeInfo} (consistent : types.Consistent)
    (resolved : types.resolve? listener.name = some info) (other : info.qualifiedName ≠ "java.util.EventListener") :
    Gathered types listener.name (argumentsFor types listener) (parents info) [info.qualifiedName]
      ((offered info listener.arguments).foldl addSignature []) := by
  have own (target : TypeInfo) (known : target.qualifiedName ∈ [info.qualifiedName]) {name : String}
      (resolved' : types.resolve? name = some target) : target = info :=
    consistent name listener.name target info resolved' resolved (List.mem_singleton.mp known)
  constructor
  case bare =>
    intro entry listed
    obtain ⟨parent, -, rfl⟩ := List.mem_map.mp listed
    rfl
  case unseen =>
    intro target unseen
    refine if_neg fun same => unseen ?_
    cases resolved.symm.trans same
    exact List.mem_cons_self
  case within =>
    intro entry listed target inherits
    obtain ⟨parent, among, rfl⟩ := List.mem_map.mp listed
    exact .supertype resolved other (List.mem_reverse.mp among) inherits
  case started =>
    intro target resolved'
    cases resolved.symm.trans resolved'
    exact .inr List.mem_cons_self
  case onward =>
    intro name target resolved' known parent listed
    rw [own target known resolved'] at listed
    exact .inl (List.mem_map_of_mem (List.mem_reverse.mpr listed))
  case answered =>
    intro name parameters
    have given : argumentsFor types listener info = listener.arguments := if_pos resolved
    rw [answered_foldl_addSignature, ← given]
    constructor
    · rintro (⟨_, listed, -⟩ | answered)
      · cases listed
      · exact ⟨info, .own resolved other, List.mem_cons_self, answered⟩
    · rintro ⟨target, inherits, known, answered⟩
      right
      obtain ⟨_, resolved'⟩ := inherits.resolved
      rw [← own target known resolved']
      exact answered

/-- A method is collected iff some type declares it that the listener leads to; the type arguments of the listener are
put for the parameters of its own type. -/
theorem answered_listenerMethods_iff (consistent : types.Consistent) (listener : JavaType) (name : String)
    (parameters : List JavaType) :
    Answered (listenerMethods types listener) name parameters ↔
      ∃ info, Inherits types listener.name info ∧
        Answered (offered info (argumentsFor types listener info)) name parameters := by
  generalize methods_eq : listenerMethods types listener = methods
  cases methods_eq ▸ collects_listenerMethods types listener with
  | unknown unresolved onward =>
    cases onward
    refine iff_of_false (by rintro ⟨_, listed, -⟩; cases listed) ?_
    rintro ⟨info, inherits, -⟩
    cases inherits with
    | own resolved | supertype resolved => cases unresolved.symm.trans resolved
  | pass resolved known onward =>
    cases onward
    refine iff_of_false (by rintro ⟨_, listed, -⟩; cases listed) ?_
    rintro ⟨info, inherits, -⟩
    cases inherits with
    | own resolved' other | supertype resolved' other =>
      cases resolved.symm.trans resolved'
      exact other (known.resolve_right List.not_mem_nil)
  | collect resolved other fresh onward =>
    rw [List.append_nil] at onward
    obtain ⟨seen, gathered⟩ := onward.gathered consistent (gathered_listener consistent resolved other)
    rw [gathered.answered]
    constructor
    · rintro ⟨info, inherits, -, answered⟩
      exact ⟨info, inherits, answered⟩
    · rintro ⟨info, inherits, answered⟩
      exact ⟨info, inherits, gathered.complete inherits, answered⟩

theorem differ_listenerMethods (types : TypeTable) (listener : JavaType) :
    (listenerMethods types listener).Pairwise Differ :=
  (collects_listenerMethods types listener).differ .nil

section

variable {listener : JavaType} {info : TypeInfo} {method : Signature}

/-- A method that has no arrays of type parameters is collected with the arguments put at every depth. -/
theorem answered_instantiate (consistent : types.Consistent) (inherits : Inherits types listener.name info)
    (declared : method ∈ info.methods)
    (flat : ∀ type ∈ method.parameters, ∀ parameter ∈ info.typeParameters, ¬ HasArrayOf parameter type) :
    Answered (listenerMethods types listener) method.name
      (method.parameters.map (instantiate (info.typeParameters.zip (argumentsFor types listener info)))) := by
  rw [answered_listenerMethods_iff consistent]
  refine ⟨info, inherits, _, List.mem_map_of_mem declared, rfl, List.map_congr_left fun type listed => ?_⟩
  rw [substitute_eq_instantiate_iff]
  intro parameter array bound found
  have named : parameter ∈ info.typeParameters := (List.of_mem_zip (mem_of_boundType? found)).1
  exact absurd array (flat type listed parameter named)

/-- A method of another type than that of the listener is collected as it is declared. -/
theorem answered_inherited (consistent : types.Consistent) (inherits : Inherits types listener.name info)
    (other : types.resolve? listener.name ≠ some info) (declared : method ∈ info.methods) :
    Answered (listenerMethods types listener) method.name method.parameters := by
  rw [answered_listenerMethods_iff consistent]
  refine ⟨info, inherits, _, List.mem_map_of_mem declared, rfl, ?_⟩
  have unbound : info.typeParameters.zip (argumentsFor types listener info) = [] := by
    rw [argumentsFor, if_neg other, List.zip_nil_right]
  have each : ∀ type ∈ method.parameters, substitute [] type = id type := fun type _ => substitute_nil type
  rw [unbound, Signature.substitute, List.map_congr_left each, List.map_id]

end

end JavaWeave.Weave
