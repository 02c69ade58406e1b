import JavaWeave.Proofs.Generator.Renaming
import JavaWeave.Proofs.Text.Pieces

namespace JavaWeave

namespace Generator

open Syntax

/-- An occurrence of a name in a body. -/
inductive Occurrence where
  /-- A name is used. Its first segment refers to a declaration in sight, which is known by the number of declarations
  that are nearer, or to something outside of the body. -/
  | use (head : String) (rest : List String) (distance : Option Nat)
  /-- A variable, field or parameter is declared. -/
  | declaration (name : String)
  /-- A nested type has a constant. -/
  | constant (name : String)

/-- What a name stands for. -/
inductive Referent where
  /-- A declaration, or a part of what it declares. -/
  | declared (distance : Nat) (rest : List String)
  /-- What is called so outside of the body. -/
  | free (segments : List String)
  deriving DecidableEq

namespace Occurrence

def name : Occurrence → String
  | use head _ _ => head
  | declaration name | constant name => name

def referent? : Occurrence → Option Referent
  | use _ rest (some distance) => some (.declared distance rest)
  | use head rest none => some (.free (head :: rest))
  | declaration _ | constant _ => none

end Occurrence

/-- The use of a dotted name where the given declarations are in sight, the nearest first. -/
def useOf (sight : List String) (text : String) : Occurrence :=
  match Text.split '.' text with
  | [] => .use text [] none
  | head :: rest => .use head rest (sight.idxOf? head)

/-- The declarations in sight behind a statement. -/
def sightAfter (sight : List String) : Statement → List String
  | .declare ⟨_, _, _, name, _⟩ => name :: sight
  | .ifElse _ whenTrue none => sightAfter sight whenTrue
  | .ifElse _ whenTrue (some whenFalse) => sightAfter (sightAfter sight whenTrue) whenFalse
  | .whileLoop _ body | .doWhile body _ | .labeled _ body => sightAfter sight body
  | _ => sight

mutual

/-- The names that occur in an expression where the given declarations are in sight. -/
def occursIn (sight : List String) : Expression → List Occurrence
  | .name text => [useOf sight text]
  | .field receiver _ => occursIn sight receiver
  | .element array index => occursIn sight array ++ occursIn sight index
  | .call receiver _ _ arguments =>
    (match receiver with | some e => occursIn sight e | none => []) ++ occursInEach sight arguments
  | .create _ arguments body =>
    occursInEach sight arguments ++ (match body with | some decl => occursInType sight decl | none => [])
  | .createArray _ sizes _ elements =>
    occursInEach sight sizes ++ (match elements with | some es => occursInEach sight es | none => [])
  | .arrayElements elements => occursInEach sight elements
  | .binary _ left right | .assign _ left right => occursIn sight left ++ occursIn sight right
  | .unary _ operand | .instanceOf operand _ | .cast _ operand => occursIn sight operand
  | .conditional condition whenTrue whenFalse =>
    occursIn sight condition ++ occursIn sight whenTrue ++ occursIn sight whenFalse
  | .this _ | .literal _ | .classLiteral _ | .note _ | .verbatim _ => []

def occursInEach (sight : List String) : List Expression → List Occurrence
  | [] => []
  | e :: rest => occursIn sight e ++ occursInEach sight rest

/-- The names that occur in a statement. Labels of a switch are constants, and are not looked at. -/
def occursInStatement (sight : List String) : Statement → List Occurrence
  | .block body => occursInBody sight body
  | .expression e | .throws e | .returns (some e) => occursIn sight e
  | .declare ⟨_, _, _, name, initial⟩ =>
    (match initial with | some e => occursIn sight e | none => []) ++ [.declaration name]
  | .ifElse condition whenTrue whenFalse =>
    occursIn sight condition ++ occursInStatement sight whenTrue
      ++ (match whenFalse with | some s => occursInStatement (sightAfter sight whenTrue) s | none => [])
  | .whileLoop condition body => occursIn sight condition ++ occursInStatement sight body
  | .doWhile body condition => occursInStatement sight body ++ occursIn (sightAfter sight body) condition
  | .forLoop start condition update body =>
    let inside := start.foldl sightAfter sight
    occursInBody sight start ++ (match condition with | some e => occursIn inside e | none => [])
      ++ occursInEach inside update ++ occursInStatement inside body
  | .forEach ⟨_, _, _, name, _⟩ iterable body =>
    occursIn sight iterable ++ .declaration name :: occursInStatement (name :: sight) body
  | .switch selector cases => occursIn sight selector ++ occursInCases sight cases
  | .tryCatch body catches finalizer =>
    occursInBody sight body ++ occursInCatches sight catches
      ++ (match finalizer with | some ss => occursInBody sight ss | none => [])
  | .synchronized lock body => occursIn sight lock ++ occursInBody sight body
  | .labeled _ body => occursInStatement sight body
  | .localType type => occursInType sight type
  | .returns none | .returnsDefault | .breaks _ | .continues _ | .empty | .verbatim _ => []

/-- The names that occur in statements in sequence: what one declares is in sight of those behind. -/
def occursInBody (sight : List String) : List Statement → List Occurrence
  | [] => []
  | s :: rest => occursInStatement sight s ++ occursInBody (sightAfter sight s) rest

/-- All groups of a switch are one block. -/
def occursInCases (sight : List String) : List SwitchCase → List Occurrence
  | [] => []
  | ⟨_, body⟩ :: rest => occursInBody sight body ++ occursInCases (body.foldl sightAfter sight) rest

def occursInCatches (sight : List String) : List CatchClause → List Occurrence
  | [] => []
  | ⟨⟨_, _, _, name⟩, body⟩ :: rest =>
    .declaration name :: occursInBody (name :: sight) body ++ occursInCatches sight rest

/-- The names that occur in a nested type, whose constants and fields are in sight of all its members. -/
def occursInType (sight : List String) : TypeDecl → List Occurrence
  | ⟨_, _, _, _, _, _, _, _, constants, fields, initializers, constructors, methods, memberTypes, _, _⟩ =>
    let inside := constants.map (·.name) ++ (fields.map (·.name) ++ sight)
    constants.map (fun constant => .constant constant.name) ++ fields.map (fun field => .declaration field.name)
      ++ occursInConstants inside constants ++ occursInFields inside fields ++ occursInInitializers inside initializers
      ++ occursInConstructors inside constructors ++ occursInMethods inside methods ++ occursInTypes inside memberTypes

def occursInTypes (sight : List String) : List TypeDecl → List Occurrence
  | [] => []
  | type :: rest => occursInType sight type ++ occursInTypes sight rest

def occursInConstants (sight : List String) : List EnumConstant → List Occurrence
  | [] => []
  | ⟨_, _, arguments⟩ :: rest => occursInEach sight arguments ++ occursInConstants sight rest

def occursInFields (sight : List String) : List Field → List Occurrence
  | [] => []
  | ⟨_, _, _, _, _, initial⟩ :: rest =>
    (match initial with | some e => occursIn sight e | none => []) ++ occursInFields sight rest

def occursInInitializers (sight : List String) : List Initializer → List Occurrence
  | [] => []
  | ⟨_, _, body⟩ :: rest => occursInBody sight body ++ occursInInitializers sight rest

def occursInConstructors (sight : List String) : List Constructor → List Occurrence
  | [] => []
  | ⟨_, _, _, _, _, parameters, _, body, _⟩ :: rest =>
    parameters.map (fun parameter => .declaration parameter.name)
      ++ occursInBody (parameters.map (·.name) ++ sight) body ++ occursInConstructors sight rest

def occursInMethods (sight : List String) : List Method → List Occurrence
  | [] => []
  | ⟨_, _, _, _, _, _, parameters, _, body, _, _⟩ :: rest =>
    parameters.map (fun parameter => .declaration parameter.name)
      ++ occursInBody (parameters.map (·.name) ++ sight) body ++ occursInMethods sight rest

end

/-- What the names among some occurrences stand for. -/
def referents (occurrences : List Occurrence) : List Referent := occurrences.filterMap Occurrence.referent?

/-- The name that a scope has for another. -/
def Scope.look (scope : Scope) (name : String) : String := (scope.bindings.lookup name).getD name

/-- Declarations in sight before and after renaming, and the scope of the renaming. The own names are those of the
variables that the body declares outside of nested types. -/
structure Tracks (own sight : List String) (scope : Scope) (sight' : List String) : Prop where
  same : ∀ name, '$' ∉ name.toList → sight.idxOf? name = sight'.idxOf? (scope.look name)
  kept : ∀ name, '$' ∉ name.toList →
    scope.look name = name ∨ '$' ∈ (scope.look name).toList ∧ scope.look name ∈ sight'
  dotless : ∀ name, '.' ∉ name.toList → '.' ∉ (scope.look name).toList
  taken : ∀ name ∈ sight', '$' ∈ name.toList → name ∈ scope.names.taken
  only : ∀ name, name ∉ own → scope.look name = name

/-- A name that is given to a declaration: its own, or one with a number that nothing in sight has. -/
inductive Gives (own sight' : List String) (scope : Scope) (name : String) : String → Prop
  | itself : Gives own sight' scope name name
  | numbered (n : Nat) (declared : name ∈ own) (unseen : Names.Pool.numbered name n ∉ sight')
    (taken : Names.Pool.numbered name n ∈ scope.names.taken) :
    Gives own sight' scope name (Names.Pool.numbered name n)

namespace Tracks

variable {own sight sight' : List String} {scope scope' : Scope}

theorem dollar_numbered (base : String) (n : Nat) : '$' ∈ (Names.Pool.numbered base n).toList := by
  simp [Names.Pool.numbered]

theorem dotless_numbered {base : String} (n : Nat) (plain : '.' ∉ base.toList) :
    '.' ∉ (Names.Pool.numbered base n).toList := by
  have digits : (toString n).toList = Nat.toDigits 10 n := Nat.toList_repr
  simp only [Names.Pool.numbered, String.toList_append, List.mem_append, digits]
  rintro ((front | mark) | digit)
  · exact plain front
  · exact absurd mark (by decide)
  · exact absurd (Nat.isDigit_of_mem_toDigits (by decide) (by decide) digit) (by decide)

/-- One more declaration comes in sight. -/
theorem push (tracks : Tracks own sight scope sight') {name new : String} (plain : '$' ∉ name.toList)
    (grows : scope.names.taken ⊆ scope'.names.taken) (gives : Gives own sight' scope' name new)
    (here : scope'.look name = new) (others : ∀ other, other ≠ name → scope'.look other = scope.look other) :
    Tracks own (name :: sight) scope' (new :: sight') := by
  have apart (other : String) (bare : '$' ∉ other.toList) (different : other ≠ name) : scope.look other ≠ new := by
    cases gives with
    | itself =>
      rcases tracks.kept other bare with same | ⟨marked, _⟩
      · rwa [same]
      · exact fun same => plain (same ▸ marked)
    | numbered n _ unseen _ =>
      rcases tracks.kept other bare with same | ⟨_, seen⟩
      · exact fun numbered => bare (same ▸ numbered ▸ dollar_numbered name n)
      · exact fun same => unseen (same ▸ seen)
  constructor
  · intro other bare
    rw [List.idxOf?_cons, List.idxOf?_cons]
    by_cases same : other = name
    · subst same
      simp [here]
    · have different : name ≠ other := fun eq => same eq.symm
      rw [others other same, if_neg (by simpa using different), if_neg (by simpa using (apart other bare same).symm),
        tracks.same other bare]
  · intro other bare
    by_cases same : other = name
    · subst same
      rw [here]
      cases gives with
      | itself => exact Or.inl rfl
      | numbered n => exact Or.inr ⟨dollar_numbered other n, List.mem_cons_self⟩
    · rw [others other same]
      exact (tracks.kept other bare).imp id fun ⟨marked, seen⟩ => ⟨marked, List.mem_cons_of_mem _ seen⟩
  · intro other bare
    by_cases same : other = name
    · subst same
      rw [here]
      cases gives with
      | itself => exact bare
      | numbered n => exact dotless_numbered n bare
    · rw [others other same]
      exact tracks.dotless other bare
  · intro other member marked
    rcases List.mem_cons.mp member with rfl | old
    · cases gives with
      | itself => exact absurd marked plain
      | numbered n _ _ taken => exact taken
    · exact grows (tracks.taken other old marked)
  · intro other foreign
    by_cases same : other = name
    · subst same
      rw [here]
      cases gives with
      | itself => rfl
      | numbered n declared => exact absurd declared foreign
    · rw [others other same]
      exact tracks.only other foreign

/-- Behind a block the declarations in sight are those in front of it. -/
theorem restore (tracks : Tracks own sight scope sight') (grows : scope.names.taken ⊆ scope'.names.taken) :
    Tracks own sight { scope' with bindings := scope.bindings } sight' :=
  ⟨tracks.same, tracks.kept, tracks.dotless, fun name member marked => grows (tracks.taken name member marked),
    tracks.only⟩

/-- A name that a nested type declares hides what is called so outside. -/
theorem hide (tracks : Tracks own sight scope sight') {names : List String}
    (plain : ∀ name ∈ names, '$' ∉ name.toList) : Tracks own (names ++ sight) (scope.hide names) (names ++ sight') := by
  induction names with
  | nil => exact tracks
  | cons name rest ih =>
    have inside := ih fun name member => plain name (List.mem_cons_of_mem _ member)
    refine inside.push (plain name List.mem_cons_self) (List.Subset.refl _) .itself ?_ fun other different => ?_
    · simp [Scope.look, Scope.hide]
    · have unequal : (other == name) = false := by simpa using different
      simp [Scope.look, Scope.hide, List.lookup_cons, unequal]

theorem enter (tracks : Tracks own sight scope sight') {fields : List Field}
    (plain : ∀ name ∈ fields.map (·.name), '$' ∉ name.toList) :
    Tracks own (fields.map (·.name) ++ sight) (scope.enter fields) (fields.map (·.name) ++ sight') :=
  have inside := tracks.hide plain
  ⟨inside.same, inside.kept, inside.dotless, inside.taken, inside.only⟩

/-- Constants that have no name of a variable of the body hide nothing that is renamed. -/
theorem constants (tracks : Tracks own sight scope sight') {names : List String}
    (plain : ∀ name ∈ names, '$' ∉ name.toList) (foreign : ∀ name ∈ names, name ∉ own) :
    Tracks own (names ++ sight) scope (names ++ sight') := by
  induction names with
  | nil => exact tracks
  | cons name rest ih =>
    have inside := ih (fun name member => plain name (List.mem_cons_of_mem _ member))
      fun name member => foreign name (List.mem_cons_of_mem _ member)
    exact inside.push (plain name List.mem_cons_self) (List.Subset.refl _) .itself
      (tracks.only name (foreign name List.mem_cons_self)) fun _ _ => rfl

/-- A variable that is declared comes in sight under its new name. -/
theorem declare (tracks : Tracks own sight scope sight') {name : String} (plain : '$' ∉ name.toList)
    (declared : scope.nested = false → name ∈ own) :
    Tracks own (name :: sight) (declareName name scope).2 ((declareName name scope).1 :: sight') := by
  have others (bindings : List (String × String)) (new : String) (other : String) (different : other ≠ name) :
      (((name, new) :: bindings).lookup other).getD other = (bindings.lookup other).getD other := by
    have unequal : (other == name) = false := by simpa using different
    simp [List.lookup_cons, unequal]
  cases nested : scope.nested with
  | true =>
    rw [declareName_nested nested]
    exact tracks.push plain (List.Subset.refl _) .itself (by simp [Scope.look]) (others _ _)
  | false =>
    rw [declareName_outside nested]
    refine tracks.push plain Names.Pool.subset_reserve ?_ (by simp [Scope.look]) (others _ _)
    rcases Names.Pool.freshName_cases scope.names name with ⟨_, same⟩ | ⟨_, n, first, same⟩
    · rw [same]
      exact .itself
    · rw [same]
      exact .numbered n (declared nested) (fun seen => first.1.2 (tracks.taken _ seen (dollar_numbered name n)))
        Names.Pool.mem_reserve

/-- A use refers to the same declaration once it is renamed. -/
theorem use (tracks : Tracks own sight scope sight') {text : String} (plain : '$' ∉ (useOf sight text).name.toList) :
    (useOf sight' (scope.rename text)).referent? = (useOf sight text).referent? := by
  cases found : Text.split '.' text with
  | nil => exact absurd found (Text.split_ne_nil '.' text)
  | cons head rest =>
    have bare : '$' ∉ head.toList := by simpa [useOf, found, Occurrence.name] using plain
    have dotless (piece : String) (inside : piece ∈ head :: rest) : '.' ∉ piece.toList :=
      Text.not_mem_split (found ▸ inside)
    have renamed : Text.split '.' (scope.rename text) = scope.look head :: rest := by
      simp only [Scope.rename, found, Scope.look]
      cases bound : scope.bindings.lookup head with
      | none => exact found
      | some new =>
        have here : scope.look head = new := by simp [Scope.look, bound]
        refine Text.split_intercalate fun piece inside => ?_
        rcases List.mem_cons.mp inside with rfl | later
        · exact here ▸ tracks.dotless head (dotless head List.mem_cons_self)
        · exact dotless piece (List.mem_cons_of_mem _ later)
    simp only [useOf, found, renamed]
    rw [tracks.same head bare]
    cases seen : sight'.idxOf? (scope.look head) with
    | some distance => rfl
    | none =>
      -- a name that is renamed is in sight
      rcases tracks.kept head bare with same | ⟨_, inside⟩
      · rw [same]
      · exact absurd inside (List.idxOf?_eq_none_iff.mp seen)

end Tracks

/-- Occurrences of identifiers of the source, of which no constant is called like a variable of the body. -/
structure Fine (own : List String) (occurrences : List Occurrence) : Prop where
  plain : ∀ occurrence ∈ occurrences, '$' ∉ occurrence.name.toList
  foreign : ∀ name, .constant name ∈ occurrences → name ∉ own

namespace Fine

variable {own : List String} {first second : List Occurrence}

theorem of_subset (fine : Fine own second) (inside : first ⊆ second) : Fine own first :=
  ⟨fun occurrence member => fine.plain occurrence (inside member), fun name member => fine.foreign name (inside member)⟩

theorem left (fine : Fine own (first ++ second)) : Fine own first := fine.of_subset (List.subset_append_left _ _)

theorem right (fine : Fine own (first ++ second)) : Fine own second := fine.of_subset (List.subset_append_right _ _)

theorem tail {occurrence : Occurrence} (fine : Fine own (occurrence :: second)) : Fine own second :=
  fine.of_subset (List.subset_cons_self _ _)

/-- Names that are declared, as parameters are. -/
theorem declared {α : Type} {named : α → String} {items : List α}
    (fine : Fine own (items.map fun item => .declaration (named item))) : ∀ name ∈ items.map named, '$' ∉ name.toList := by
  intro name member
  obtain ⟨item, inside, rfl⟩ := List.mem_map.mp member
  exact fine.plain (.declaration (named item)) (List.mem_map_of_mem inside)

theorem constants {α : Type} {named : α → String} {items : List α}
    (fine : Fine own (items.map fun item => .constant (named item))) :
    (∀ name ∈ items.map named, '$' ∉ name.toList) ∧ ∀ name ∈ items.map named, name ∉ own := by
  constructor <;> intro name member <;> obtain ⟨item, inside, rfl⟩ := List.mem_map.mp member
  · exact fine.plain (.constant (named item)) (List.mem_map_of_mem inside)
  · exact fine.foreign _ (List.mem_map_of_mem inside)

theorem head {occurrence : Occurrence} (fine : Fine own (occurrence :: second)) : '$' ∉ occurrence.name.toList :=
  fine.plain occurrence List.mem_cons_self

end Fine

theorem referents_append (first second : List Occurrence) :
    referents (first ++ second) = referents first ++ referents second := List.filterMap_append

theorem referents_singleton {first second : Occurrence} (same : first.referent? = second.referent?) :
    referents [first] = referents [second] := by
  rw [referents, referents, List.filterMap_cons, List.filterMap_cons, same]

/-- Declarations refer to nothing. -/
theorem referents_declarations {α : Type} (name : α → String) (items : List α) :
    referents (items.map fun item => .declaration (name item)) = [] := by
  induction items with
  | nil => rfl
  | cons item rest ih => exact ih

theorem referents_constants {α : Type} (name : α → String) (items : List α) :
    referents (items.map fun item => .constant (name item)) = [] := by
  induction items with
  | nil => rfl
  | cons item rest ih => exact ih

theorem referents_congr {first first' second second' : List Occurrence} (front : referents first = referents first')
    (back : referents second = referents second') : referents (first ++ second) = referents (first' ++ second') := by
  rw [referents_append, referents_append, front, back]

/-- The variables that are declared outside of nested types are the body's own. -/
def Owns (own : List String) (scope : Scope) (declared : List (String × JavaType)) : Prop :=
  scope.nested = false → namesOf declared ⊆ own

namespace Owns

variable {own : List String} {scope scope' : Scope} {first second : List (String × JavaType)}

theorem of_nested (nested : scope.nested = true) : Owns own scope first := fun outside => by
  rw [nested] at outside
  cases outside

theorem left (owns : Owns own scope (first ++ second)) : Owns own scope first := fun outside _ member =>
  owns outside (by rw [namesOf, List.map_append]; exact List.mem_append_left _ member)

theorem right (owns : Owns own scope (first ++ second)) : Owns own scope second := fun outside _ member =>
  owns outside (by rw [namesOf, List.map_append]; exact List.mem_append_right _ member)

theorem head {name : String} {type : JavaType} (owns : Owns own scope ((name, type) :: second)) :
    scope.nested = false → name ∈ own := fun outside => owns outside List.mem_cons_self

theorem tail {declared : String × JavaType} (owns : Owns own scope (declared :: second)) : Owns own scope second :=
  fun outside _ member => owns outside (List.mem_cons_of_mem _ member)

theorem after (owns : Owns own scope first) (same : scope'.nested = scope.nested) : Owns own scope' first :=
  fun outside => owns (same ▸ outside)

end Owns

theorem names_renameConstants (scope : Scope) (constants : List EnumConstant) :
    (renameConstants scope constants).map (·.name) = constants.map (·.name) := by
  induction constants with
  | nil => rfl
  | cons constant rest ih =>
    obtain ⟨_, name, _⟩ := constant
    exact congrArg (name :: ·) ih

theorem names_renameFields (scope : Scope) (fields : List Field) :
    (renameFields scope fields).map (·.name) = fields.map (·.name) := by
  induction fields with
  | nil => rfl
  | cons field rest ih =>
    obtain ⟨_, _, _, _, name, _ | _⟩ := field
    · exact congrArg (name :: ·) ih
    · exact congrArg (name :: ·) ih

section

variable {own : List String}

mutual

theorem referents_expression {sight sight' : List String} {scope : Scope} (tracks : Tracks own sight scope sight') :
    (e : Expression) → Fine own (occursIn sight e) →
    referents (occursIn sight' (renameExpression scope e)) = referents (occursIn sight e)
  | .name _, fine => referents_singleton (tracks.use fine.head)
  | .field receiver _, fine => referents_expression tracks receiver fine
  | .element left right, fine | .binary _ left right, fine | .assign _ left right, fine =>
    referents_congr (referents_expression tracks left fine.left) (referents_expression tracks right fine.right)
  | .call none _ _ arguments, fine => referents_congr rfl (referents_each tracks arguments fine.right)
  | .call (some receiver) _ _ arguments, fine =>
    referents_congr (referents_expression tracks receiver fine.left) (referents_each tracks arguments fine.right)
  | .create _ arguments none, fine => referents_congr (referents_each tracks arguments fine.left) rfl
  | .create _ arguments (some decl), fine =>
    referents_congr (referents_each tracks arguments fine.left) (referents_type tracks decl fine.right)
  | .createArray _ sizes _ none, fine => referents_congr (referents_each tracks sizes fine.left) rfl
  | .createArray _ sizes _ (some elements), fine =>
    referents_congr (referents_each tracks sizes fine.left) (referents_each tracks elements fine.right)
  | .arrayElements elements, fine => referents_each tracks elements fine
  | .unary _ operand, fine | .instanceOf operand _, fine | .cast _ operand, fine =>
    referents_expression tracks operand fine
  | .conditional condition whenTrue whenFalse, fine =>
    referents_congr
      (referents_congr (referents_expression tracks condition fine.left.left)
        (referents_expression tracks whenTrue fine.left.right))
      (referents_expression tracks whenFalse fine.right)
  | .this _, _ | .literal _, _ | .classLiteral _, _ | .note _, _ | .verbatim _, _ => rfl

theorem referents_each {sight sight' : List String} {scope : Scope} (tracks : Tracks own sight scope sight') :
    (es : List Expression) → Fine own (occursInEach sight es) →
    referents (occursInEach sight' (renameExpressions scope es)) = referents (occursInEach sight es)
  | [], _ => rfl
  | e :: rest, fine =>
    referents_congr (referents_expression tracks e fine.left) (referents_each tracks rest fine.right)

theorem referents_type {sight sight' : List String} {scope : Scope} (tracks : Tracks own sight scope sight') :
    (t : TypeDecl) → Fine own (occursInType sight t) →
    referents (occursInType sight' (renameType scope t)) = referents (occursInType sight t)
  | ⟨_, _, _, _, _, _, _, _, constants, fields, initializers, constructors, methods, memberTypes, _, _⟩, fine => by
    have known := fine.left.left.left.left.left.left
    have inside : Tracks own (constants.map (·.name) ++ (fields.map (·.name) ++ sight)) (scope.enter fields)
        ((renameConstants (scope.enter fields) constants).map (·.name)
          ++ ((renameFields (scope.enter fields) fields).map (·.name) ++ sight')) := by
      rw [names_renameConstants, names_renameFields]
      exact (tracks.enter known.right.declared).constants known.left.constants.1 known.left.constants.2
    have nested : (scope.enter fields).nested = true := rfl
    have heads := referents_congr ((referents_constants (·.name) (renameConstants (scope.enter fields) constants)).trans
        (referents_constants (·.name) constants).symm)
      ((referents_declarations (·.name) (renameFields (scope.enter fields) fields)).trans
        (referents_declarations (·.name) fields).symm)
    have values := referents_congr (referents_congr heads
        (referents_inConstants inside constants fine.left.left.left.left.left.right))
      (referents_inFields inside fields fine.left.left.left.left.right)
    have bodies := referents_congr (referents_congr (referents_congr values
        (referents_inInitializers inside nested initializers fine.left.left.left.right))
        (referents_inConstructors inside nested constructors fine.left.left.right))
      (referents_inMethods inside nested methods fine.left.right)
    exact referents_congr bodies (referents_types inside memberTypes fine.right)

theorem referents_types {sight sight' : List String} {scope : Scope} (tracks : Tracks own sight scope sight') :
    (ts : List TypeDecl) → Fine own (occursInTypes sight ts) →
    referents (occursInTypes sight' (renameTypes scope ts)) = referents (occursInTypes sight ts)
  | [], _ => rfl
  | t :: rest, fine => referents_congr (referents_type tracks t fine.left) (referents_types tracks rest fine.right)

theorem referents_inConstants {sight sight' : List String} {scope : Scope} (tracks : Tracks own sight scope sight') :
    (constants : List EnumConstant) → Fine own (occursInConstants sight constants) →
    referents (occursInConstants sight' (renameConstants scope constants)) =
      referents (occursInConstants sight constants)
  | [], _ => rfl
  | ⟨_, _, arguments⟩ :: rest, fine =>
    referents_congr (referents_each tracks arguments fine.left) (referents_inConstants tracks rest fine.right)

theorem referents_inFields {sight sight' : List String} {scope : Scope} (tracks : Tracks own sight scope sight') :
    (fields : List Field) → Fine own (occursInFields sight fields) →
    referents (occursInFields sight' (renameFields scope fields)) = referents (occursInFields sight fields)
  | [], _ => rfl
  | ⟨_, _, _, _, _, none⟩ :: rest, fine => referents_congr rfl (referents_inFields tracks rest fine.right)
  | ⟨_, _, _, _, _, some initial⟩ :: rest, fine =>
    referents_congr (referents_expression tracks initial fine.left) (referents_inFields tracks rest fine.right)

theorem referents_inInitializers {sight sight' : List String} {scope : Scope} (tracks : Tracks own sight scope sight')
    (nested : scope.nested = true) : (initializers : List Initializer) →
    Fine own (occursInInitializers sight initializers) →
    referents (occursInInitializers sight' (renameInitializers scope initializers)) =
      referents (occursInInitializers sight initializers)
  | [], _ => rfl
  | ⟨_, _, body⟩ :: rest, fine =>
    referents_congr (follows_body body scope tracks fine.left (.of_nested nested)).1
      (referents_inInitializers tracks nested rest fine.right)

theorem referents_inConstructors {sight sight' : List String} {scope : Scope} (tracks : Tracks own sight scope sight')
    (nested : scope.nested = true) : (constructors : List Constructor) →
    Fine own (occursInConstructors sight constructors) →
    referents (occursInConstructors sight' (renameConstructors scope constructors)) =
      referents (occursInConstructors sight constructors)
  | [], _ => rfl
  | ⟨_, _, _, _, _, _, _, body, _⟩ :: rest, fine =>
    have inside := follows_body body _ (tracks.hide fine.left.left.declared) fine.left.right (.of_nested nested)
    referents_congr (referents_congr rfl inside.1) (referents_inConstructors tracks nested rest fine.right)

theorem referents_inMethods {sight sight' : List String} {scope : Scope} (tracks : Tracks own sight scope sight')
    (nested : scope.nested = true) : (methods : List Method) → Fine own (occursInMethods sight methods) →
    referents (occursInMethods sight' (renameMethods scope methods)) = referents (occursInMethods sight methods)
  | [], _ => rfl
  | ⟨_, _, _, _, _, _, _, _, body, _, _⟩ :: rest, fine =>
    have inside := follows_body body _ (tracks.hide fine.left.left.declared) fine.left.right (.of_nested nested)
    referents_congr (referents_congr rfl inside.1) (referents_inMethods tracks nested rest fine.right)

/-- A statement that is renamed, and what is in sight behind it. -/
theorem follows_statement {sight sight' : List String} : (s : Statement) → (scope : Scope) →
    Tracks own sight scope sight' → Fine own (occursInStatement sight s) → Owns own scope (localsIn s) →
    referents (occursInStatement sight' (renameStatement s scope).1) = referents (occursInStatement sight s) ∧
      Tracks own (sightAfter sight s) (renameStatement s scope).2 (sightAfter sight' (renameStatement s scope).1)
  | .block body, scope, tracks, fine, owns => by
    exact follows_body body scope tracks fine owns
  | .expression e, scope, tracks, fine, _ | .throws e, scope, tracks, fine, _
  | .returns (some e), scope, tracks, fine, _ => by
    exact ⟨referents_expression tracks e fine, tracks⟩
  | .declare ⟨_, _, _, name, none⟩, scope, tracks, fine, owns => by
    exact ⟨rfl, tracks.declare fine.right.head owns.head⟩
  | .declare ⟨_, _, _, name, some initial⟩, scope, tracks, fine, owns => by
    exact ⟨referents_congr (referents_expression tracks initial fine.left) rfl,
      tracks.declare fine.right.head owns.head⟩
  | .ifElse condition whenTrue none, scope, tracks, fine, owns => by
    obtain ⟨first, behind⟩ := follows_statement whenTrue scope tracks fine.left.right owns.left
    exact ⟨referents_congr (referents_congr (referents_expression tracks condition fine.left.left) first) rfl, behind⟩
  | .ifElse condition whenTrue (some whenFalse), scope, tracks, fine, owns => by
    obtain ⟨first, between⟩ := follows_statement whenTrue scope tracks fine.left.right owns.left
    obtain ⟨second, behind⟩ := follows_statement whenFalse _ between fine.right
      (owns.right.after (declaring_statement whenTrue scope).nested)
    exact ⟨referents_congr (referents_congr (referents_expression tracks condition fine.left.left) first) second, behind⟩
  | .whileLoop condition body, scope, tracks, fine, owns => by
    obtain ⟨inside, behind⟩ := follows_statement body scope tracks fine.right owns
    exact ⟨referents_congr (referents_expression tracks condition fine.left) inside, behind⟩
  | .doWhile body condition, scope, tracks, fine, owns => by
    obtain ⟨inside, behind⟩ := follows_statement body scope tracks fine.left owns
    exact ⟨referents_congr inside (referents_expression behind condition fine.right), behind⟩
  | .forLoop start none update body, scope, tracks, fine, owns => by
    obtain ⟨first, between⟩ := follows_statements start scope tracks fine.left.left.left owns.left
    have starts := declaring_statements start scope
    obtain ⟨inside, _⟩ := follows_statement body _ between fine.right (owns.right.after starts.nested)
    exact ⟨referents_congr (referents_congr (referents_congr first rfl)
      (referents_each between update fine.left.right)) inside,
      tracks.restore (starts.trans (declaring_statement body _)).grows⟩
  | .forLoop start (some condition) update body, scope, tracks, fine, owns => by
    obtain ⟨first, between⟩ := follows_statements start scope tracks fine.left.left.left owns.left
    have starts := declaring_statements start scope
    obtain ⟨inside, _⟩ := follows_statement body _ between fine.right (owns.right.after starts.nested)
    exact ⟨referents_congr (referents_congr
      (referents_congr first (referents_expression between condition fine.left.left.right))
      (referents_each between update fine.left.right)) inside,
      tracks.restore (starts.trans (declaring_statement body _)).grows⟩
  | .forEach ⟨_, _, type, name, _⟩ iterable body, scope, tracks, fine, owns => by
    have named := declaring_declareName name type scope
    obtain ⟨inside, _⟩ := follows_statement body _ (tracks.declare fine.right.head owns.head) fine.right.tail
      (owns.tail.after named.nested)
    exact ⟨referents_congr (referents_expression tracks iterable fine.left) inside,
      tracks.restore (named.trans (declaring_statement body _)).grows⟩
  | .switch selector cases, scope, tracks, fine, owns => by
    exact ⟨referents_congr (referents_expression tracks selector fine.left)
      (follows_cases cases scope tracks fine.right owns), tracks.restore (declaring_cases cases scope).grows⟩
  | .tryCatch body catches none, scope, tracks, fine, owns => by
    obtain ⟨inside, between⟩ := follows_body body scope tracks fine.left.left owns.left.left
    obtain ⟨handled, behind⟩ := follows_catches catches _ between fine.left.right
      (owns.left.right.after (declaring_body body scope).nested)
    exact ⟨referents_congr (referents_congr inside handled) rfl, behind⟩
  | .tryCatch body catches (some finalizer), scope, tracks, fine, owns => by
    obtain ⟨inside, between⟩ := follows_body body scope tracks fine.left.left owns.left.left
    have first := declaring_body body scope
    obtain ⟨handled, between⟩ := follows_catches catches _ between fine.left.right (owns.left.right.after first.nested)
    obtain ⟨last, behind⟩ := follows_body finalizer _ between fine.right
      (owns.right.after (first.trans (declaring_catches catches _)).nested)
    exact ⟨referents_congr (referents_congr inside handled) last, behind⟩
  | .synchronized lock body, scope, tracks, fine, owns => by
    obtain ⟨inside, behind⟩ := follows_body body scope tracks fine.right owns
    exact ⟨referents_congr (referents_expression tracks lock fine.left) inside, behind⟩
  | .labeled _ body, scope, tracks, fine, owns => by
    exact follows_statement body scope tracks fine owns
  | .localType type, scope, tracks, fine, _ => by
    exact ⟨referents_type tracks type fine, tracks⟩
  | .returns none, scope, tracks, _, _ | .returnsDefault, scope, tracks, _, _ | .breaks _, scope, tracks, _, _
  | .continues _, scope, tracks, _, _ | .empty, scope, tracks, _, _ | .verbatim _, scope, tracks, _, _ => by
    exact ⟨rfl, tracks⟩

theorem follows_statements {sight sight' : List String} : (body : List Statement) → (scope : Scope) →
    Tracks own sight scope sight' → Fine own (occursInBody sight body) → Owns own scope (localsInAll body) →
    referents (occursInBody sight' (renameStatements body scope).1) = referents (occursInBody sight body) ∧
      Tracks own (body.foldl sightAfter sight) (renameStatements body scope).2
        ((renameStatements body scope).1.foldl sightAfter sight')
  | [], scope, tracks, _, _ => by
    exact ⟨rfl, tracks⟩
  | s :: rest, scope, tracks, fine, owns => by
    obtain ⟨first, between⟩ := follows_statement s scope tracks fine.left owns.left
    obtain ⟨second, behind⟩ := follows_statements rest _ between fine.right
      (owns.right.after (declaring_statement s scope).nested)
    exact ⟨referents_congr first second, behind⟩

/-- A block that is renamed. -/
theorem follows_body {sight sight' : List String} : (body : List Statement) → (scope : Scope) →
    Tracks own sight scope sight' → Fine own (occursInBody sight body) → Owns own scope (localsInAll body) →
    referents (occursInBody sight' (renameBody body scope).1) = referents (occursInBody sight body) ∧
      Tracks own sight (renameBody body scope).2 sight'
  | [], scope, tracks, _, _ => by
    exact ⟨rfl, tracks⟩
  | s :: rest, scope, tracks, fine, owns => by
    obtain ⟨first, between⟩ := follows_statement s scope tracks fine.left owns.left
    obtain ⟨second, _⟩ := follows_statements rest _ between fine.right
      (owns.right.after (declaring_statement s scope).nested)
    exact ⟨referents_congr first second,
      tracks.restore ((declaring_statement s scope).trans (declaring_statements rest _)).grows⟩

theorem follows_cases {sight sight' : List String} : (cases : List SwitchCase) → (scope : Scope) →
    Tracks own sight scope sight' → Fine own (occursInCases sight cases) → Owns own scope (localsInCases cases) →
    referents (occursInCases sight' (renameCases cases scope).1) = referents (occursInCases sight cases)
  | [], scope, _, _, _ => by
    rfl
  | ⟨_, body⟩ :: rest, scope, tracks, fine, owns => by
    obtain ⟨first, between⟩ := follows_statements body scope tracks fine.left owns.left
    exact referents_congr first (follows_cases rest _ between fine.right
      (owns.right.after (declaring_statements body scope).nested))

theorem follows_catches {sight sight' : List String} : (catches : List CatchClause) → (scope : Scope) →
    Tracks own sight scope sight' → Fine own (occursInCatches sight catches) →
    Owns own scope (localsInCatches catches) →
    referents (occursInCatches sight' (renameCatches catches scope).1) = referents (occursInCatches sight catches) ∧
      Tracks own sight (renameCatches catches scope).2 sight'
  | [], scope, tracks, _, _ => by
    exact ⟨rfl, tracks⟩
  | ⟨⟨_, _, type, name⟩, body⟩ :: rest, scope, tracks, fine, owns => by
    have named := declaring_declareName name type scope
    have clause := named.trans (declaring_body body _)
    obtain ⟨inside, _⟩ := follows_body body _ (tracks.declare fine.left.head owns.left.head) fine.left.tail
      (owns.left.tail.after named.nested)
    obtain ⟨later, behind⟩ := follows_catches rest _ (tracks.restore clause.grows) fine.right
      (owns.right.after clause.nested)
    exact ⟨referents_congr inside later, behind⟩

end

end

/-- Renaming the variables of a body apart leaves each name what it stands for, if no nested type has a constant called
like one of the variables. The names of the source have no dollar sign. -/
theorem renameApart_referents (taken : List String) (body : List Statement)
    (plain : ∀ occurrence ∈ occursInBody [] body, '$' ∉ occurrence.name.toList)
    (foreign : ∀ name, .constant name ∈ occursInBody [] body → name ∉ namesOf (localsInAll body)) :
    referents (occursInBody [] (renameApart taken body)) = referents (occursInBody [] body) := by
  have begun : Tracks (namesOf (localsInAll body)) [] { names := .ofList taken } [] :=
    ⟨fun _ _ => rfl, fun _ _ => Or.inl rfl, fun _ bare => bare, fun _ none => (nomatch none), fun _ _ => rfl⟩
  exact (follows_body body _ begun ⟨plain, foreign⟩ fun _ => List.Subset.refl _).1

/-- A variable, and an enum whose constant of that name is used by one of its methods. -/
def shadowed : List Statement := [
  .declare { type := .named "int", name := "A", initial := some (.int 1) },
  .localType {
    kind := .enum
    name := "E"
    constants := [{ name := "A" }]
    methods := [{ returnType := .named "E", name := "me", body := [.returns (some (.name "A"))] }] }]

/-- The use of a constant of a nested type follows a variable of its name. -/
theorem renameApart_constant :
    referents (occursInBody [] shadowed) = [.declared 0 []] ∧
      referents (occursInBody [] (renameApart ["A"] shadowed)) = [.declared 1 []] := by
  decide +kernel

end Generator

end JavaWeave
