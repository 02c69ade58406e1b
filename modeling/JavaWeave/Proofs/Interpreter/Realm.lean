import JavaWeave.Generator.Yield
import JavaWeave.Interpreter.Statement

/-! Code that keeps to itself. It touches the variables that it declares, fields of the object it runs on and what
that object has captured. It makes no objects but arrays and exceptions of the library, and once they are made it
changes them no more. -/

namespace JavaWeave.Interpreter

open Syntax

/-- What code may touch besides the variables that it declares itself. -/
structure Realm where
  /-- The fields of the current object, which may be assigned. -/
  fields : List String
  /-- What the current object has captured. -/
  captured : List String
  /-- The names that may hold objects of any kind. All others hold at most exceptions and arrays that the code has
  made, or arrays of plain values that it was given. -/
  loose : String → Bool
  /-- The names of the exceptions that the code may make. -/
  exceptions : List String
  /-- Whether the code is the body of a generator, which may call `yield`. -/
  yields : Bool

/-- The realm of the code that a generator's body becomes: its variables are fields, and nothing is yielded. -/
def Realm.coded (realm : Realm) (slots : List String) : Realm := { realm with fields := slots, yields := false }

/-- The names that the scopes around code are known to declare, from the innermost on. -/
abbrev Sight := List (List String)

namespace Sight

def declare (name : String) : Sight → Sight
  | [] => []
  | names :: rest => (name :: names) :: rest

def has (sight : Sight) (name : String) : Bool := sight.any (·.contains name)

/-- What is declared behind a statement. -/
def after (sight : Sight) : Statement → Sight
  | .declare decl => sight.declare decl.name
  | _ => sight

/-- What is declared behind statements. -/
def afterAll (sight : Sight) (body : List Statement) : Sight := body.foldl after sight

end Sight

/-- Whether a name has one segment. -/
def isUndotted (name : String) : Bool := Text.split '.' name == [name]

/-- Whether an expression in front of a dot stands for a value if the names in it are those of variables. -/
def isFront : Expression → Bool
  | .name name => isUndotted name && name != "super"
  | _ => true

namespace Realm

variable (realm : Realm)

/-- Whether a name stands for a variable that may be assigned. -/
def assigns (sight : Sight) (name : String) : Bool := sight.has name || realm.fields.contains name

/-- Whether a name stands for a variable of the realm. -/
def knows (sight : Sight) (name : String) : Bool := realm.assigns sight name || realm.captured.contains name

/-- The variable that an expression stands for as the target of an assignment. -/
def target? (sight : Sight) : Expression → Option String
  | .name name => if isUndotted name && realm.assigns sight name then some name else none
  | _ => none

mutual

/-- Whether an expression keeps to the realm. If it is not loose its value is an exception or array that the code has
made, an array of plain values, or no object. -/
def evaluates (sight : Sight) (loose : Bool) : Expression → Bool
  | .name name => realm.knows sight name && (loose || !realm.loose name)
  | .literal _ | .classLiteral _ => true
  -- A sum may be a text, for which the classes of its parts can be asked.
  | .binary op left right => evaluates sight (op != .add) left && evaluates sight (op != .add) right
  | .unary op operand => if op.steps then (realm.target? sight operand).isSome else evaluates sight true operand
  | .assign none target value =>
    match realm.target? sight target with
    | some name => evaluates sight (loose && realm.loose name) value
    | none => false
  | .assign (some op) target value =>
    match realm.target? sight target with
    | some name => (op != .add || !realm.loose name) && evaluates sight (op != .add) value
    | none => false
  | .instanceOf operand _ => evaluates sight true operand
  | .cast type operand => evaluates sight (loose || type.isPrimitive) operand
  | .conditional condition whenTrue whenFalse =>
    evaluates sight true condition && evaluates sight loose whenTrue && evaluates sight loose whenFalse
  | .create type arguments none => realm.exceptions.contains type.name && evaluatesAll sight arguments
  | .createArray _ sizes _ none => evaluatesAll sight sizes
  | .createArray _ sizes _ (some elements) => evaluatesAll sight sizes && evaluatesAll sight elements
  | .arrayElements elements => evaluatesAll sight elements
  | .element array index => evaluates sight false array && evaluates sight true index
  | .field receiver _ => isFront receiver && evaluates sight false receiver
  -- What an object has for a hash code tells where it is.
  | .call (some receiver) name _ arguments =>
    name != "hashCode" && isFront receiver && evaluates sight false receiver && evaluatesAll sight arguments
  | _ => false

def evaluatesAll (sight : Sight) : List Expression → Bool
  | [] => true
  | e :: rest => evaluates sight false e && evaluatesAll sight rest

end

/-- Whether an expression keeps to the realm as a statement, where it may be a call of `yield`. -/
def performs (sight : Sight) : Expression → Bool
  | .call none name _ [value] => realm.yields && name == yieldName && realm.evaluates sight true value
  | e => realm.evaluates sight true e

mutual

/-- Whether a statement keeps to the realm. -/
def runs (sight : Sight) : Statement → Bool
  | .block body => runsAll ([] :: sight) body
  | .expression e => realm.performs sight e
  | .declare ⟨_, _, _, name, initial⟩ =>
    isUndotted name && (match initial with | some e => realm.evaluates sight (realm.loose name) e | none => true)
  | .ifElse condition whenTrue whenFalse =>
    realm.evaluates sight true condition && runs sight whenTrue
      && (match whenFalse with | some s => runs sight s | none => true)
  | .whileLoop condition body | .doWhile body condition =>
    realm.evaluates ([] :: sight) true condition && runs ([] :: sight) body
  | .forLoop start condition update body =>
    runsAll ([] :: sight) start
      && (match condition with
        | some e => realm.evaluates (Sight.afterAll ([] :: sight) start) true e
        | none => true)
      && update.all (realm.evaluates (Sight.afterAll ([] :: sight) start) true)
      && runs (Sight.afterAll ([] :: sight) start) body
  | .switch selector cases =>
    realm.evaluates sight true selector
      && cases.all (fun group => group.label.all (realm.evaluates sight true)) && runsCases ([] :: sight) cases
  | .tryCatch body catches finalizer =>
    runsAll ([] :: sight) body && runsCatches sight catches
      && (match finalizer with | some ss => runsAll ([] :: sight) ss | none => true)
  | .synchronized lock body => realm.evaluates sight true lock && !(realm.yields && bodyYields body)
    && runsAll ([] :: sight) body
  | .returns (some value) => realm.evaluates sight true value
  | .forEach ⟨_, _, _, name, _⟩ iterable body =>
    isUndotted name && (isFront iterable && realm.evaluates ([] :: sight) false iterable) && runs ([name] :: sight) body
  | .throws value => realm.evaluates sight false value
  | .labeled _ body => runs sight body
  | .returns none | .returnsDefault | .breaks _ | .continues _ | .empty => true
  | .localType _ | .verbatim _ => false

def runsAll (sight : Sight) : List Statement → Bool
  | [] => true
  | s :: rest => runs sight s && runsAll (sight.after s) rest

/-- The groups of a switch; what one of them declares is not known to the next. -/
def runsCases (sight : Sight) : List SwitchCase → Bool
  | [] => true
  | ⟨_, body⟩ :: rest => runsAll sight body && runsCases sight rest

def runsCatches (sight : Sight) : List CatchClause → Bool
  | [] => true
  | ⟨⟨_, _, _, name⟩, body⟩ :: rest => isUndotted name && runsAll ([name] :: sight) body && runsCatches sight rest

end

end Realm

theorem not_super_of_isFront {e : Expression} (front : isFront e = true) : (e.asName? == some "super") = false := by
  cases e with
  | name name =>
    refine beq_eq_false_iff_ne.mpr fun same => ?_
    have other : name ≠ "super" := bne_iff_ne.mp (Bool.and_eq_true_iff.mp front).2
    exact other (Option.some.inj same)
  | _ => rfl

/-- A second realm allows what a first one does, where at least as much is declared. -/
structure Realm.Reaches (realm other : Realm) (sight sight' : Sight) : Prop where
  loose : other.loose = realm.loose
  captured : realm.captured ⊆ other.captured
  exceptions : realm.exceptions ⊆ other.exceptions
  assigns : ∀ {name}, realm.assigns sight name = true → other.assigns sight' name = true
  nonempty : sight' ≠ []

theorem Sight.has_declare {sight : Sight} {name other : String} (known : (sight.declare name).has other = true) :
    other = name ∨ sight.has other = true := by
  cases sight with
  | nil => exact Or.inr known
  | cons names rest => simpa [has, declare, or_assoc] using known

theorem Sight.has_declare_of_nonempty {sight : Sight} {name other : String} (nonempty : sight ≠ [])
    (known : other = name ∨ sight.has other = true) : (sight.declare name).has other = true := by
  cases sight with
  | nil => exact absurd rfl nonempty
  | cons names rest => simpa [has, declare, or_assoc] using known

theorem Sight.declare_ne_nil {sight : Sight} {name : String} (some_ : sight ≠ []) : sight.declare name ≠ [] := by
  cases sight with
  | nil => exact absurd rfl some_
  | cons names rest => exact List.cons_ne_nil _ _

theorem Sight.after_ne_nil {sight : Sight} (some_ : sight ≠ []) (s : Statement) : sight.after s ≠ [] := by
  cases s with
  | declare decl => exact Sight.declare_ne_nil some_
  | _ => exact some_

theorem Sight.afterAll_ne_nil {sight : Sight} (some_ : sight ≠ []) (body : List Statement) :
    sight.afterAll body ≠ [] := by
  induction body generalizing sight with
  | nil => exact some_
  | cons s rest ih => exact ih (Sight.after_ne_nil some_ s)

theorem runsAll_append {realm : Realm} {sight : Sight} {body rest : List Statement}
    (first : realm.runsAll sight body = true) (onward : realm.runsAll (sight.afterAll body) rest = true) :
    realm.runsAll sight (body ++ rest) = true := by
  induction body generalizing sight with
  | nil => exact onward
  | cons s others ih =>
    have both := Bool.and_eq_true_iff.mp first
    exact Bool.and_eq_true_iff.mpr ⟨both.1, ih both.2 onward⟩

/-- Statements that may be run wherever names are declared may be run one after the other. -/
theorem runsAll_of_forall {realm : Realm} (names : List String) {body : List Statement}
    (runs : ∀ s ∈ body, ∀ sight : Sight, sight ≠ [] → (∀ name ∈ names, sight.has name = true) →
      realm.runs sight s = true)
    {sight : Sight} (some_ : sight ≠ []) (declared : ∀ name ∈ names, sight.has name = true) :
    realm.runsAll sight body = true := by
  induction body generalizing sight with
  | nil => rfl
  | cons s rest ih =>
    refine Bool.and_eq_true_iff.mpr ⟨runs s List.mem_cons_self sight some_ declared, ?_⟩
    refine ih (fun other member => runs other (List.mem_cons_of_mem _ member)) (Sight.after_ne_nil some_ s) ?_
    intro name member
    have before := declared name member
    cases s with
    | declare decl => exact Sight.has_declare_of_nonempty some_ (Or.inr before)
    | _ => exact before

theorem runsCases_of_forall {realm : Realm} {sight : Sight} {cases : List SwitchCase}
    (runs : ∀ group ∈ cases, realm.runsAll sight group.body = true) : realm.runsCases sight cases = true := by
  induction cases with
  | nil => rfl
  | cons group rest ih =>
    obtain ⟨label, body⟩ := group
    exact Bool.and_eq_true_iff.mpr ⟨runs _ List.mem_cons_self,
      ih fun other member => runs other (List.mem_cons_of_mem _ member)⟩

namespace Realm.Reaches

variable {realm other : Realm} {sight sight' : Sight} (reaches : realm.Reaches other sight sight')

include reaches

theorem knows {name : String} (known : realm.knows sight name = true) : other.knows sight' name = true := by
  simp only [Realm.knows, Bool.or_eq_true, List.contains_iff_mem] at known ⊢
  exact known.imp reaches.assigns (reaches.captured ·)

theorem target? {e : Expression} {name : String} (found : realm.target? sight e = some name) :
    other.target? sight' e = some name := by
  cases e with
  | name text =>
    simp only [Realm.target?] at found ⊢
    split at found
    · next both =>
      have both := Bool.and_eq_true_iff.mp both
      rw [both.1, reaches.assigns both.2]
      exact found
    · cases found
  | _ => cases found

theorem push : realm.Reaches other ([] :: sight) ([] :: sight') where
  loose := reaches.loose
  captured := reaches.captured
  exceptions := reaches.exceptions
  assigns := reaches.assigns
  nonempty := List.cons_ne_nil _ _

theorem declare (name : String) : realm.Reaches other (sight.declare name) (sight'.declare name) where
  loose := reaches.loose
  captured := reaches.captured
  exceptions := reaches.exceptions
  assigns {text} assigned := by
    have before := @reaches.assigns text
    simp only [Realm.assigns, Bool.or_eq_true] at assigned before ⊢
    rcases assigned with here | field
    · rcases Sight.has_declare here with same | outer
      · exact Or.inl (Sight.has_declare_of_nonempty reaches.nonempty (Or.inl same))
      · exact (before (Or.inl outer)).imp_left fun known =>
          Sight.has_declare_of_nonempty reaches.nonempty (Or.inr known)
    · exact (before (Or.inr field)).imp_left fun known =>
        Sight.has_declare_of_nonempty reaches.nonempty (Or.inr known)
  nonempty := Sight.declare_ne_nil reaches.nonempty

theorem after (s : Statement) : realm.Reaches other (sight.after s) (sight'.after s) := by
  cases s with
  | declare decl => exact reaches.declare decl.name
  | _ => exact reaches

end Realm.Reaches

theorem Realm.Reaches.afterAll {realm other : Realm} {sight sight' : Sight}
    (reaches : realm.Reaches other sight sight') (body : List Statement) :
    realm.Reaches other (sight.afterAll body) (sight'.afterAll body) := by
  induction body generalizing sight sight' with
  | nil => exact reaches
  | cons s rest ih => exact ih (reaches.after s)

section

variable {realm other : Realm}

/-- What is assigned is a variable. -/
theorem target_of_assigned {sight : Sight} {target : Expression} {rest : String → Bool}
    (inside : (match realm.target? sight target with | some name => rest name | none => false) = true) :
    ∃ name, realm.target? sight target = some name ∧ rest name = true := by
  cases found : realm.target? sight target with
  | none =>
    rw [found] at inside
    cases inside
  | some name =>
    rw [found] at inside
    exact ⟨name, rfl, inside⟩

theorem evaluates_assign {sight : Sight} {target value : Expression} {name : String} {loose : Bool}
    (found : realm.target? sight target = some name) :
    realm.evaluates sight loose (.assign none target value) =
      realm.evaluates sight (loose && realm.loose name) value := by
  rw [Realm.evaluates, found]

theorem quiet_of_target {sight : Sight} {target : Expression} {name : String}
    (found : realm.target? sight target = some name) : target.yields = false := by
  cases target <;> first | rfl | cases found

mutual

/-- What keeps to a realm keeps to one that allows more. -/
theorem evaluates_of_reaches {sight sight' : Sight} (reaches : realm.Reaches other sight sight') {loose : Bool} :
    (e : Expression) → realm.evaluates sight loose e = true → other.evaluates sight' loose e = true
  | .name name, inside => by
    obtain ⟨known, held⟩ := Bool.and_eq_true_iff.mp inside
    refine Bool.and_eq_true_iff.mpr ⟨reaches.knows known, ?_⟩
    rwa [reaches.loose]
  | .literal _, _ | .classLiteral _, _ => rfl
  | .binary _ left right, inside =>
    have both := Bool.and_eq_true_iff.mp inside
    Bool.and_eq_true_iff.mpr ⟨evaluates_of_reaches reaches left both.1, evaluates_of_reaches reaches right both.2⟩
  | .unary op operand, inside => by
    change (if op.steps then (realm.target? sight operand).isSome else realm.evaluates sight true operand) = true
      at inside
    change (if op.steps then (other.target? sight' operand).isSome else other.evaluates sight' true operand) = true
    split at inside
    · next steps =>
      obtain ⟨name, found⟩ := Option.isSome_iff_exists.mp inside
      rw [if_pos steps, reaches.target? found]
      rfl
    · next stays =>
      rw [if_neg stays]
      exact evaluates_of_reaches reaches operand inside
  | .assign none target value, inside => by
    obtain ⟨name, found, inside⟩ := target_of_assigned inside
    change (match other.target? sight' target with
      | some name => other.evaluates sight' (loose && other.loose name) value
      | none => false) = true
    rw [reaches.target? found, reaches.loose]
    exact evaluates_of_reaches reaches value inside
  | .assign (some op) target value, inside => by
    obtain ⟨name, found, inside⟩ := target_of_assigned inside
    obtain ⟨tight, inside⟩ := Bool.and_eq_true_iff.mp inside
    change (match other.target? sight' target with
      | some name => (op != .add || !other.loose name) && other.evaluates sight' (op != .add) value
      | none => false) = true
    rw [reaches.target? found, reaches.loose]
    exact Bool.and_eq_true_iff.mpr ⟨tight, evaluates_of_reaches reaches value inside⟩
  | .instanceOf operand _, inside => evaluates_of_reaches reaches operand inside
  | .cast _ operand, inside => evaluates_of_reaches reaches operand inside
  | .conditional condition whenTrue whenFalse, inside =>
    have both := Bool.and_eq_true_iff.mp inside
    have front := Bool.and_eq_true_iff.mp both.1
    Bool.and_eq_true_iff.mpr ⟨Bool.and_eq_true_iff.mpr
      ⟨evaluates_of_reaches reaches condition front.1, evaluates_of_reaches reaches whenTrue front.2⟩,
      evaluates_of_reaches reaches whenFalse both.2⟩
  | .create _ arguments none, inside =>
    have both := Bool.and_eq_true_iff.mp inside
    Bool.and_eq_true_iff.mpr ⟨List.contains_iff_mem.mpr (reaches.exceptions (List.contains_iff_mem.mp both.1)),
      evaluatesAll_of_reaches reaches arguments both.2⟩
  | .createArray _ sizes _ none, inside => evaluatesAll_of_reaches reaches sizes inside
  | .createArray _ sizes _ (some elements), inside =>
    have both := Bool.and_eq_true_iff.mp inside
    Bool.and_eq_true_iff.mpr
      ⟨evaluatesAll_of_reaches reaches sizes both.1, evaluatesAll_of_reaches reaches elements both.2⟩
  | .arrayElements elements, inside => evaluatesAll_of_reaches reaches elements inside
  | .element array index, inside =>
    have both := Bool.and_eq_true_iff.mp inside
    Bool.and_eq_true_iff.mpr ⟨evaluates_of_reaches reaches array both.1, evaluates_of_reaches reaches index both.2⟩
  | .field receiver _, inside =>
    have both := Bool.and_eq_true_iff.mp inside
    Bool.and_eq_true_iff.mpr ⟨both.1, evaluates_of_reaches reaches receiver both.2⟩
  | .call (some receiver) _ _ arguments, inside =>
    have both := Bool.and_eq_true_iff.mp inside
    have front := Bool.and_eq_true_iff.mp both.1
    Bool.and_eq_true_iff.mpr ⟨Bool.and_eq_true_iff.mpr ⟨front.1, evaluates_of_reaches reaches receiver front.2⟩,
      evaluatesAll_of_reaches reaches arguments both.2⟩
  | .create _ _ (some _), inside | .call none _ _ _, inside | .this _, inside | .note _, inside
  | .verbatim _, inside => by cases inside

theorem evaluatesAll_of_reaches {sight sight' : Sight} (reaches : realm.Reaches other sight sight') :
    (es : List Expression) → realm.evaluatesAll sight es = true → other.evaluatesAll sight' es = true
  | [], _ => rfl
  | e :: rest, inside =>
    have both := Bool.and_eq_true_iff.mp inside
    Bool.and_eq_true_iff.mpr ⟨evaluates_of_reaches reaches e both.1, evaluatesAll_of_reaches reaches rest both.2⟩

end

/-- What can be evaluated can be a statement. -/
theorem performs_of_evaluates {sight : Sight} {e : Expression} (inside : realm.evaluates sight true e = true) :
    realm.performs sight e = true := by
  cases e with
  | call receiver name types arguments =>
    cases receiver with
    | none => cases inside
    | some receiver => exact inside
  | _ => exact inside

mutual

/-- A value is computed without a call of `yield`. -/
theorem quiet_of_evaluates {sight : Sight} {loose : Bool} : (e : Expression) →
    realm.evaluates sight loose e = true → e.yields = false
  | .name _, _ | .literal _, _ | .classLiteral _, _ => rfl
  | .binary _ left right, inside =>
    have both := Bool.and_eq_true_iff.mp inside
    Bool.or_eq_false_iff.mpr ⟨quiet_of_evaluates left both.1, quiet_of_evaluates right both.2⟩
  | .unary op operand, inside => by
    change (if op.steps then (realm.target? sight operand).isSome else realm.evaluates sight true operand) = true
      at inside
    change operand.yields = false
    split at inside
    · obtain ⟨name, found⟩ := Option.isSome_iff_exists.mp inside
      exact quiet_of_target found
    · exact quiet_of_evaluates operand inside
  | .assign op target value, inside => by
    change (target.yields || value.yields) = false
    cases op with
    | none =>
      obtain ⟨name, found, inside⟩ := target_of_assigned inside
      exact Bool.or_eq_false_iff.mpr ⟨quiet_of_target found, quiet_of_evaluates value inside⟩
    | some op =>
      obtain ⟨name, found, inside⟩ := target_of_assigned inside
      exact Bool.or_eq_false_iff.mpr ⟨quiet_of_target found,
        quiet_of_evaluates value (Bool.and_eq_true_iff.mp inside).2⟩
  | .instanceOf operand _, inside => quiet_of_evaluates operand inside
  | .cast _ operand, inside => quiet_of_evaluates operand inside
  | .conditional condition whenTrue whenFalse, inside =>
    have both := Bool.and_eq_true_iff.mp inside
    have front := Bool.and_eq_true_iff.mp both.1
    Bool.or_eq_false_iff.mpr ⟨Bool.or_eq_false_iff.mpr
      ⟨quiet_of_evaluates condition front.1, quiet_of_evaluates whenTrue front.2⟩,
      quiet_of_evaluates whenFalse both.2⟩
  | .create _ arguments none, inside => quiet_of_evaluatesAll arguments (Bool.and_eq_true_iff.mp inside).2
  | .createArray _ sizes _ none, inside => Bool.or_eq_false_iff.mpr ⟨quiet_of_evaluatesAll sizes inside, rfl⟩
  | .createArray _ sizes _ (some elements), inside =>
    have both := Bool.and_eq_true_iff.mp inside
    Bool.or_eq_false_iff.mpr ⟨quiet_of_evaluatesAll sizes both.1, quiet_of_evaluatesAll elements both.2⟩
  | .arrayElements elements, inside => quiet_of_evaluatesAll elements inside
  | .element array index, inside =>
    have both := Bool.and_eq_true_iff.mp inside
    Bool.or_eq_false_iff.mpr ⟨quiet_of_evaluates array both.1, quiet_of_evaluates index both.2⟩
  | .field receiver _, inside => quiet_of_evaluates receiver (Bool.and_eq_true_iff.mp inside).2
  | .call (some receiver) _ _ arguments, inside =>
    have both := Bool.and_eq_true_iff.mp inside
    have front := Bool.and_eq_true_iff.mp both.1
    Bool.or_eq_false_iff.mpr ⟨quiet_of_evaluates receiver front.2, quiet_of_evaluatesAll arguments both.2⟩
  | .create _ _ (some _), inside | .call none _ _ _, inside | .this _, inside | .note _, inside
  | .verbatim _, inside => by cases inside

theorem quiet_of_evaluatesAll {sight : Sight} : (es : List Expression) → realm.evaluatesAll sight es = true →
    anyYields es = false
  | [], _ => rfl
  | e :: rest, inside =>
    have both := Bool.and_eq_true_iff.mp inside
    Bool.or_eq_false_iff.mpr ⟨quiet_of_evaluates e both.1, quiet_of_evaluatesAll rest both.2⟩

end

theorem performs_of_reaches {sight sight' : Sight} (reaches : realm.Reaches other sight sight') {e : Expression}
    (inside : realm.performs sight e = true) (quiet : e.yields = false) : other.performs sight' e = true := by
  unfold Realm.performs at inside
  split at inside
  · next name types value =>
    have named := (Bool.and_eq_true_iff.mp (Bool.and_eq_true_iff.mp inside).1).2
    have loud : (Expression.call none name types [value]).yields = true := by
      change (true && name == yieldName || false || _) = true
      rw [named]
      rfl
    rw [loud] at quiet
    cases quiet
  · exact performs_of_evaluates (evaluates_of_reaches reaches e inside)

mutual

/-- Statements that do not yield may be run where a generator keeps its variables elsewhere. -/
theorem runs_of_reaches {sight sight' : Sight} (reaches : realm.Reaches other sight sight') : (s : Statement) →
    realm.runs sight s = true → s.yields = false → other.runs sight' s = true
  | .block body, inside, quiet => runsAll_of_reaches reaches.push body inside quiet
  | .expression e, inside, quiet => performs_of_reaches reaches inside quiet
  | .declare ⟨_, _, _, name, none⟩, inside, _ => inside
  | .declare ⟨_, _, _, name, some e⟩, inside, _ => by
    obtain ⟨undotted, inside⟩ := Bool.and_eq_true_iff.mp inside
    refine Bool.and_eq_true_iff.mpr ⟨undotted, ?_⟩
    rw [reaches.loose]
    exact evaluates_of_reaches reaches e inside
  | .ifElse condition whenTrue none, inside, quiet => by
    obtain ⟨both, _⟩ := Bool.and_eq_true_iff.mp inside
    obtain ⟨test, front⟩ := Bool.and_eq_true_iff.mp both
    have silent := (Bool.or_eq_false_iff.mp (Bool.or_eq_false_iff.mp quiet).1).2
    exact Bool.and_eq_true_iff.mpr ⟨Bool.and_eq_true_iff.mpr ⟨evaluates_of_reaches reaches condition test,
      runs_of_reaches reaches whenTrue front silent⟩, rfl⟩
  | .ifElse condition whenTrue (some whenFalse), inside, quiet => by
    obtain ⟨both, back⟩ := Bool.and_eq_true_iff.mp inside
    obtain ⟨test, front⟩ := Bool.and_eq_true_iff.mp both
    obtain ⟨silent, silent'⟩ := Bool.or_eq_false_iff.mp quiet
    have silent := (Bool.or_eq_false_iff.mp silent).2
    exact Bool.and_eq_true_iff.mpr ⟨Bool.and_eq_true_iff.mpr ⟨evaluates_of_reaches reaches condition test,
      runs_of_reaches reaches whenTrue front silent⟩, runs_of_reaches reaches whenFalse back silent'⟩
  | .whileLoop condition body, inside, quiet =>
    have both := Bool.and_eq_true_iff.mp inside
    Bool.and_eq_true_iff.mpr ⟨evaluates_of_reaches reaches.push condition both.1,
      runs_of_reaches reaches.push body both.2 (Bool.or_eq_false_iff.mp quiet).2⟩
  | .doWhile body condition, inside, quiet =>
    have both := Bool.and_eq_true_iff.mp inside
    Bool.and_eq_true_iff.mpr ⟨evaluates_of_reaches reaches.push condition both.1,
      runs_of_reaches reaches.push body both.2 (Bool.or_eq_false_iff.mp quiet).1⟩
  | .forLoop start condition update body, inside, quiet => by
    obtain ⟨inside, body'⟩ := Bool.and_eq_true_iff.mp inside
    obtain ⟨inside, updates⟩ := Bool.and_eq_true_iff.mp inside
    obtain ⟨begins, test⟩ := Bool.and_eq_true_iff.mp inside
    obtain ⟨silent, silent'⟩ := Bool.or_eq_false_iff.mp quiet
    have first := (Bool.or_eq_false_iff.mp (Bool.or_eq_false_iff.mp silent).1).1
    have within := reaches.push.afterAll start
    refine Bool.and_eq_true_iff.mpr ⟨Bool.and_eq_true_iff.mpr ⟨Bool.and_eq_true_iff.mpr ⟨?_, ?_⟩, ?_⟩, ?_⟩
    · exact runsAll_of_reaches reaches.push start begins first
    · cases condition with
      | none => rfl
      | some condition => exact evaluates_of_reaches within condition test
    · exact List.all_eq_true.mpr fun e member => evaluates_of_reaches within e (List.all_eq_true.mp updates e member)
    · exact runs_of_reaches within body body' silent'
  | .switch selector cases, inside, quiet => by
    obtain ⟨inside, groups⟩ := Bool.and_eq_true_iff.mp inside
    obtain ⟨selects, labels⟩ := Bool.and_eq_true_iff.mp inside
    refine Bool.and_eq_true_iff.mpr ⟨Bool.and_eq_true_iff.mpr ⟨evaluates_of_reaches reaches selector selects, ?_⟩, ?_⟩
    · refine List.all_eq_true.mpr fun group member => ?_
      have label := List.all_eq_true.mp labels group member
      cases given : group.label with
      | none => rfl
      | some e =>
        rw [given] at label
        exact evaluates_of_reaches reaches e label
    · exact runsCases_of_reaches reaches.push cases groups (Bool.or_eq_false_iff.mp quiet).2
  | .tryCatch body catches none, inside, quiet => by
    obtain ⟨both, _⟩ := Bool.and_eq_true_iff.mp inside
    obtain ⟨front, back⟩ := Bool.and_eq_true_iff.mp both
    obtain ⟨silent, silent'⟩ := Bool.or_eq_false_iff.mp (Bool.or_eq_false_iff.mp quiet).1
    exact Bool.and_eq_true_iff.mpr ⟨Bool.and_eq_true_iff.mpr ⟨runsAll_of_reaches reaches.push body front silent,
      runsCatches_of_reaches reaches catches back silent'⟩, rfl⟩
  | .tryCatch body catches (some finalizer), inside, quiet => by
    obtain ⟨both, last⟩ := Bool.and_eq_true_iff.mp inside
    obtain ⟨front, back⟩ := Bool.and_eq_true_iff.mp both
    obtain ⟨silents, silent''⟩ := Bool.or_eq_false_iff.mp quiet
    obtain ⟨silent, silent'⟩ := Bool.or_eq_false_iff.mp silents
    exact Bool.and_eq_true_iff.mpr ⟨Bool.and_eq_true_iff.mpr ⟨runsAll_of_reaches reaches.push body front silent,
      runsCatches_of_reaches reaches catches back silent'⟩, runsAll_of_reaches reaches.push finalizer last silent''⟩
  | .synchronized lock body, inside, quiet => by
    obtain ⟨inside, back⟩ := Bool.and_eq_true_iff.mp inside
    obtain ⟨front, _⟩ := Bool.and_eq_true_iff.mp inside
    have silent := (Bool.or_eq_false_iff.mp quiet).2
    refine Bool.and_eq_true_iff.mpr ⟨Bool.and_eq_true_iff.mpr ⟨evaluates_of_reaches reaches lock front, ?_⟩, ?_⟩
    · rw [silent, Bool.and_false]
      rfl
    · exact runsAll_of_reaches reaches.push body back silent
  | .returns (some value), inside, _ => evaluates_of_reaches reaches value inside
  | .throws value, inside, _ => evaluates_of_reaches reaches value inside
  | .labeled _ body, inside, quiet => runs_of_reaches reaches body inside quiet
  | .forEach ⟨_, _, _, name, _⟩ iterable body, inside, quiet =>
    have both := Bool.and_eq_true_iff.mp inside
    have walked := Bool.and_eq_true_iff.mp both.1
    have front := Bool.and_eq_true_iff.mp walked.2
    Bool.and_eq_true_iff.mpr ⟨Bool.and_eq_true_iff.mpr ⟨walked.1, Bool.and_eq_true_iff.mpr
      ⟨front.1, evaluates_of_reaches reaches.push iterable front.2⟩⟩,
      runs_of_reaches (reaches.push.declare name) body both.2 (Bool.or_eq_false_iff.mp quiet).2⟩
  | .returns none, _, _ | .returnsDefault, _, _ | .breaks _, _, _ | .continues _, _, _ | .empty, _, _ => rfl
  | .localType _, inside, _ | .verbatim _, inside, _ => by cases inside

theorem runsAll_of_reaches {sight sight' : Sight} (reaches : realm.Reaches other sight sight') :
    (body : List Statement) → realm.runsAll sight body = true → bodyYields body = false →
    other.runsAll sight' body = true
  | [], _, _ => rfl
  | s :: rest, inside, quiet =>
    have both := Bool.and_eq_true_iff.mp inside
    have silent := Bool.or_eq_false_iff.mp quiet
    Bool.and_eq_true_iff.mpr ⟨runs_of_reaches reaches s both.1 silent.1,
      runsAll_of_reaches (reaches.after s) rest both.2 silent.2⟩

theorem runsCases_of_reaches {sight sight' : Sight} (reaches : realm.Reaches other sight sight') :
    (cases : List SwitchCase) → realm.runsCases sight cases = true → casesYield cases = false →
    other.runsCases sight' cases = true
  | [], _, _ => rfl
  | ⟨_, body⟩ :: rest, inside, quiet =>
    have both := Bool.and_eq_true_iff.mp inside
    have silent := Bool.or_eq_false_iff.mp quiet
    Bool.and_eq_true_iff.mpr ⟨runsAll_of_reaches reaches body both.1 (Bool.or_eq_false_iff.mp silent.1).2,
      runsCases_of_reaches reaches rest both.2 silent.2⟩

theorem runsCatches_of_reaches {sight sight' : Sight} (reaches : realm.Reaches other sight sight') :
    (catches : List CatchClause) → realm.runsCatches sight catches = true → catchesYield catches = false →
    other.runsCatches sight' catches = true
  | [], _, _ => rfl
  | ⟨⟨_, _, _, name⟩, body⟩ :: rest, inside, quiet =>
    have both := Bool.and_eq_true_iff.mp inside
    have front := Bool.and_eq_true_iff.mp both.1
    have silent := Bool.or_eq_false_iff.mp quiet
    Bool.and_eq_true_iff.mpr ⟨Bool.and_eq_true_iff.mpr ⟨front.1,
      runsAll_of_reaches (reaches.push.declare name) body front.2 (Bool.or_eq_false_iff.mp silent.1).2⟩,
      runsCatches_of_reaches reaches rest both.2 silent.2⟩

end

end

end JavaWeave.Interpreter
