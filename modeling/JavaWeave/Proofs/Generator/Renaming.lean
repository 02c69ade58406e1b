import JavaWeave.Generator.Yielder
import JavaWeave.Proofs.Generator.Traced
import JavaWeave.Proofs.Names.Freshness
import Mathlib.Data.List.Nodup

namespace JavaWeave.Generator

open Syntax

/-- The names of declared variables. -/
def namesOf (declared : List (String × JavaType)) : List String := declared.map (·.1)

/-- A declaration that is renamed: it keeps its type, and its name may get a number. -/
def Renames (old new : String × JavaType) : Prop :=
  new.2 = old.2 ∧ (new.1 = old.1 ∨ ∃ n, new.1 = Names.Pool.numbered old.1 n)

/-- Names that were given out between two states of a pool, each of them once. -/
structure GivenOut (before after names : List String) : Prop where
  apart : names.Nodup
  unused : ∀ name ∈ names, name ∉ before
  taken : names ⊆ after

theorem GivenOut.append {before middle after names names' : List String} (first : GivenOut before middle names)
    (second : GivenOut middle after names') (grows : before ⊆ middle) (grows' : middle ⊆ after) :
    GivenOut before after (names ++ names') where
  apart := List.nodup_append.mpr ⟨first.apart, second.apart, fun _ member other member' same =>
    second.unused other member' (same ▸ first.taken member)⟩
  unused _ member := (List.mem_append.mp member).elim (first.unused _) fun later inside =>
    second.unused _ later (grows inside)
  taken := List.append_subset.mpr ⟨List.Subset.trans first.taken grows', second.taken⟩

/-- Steps that rename declarations. The names of those outside of nested types are given out. -/
structure Declaring (scope : Scope) (declared renamed : List (String × JavaType)) (after : Scope) : Prop where
  nested : after.nested = scope.nested
  grows : scope.names.taken ⊆ after.names.taken
  renames : List.Forall₂ Renames declared renamed
  given : scope.nested = false → GivenOut scope.names.taken after.names.taken (namesOf renamed)

namespace Declaring

variable {scope middle after : Scope} {declared renamed declared' renamed' : List (String × JavaType)}

theorem refl (scope : Scope) : Declaring scope [] [] scope where
  nested := rfl
  grows := List.Subset.refl _
  renames := .nil
  given _ := ⟨List.nodup_nil, fun _ => by simp [namesOf], List.nil_subset _⟩

theorem trans (first : Declaring scope declared renamed middle) (second : Declaring middle declared' renamed' after) :
    Declaring scope (declared ++ declared') (renamed ++ renamed') after where
  nested := second.nested.trans first.nested
  grows := List.Subset.trans first.grows second.grows
  renames := List.rel_append first.renames second.renames
  given outside := by
    rw [namesOf, List.map_append]
    exact (first.given outside).append (second.given (first.nested.trans outside)) first.grows second.grows

/-- What a block declares is given out, though it is not seen afterwards. -/
theorem rebind {bindings : List (String × String)} (declaring : Declaring scope declared renamed after) :
    Declaring scope declared renamed { after with bindings } :=
  ⟨declaring.nested, declaring.grows, declaring.renames, declaring.given⟩

end Declaring

theorem declareName_nested {scope : Scope} (nested : scope.nested = true) (name : String) :
    declareName name scope = (name, { scope with bindings := (name, name) :: scope.bindings }) := by
  change (if scope.nested = true then _ else _ : StateM Scope String) scope = _
  rw [if_pos nested]
  rfl

theorem declareName_outside {scope : Scope} (outside : scope.nested = false) (name : String) :
    declareName name scope = (scope.names.freshName name,
      { scope with
        bindings := (name, scope.names.freshName name) :: scope.bindings
        names := scope.names.reserve (scope.names.freshName name) }) := by
  change (if scope.nested = true then _ else _ : StateM Scope String) scope = _
  rw [outside]
  rfl

theorem declaring_declareName (name : String) (type : JavaType) (scope : Scope) :
    Declaring scope [(name, type)] [((declareName name scope).1, type)] (declareName name scope).2 := by
  cases nested : scope.nested with
  | true =>
    rw [declareName_nested nested]
    refine ⟨rfl, List.Subset.refl _, .cons ⟨rfl, Or.inl rfl⟩ .nil, fun outside => ?_⟩
    rw [nested] at outside
    cases outside
  | false =>
    rw [declareName_outside nested]
    refine ⟨rfl, Names.Pool.subset_reserve, .cons ⟨rfl, ?_⟩ .nil, fun _ => ⟨List.nodup_singleton _, ?_, ?_⟩⟩
    · exact (Names.Pool.freshName_cases scope.names name).imp (·.2) fun ⟨_, n, _, same⟩ => ⟨n, same⟩
    · exact List.forall_mem_singleton.mpr (Names.Pool.freshName_not_mem _ _)
    · exact List.cons_subset.mpr ⟨Names.Pool.mem_reserve, List.nil_subset _⟩

mutual

theorem declaring_statement : (s : Statement) → (scope : Scope) →
    Declaring scope (localsIn s) (localsIn (renameStatement s scope).1) (renameStatement s scope).2
  | .block body, scope =>
    declaring_body body scope
  | .expression _, scope | .returns _, scope | .throws _, scope | .localType _, scope | .returnsDefault, scope
  | .breaks _, scope | .continues _, scope | .empty, scope | .verbatim _, scope =>
    .refl scope
  | .declare ⟨_, _, type, name, _⟩, scope =>
    declaring_declareName name type scope
  | .ifElse _ whenTrue none, scope =>
    (declaring_statement whenTrue scope).trans (.refl _)
  | .ifElse _ whenTrue (some whenFalse), scope =>
    (declaring_statement whenTrue scope).trans (declaring_statement whenFalse _)
  | .whileLoop _ body, scope | .doWhile body _, scope | .labeled _ body, scope =>
    declaring_statement body scope
  | .forLoop start _ _ body, scope =>
    ((declaring_statements start scope).trans (declaring_statement body _)).rebind
  | .forEach ⟨_, _, type, name, _⟩ _ body, scope =>
    ((declaring_declareName name type scope).trans (declaring_statement body _)).rebind
  | .switch _ cases, scope =>
    (declaring_cases cases scope).rebind
  | .tryCatch body catches none, scope =>
    ((declaring_body body scope).trans (declaring_catches catches _)).trans (.refl _)
  | .tryCatch body catches (some finalizer), scope =>
    ((declaring_body body scope).trans (declaring_catches catches _)).trans (declaring_body finalizer _)
  | .synchronized _ body, scope =>
    declaring_body body scope

theorem declaring_statements : (body : List Statement) → (scope : Scope) →
    Declaring scope (localsInAll body) (localsInAll (renameStatements body scope).1) (renameStatements body scope).2
  | [], scope =>
    .refl scope
  | s :: rest, scope =>
    (declaring_statement s scope).trans (declaring_statements rest _)

theorem declaring_body : (body : List Statement) → (scope : Scope) →
    Declaring scope (localsInAll body) (localsInAll (renameBody body scope).1) (renameBody body scope).2
  | [], scope =>
    .refl scope
  | s :: rest, scope =>
    ((declaring_statement s scope).trans (declaring_statements rest _)).rebind

theorem declaring_cases : (cases : List SwitchCase) → (scope : Scope) →
    Declaring scope (localsInCases cases) (localsInCases (renameCases cases scope).1) (renameCases cases scope).2
  | [], scope =>
    .refl scope
  | ⟨_, body⟩ :: rest, scope =>
    (declaring_statements body scope).trans (declaring_cases rest _)

theorem declaring_catches : (catches : List CatchClause) → (scope : Scope) →
    Declaring scope (localsInCatches catches) (localsInCatches (renameCatches catches scope).1)
      (renameCatches catches scope).2
  | [], scope =>
    .refl scope
  | ⟨⟨_, _, type, name⟩, body⟩ :: rest, scope =>
    ((declaring_declareName name type scope).trans (declaring_body body _)).rebind.trans
      (declaring_catches rest { (renameBody body (declareName name scope).2).2 with bindings := scope.bindings })

end

/-- Once they are renamed apart, the variables that a body declares outside of nested types have names of their own,
which are not among those that are taken. -/
theorem renameApart_apart (taken : List String) (body : List Statement) :
    (namesOf (localsInAll (renameApart taken body))).Nodup ∧
      ∀ name ∈ namesOf (localsInAll (renameApart taken body)), name ∉ taken := by
  have given := (declaring_body body { names := .ofList taken }).given rfl
  exact ⟨given.apart, fun name member reserved => given.unused name member (Names.Pool.mem_ofList.mpr reserved)⟩

/-- They are the variables that the body declared, in their order. -/
theorem renameApart_renames (taken : List String) (body : List Statement) :
    List.Forall₂ Renames (localsInAll body) (localsInAll (renameApart taken body)) :=
  (declaring_body body { names := .ofList taken }).renames

private theorem source_of_renamed {declared renamed : List (String × JavaType)}
    (renames : List.Forall₂ Renames declared renamed) {new : String × JavaType} (member : new ∈ renamed) :
    ∃ old ∈ declared, Renames old new := by
  induction renames with
  | nil => cases member
  | cons head _ ih =>
    rcases List.mem_cons.mp member with rfl | later
    · exact ⟨_, List.mem_cons_self, head⟩
    · obtain ⟨old, inside, renames⟩ := ih later
      exact ⟨old, List.mem_cons_of_mem _ inside, renames⟩

section

variable {γ : Type} {r : Reviser γ Id}

mutual

/-- A reviser that leaves statements as they are leaves the declarations as they are. -/
theorem locals_onStatement (keeps : ∀ context s, r.statement context s = s) (context : γ) : (s : Statement) →
    localsIn (r.onStatement context s) = localsIn s
  | .block body =>
    (congrArg localsIn (keeps _ _)).trans (locals_onStatements keeps context body)
  | .expression _ | .throws _ | .returns none | .returns (some _) | .returnsDefault | .breaks _ | .continues _ | .empty
  | .verbatim _ =>
    (congrArg localsIn (keeps _ _)).trans rfl
  | .localType _ => by
    change localsIn (if r.entersTypes then _ else _) = _
    split <;> exact (congrArg localsIn (keeps _ _)).trans rfl
  | .declare ⟨_, _, _, _, none⟩ | .declare ⟨_, _, _, _, some _⟩ =>
    (congrArg localsIn (keeps _ _)).trans rfl
  | .ifElse _ whenTrue none =>
    (congrArg localsIn (keeps _ _)).trans (congrArg (· ++ []) (locals_onStatement keeps context whenTrue))
  | .ifElse _ whenTrue (some whenFalse) =>
    (congrArg localsIn (keeps _ _)).trans
      (congrArg₂ (· ++ ·) (locals_onStatement keeps context whenTrue) (locals_onStatement keeps context whenFalse))
  | .whileLoop _ body | .doWhile body _ =>
    (congrArg localsIn (keeps _ _)).trans (locals_onStatement keeps _ body)
  | .labeled _ body =>
    (congrArg localsIn (keeps _ _)).trans (locals_onStatement keeps _ body)
  | .forLoop start none _ body | .forLoop start (some _) _ body =>
    (congrArg localsIn (keeps _ _)).trans
      (congrArg₂ (· ++ ·) (locals_onStatements keeps _ start) (locals_onStatement keeps _ body))
  | .forEach ⟨_, _, _, _, none⟩ _ body | .forEach ⟨_, _, _, _, some _⟩ _ body =>
    (congrArg localsIn (keeps _ _)).trans (congrArg (_ :: ·) (locals_onStatement keeps _ body))
  | .switch _ cases =>
    (congrArg localsIn (keeps _ _)).trans (locals_onCases keeps _ cases)
  | .tryCatch body catches none =>
    (congrArg localsIn (keeps _ _)).trans
      (congrArg (· ++ []) (congrArg₂ (· ++ ·) (locals_onStatements keeps _ body) (locals_onCatches keeps _ catches)))
  | .tryCatch body catches (some finalizer) =>
    (congrArg localsIn (keeps _ _)).trans (congrArg₂ (· ++ ·)
      (congrArg₂ (· ++ ·) (locals_onStatements keeps _ body) (locals_onCatches keeps _ catches))
      (locals_onStatements keeps _ finalizer))
  | .synchronized _ body =>
    (congrArg localsIn (keeps _ _)).trans (locals_onStatements keeps context body)

theorem locals_onStatements (keeps : ∀ context s, r.statement context s = s) (context : γ) : (body : List Statement) →
    localsInAll (r.onStatements context body) = localsInAll body
  | [] => by
    rfl
  | s :: rest =>
    congrArg₂ (· ++ ·) (locals_onStatement keeps context s) (locals_onStatements keeps context rest)

theorem locals_onCases (keeps : ∀ context s, r.statement context s = s) (context : γ) : (cases : List SwitchCase) →
    localsInCases (r.onCases context cases) = localsInCases cases
  | [] => by
    rfl
  | ⟨none, body⟩ :: rest | ⟨some _, body⟩ :: rest =>
    congrArg₂ (· ++ ·) (locals_onStatements keeps context body) (locals_onCases keeps context rest)

theorem locals_onCatches (keeps : ∀ context s, r.statement context s = s) (context : γ) : (catches : List CatchClause) →
    localsInCatches (r.onCatches context catches) = localsInCatches catches
  | [] => by
    rfl
  | ⟨⟨_, _, _, _⟩, body⟩ :: rest =>
    congrArg (_ :: ·)
      (congrArg₂ (· ++ ·) (locals_onStatements keeps context body) (locals_onCatches keeps context rest))

end

end

section

variable {sites : List (List Surround × Statement)} {locals : List (String × JavaType)} {path : Path} {count : Nat}
  {c c' : Compilation}

/-- A variable is added to the machine once. -/
theorem nodup_lift {lifted : List (String × JavaType)} (apart : (namesOf lifted).Nodup) (name : String)
    (type : JavaType) : (namesOf (lift lifted name type)).Nodup := by
  rw [lift]
  split
  next => exact apart
  next absent =>
    rw [namesOf, List.map_append, List.nodup_append]
    refine ⟨apart, List.nodup_singleton _, ?_⟩
    rintro known member other fresh rfl
    rw [List.mem_singleton.mp fresh] at member
    obtain ⟨declared, inside, same⟩ := List.mem_map.mp member
    exact absent (List.lookup_isSome_iff.mpr ⟨declared, inside, beq_iff_eq.mpr same.symm⟩)

/-- The variables of a compilation differ, and each one is a local or made up. -/
theorem Trace.lifted (trace : Trace sites locals path count c c') (apart : (namesOf c.lifted).Nodup)
    (known : ∀ name ∈ namesOf c.lifted, name ∈ namesOf locals ∨ IsMade name) :
    (namesOf c'.lifted).Nodup ∧ ∀ name ∈ namesOf c'.lifted, name ∈ namesOf locals ∨ IsMade name := by
  induction trace with
  | refl | state | start | add | close | loop | region | catches => exact ⟨apart, known⟩
  | trans _ _ ih ih' =>
    obtain ⟨apart, known⟩ := ih apart known
    exact ih' apart known
  | lift type source =>
    refine ⟨nodup_lift apart _ type, fun name member => ?_⟩
    rw [Generator.lift] at member
    split at member
    · exact known name member
    · rw [namesOf, List.map_append] at member
      rcases List.mem_append.mp member with old | new
      · exact known name old
      · rw [List.mem_singleton.mp new]
        exact source
  | frame _ ih | part _ ih | guard _ _ _ ih => exact ih apart known

end

/-- A name that ends in a number is none of those that every generator has. -/
theorem numbered_ne_control (start : String) (n : Nat) :
    start ++ toString n ∉ [stateName, hasNextName, soughtName, elementName] := by
  intro member
  have digit : ∃ last, (start ++ toString n).toList.getLast? = some last ∧ last.isDigit := by
    have text : (toString n).toList = Nat.toDigits 10 n := Nat.toList_repr
    have whole : (start ++ toString n).toList = start.toList ++ Nat.toDigits 10 n := by
      rw [String.toList_append, text]
    obtain ⟨last, ends⟩ := Option.isSome_iff_exists.mp
      (List.getLast?_isSome.mpr (Nat.toDigits_ne_nil (n := n) (b := 10)))
    exact ⟨last, by rw [whole, List.getLast?_append, ends]; rfl,
      Nat.isDigit_of_mem_toDigits (by decide) (by decide) (List.mem_of_getLast? ends)⟩
  obtain ⟨last, ends, digit⟩ := digit
  simp only [List.mem_cons, List.not_mem_nil, or_false] at member
  rcases member with same | same | same | same <;>
  · rw [same] at ends
    cases ends
    exact absurd digit (by decide)

/-- The variables of the machine of a body that is renamed apart: they have names of their own, and none of those that
every generator has. -/
theorem lifted_renamed (surroundings : Surroundings) (taken : List String) (body : List Statement)
    (plain : ∀ name ∈ namesOf (localsInAll body), '$' ∉ name.toList) :
    (namesOf (compileBody surroundings (renameApart taken body)).lifted).Nodup ∧
      ∀ name ∈ namesOf (compileBody surroundings (renameApart taken body)).lifted,
        name ∉ [stateName, hasNextName, soughtName, elementName] := by
  obtain ⟨c, trace, compiled⟩ := compileBody_trace surroundings (renameApart taken body)
  obtain ⟨apart, known⟩ := trace.lifted (by simp [namesOf]) (by simp [namesOf])
  rw [compiled]
  refine ⟨apart, fun name member => ?_⟩
  rcases known name member with own | ⟨start, _, number, rfl⟩
  · obtain ⟨new, inside, rfl⟩ := List.mem_map.mp own
    obtain ⟨old, declared, _, renamed⟩ := source_of_renamed (renameApart_renames taken body) inside
    have bare := plain old.1 (List.mem_map_of_mem declared)
    rcases renamed with same | ⟨n, numbered⟩
    · rw [same]
      intro control
      simp only [List.mem_cons, List.not_mem_nil, or_false] at control
      rcases control with control | control | control | control <;>
      · rw [control] at bare
        exact absurd bare (by decide)
    · rw [numbered]
      exact numbered_ne_control (old.1 ++ "$") n
  · exact numbered_ne_control start number

/-- The fields of the class that a generator becomes have names of their own. -/
theorem nodup_fields (owner : TypeDecl) (shape : Shape) (optimize : Bool) (method : Method)
    (plain : ∀ name ∈ namesOf (localsInAll method.body), '$' ∉ name.toList) :
    ((yielderDecl owner shape optimize method).fields.map (·.name)).Nodup := by
  let body := if method.isStatic then method.body else Weave.qualifySelf owner.name method.body
  have same : localsInAll body = localsInAll method.body := by
    simp only [body]
    split
    · rfl
    · refine locals_onStatements ?_ () method.body
      exact fun _ _ => rfl
  obtain ⟨surroundings, taken, lifted⟩ : ∃ surroundings taken,
      (machineOf owner optimize method).lifted = (compileBody surroundings (renameApart taken body)).lifted := by
    cases optimize <;> exact ⟨_, _, rfl⟩
  obtain ⟨apart, others⟩ := lifted_renamed surroundings taken body (same ▸ plain)
  have names : (yielderDecl owner shape optimize method).fields.map (·.name) =
      namesOf (machineOf owner optimize method).lifted ++ [stateName, hasNextName, soughtName, elementName] := by
    rw [yielderDecl, List.map_append, List.map_map]
    rfl
  rw [names, lifted, List.nodup_append]
  exact ⟨apart, by decide, fun name member control inside same => others name member (same ▸ inside)⟩

end JavaWeave.Generator
