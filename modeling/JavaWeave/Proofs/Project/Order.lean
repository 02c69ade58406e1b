import JavaWeave.Project.Program
import JavaWeave.Proofs.Weave.Steady

namespace JavaWeave

namespace Diagnostic

theorem fileLe_total (a b : Option String) : fileLe a b || fileLe b a := by
  cases a with
  | none => rfl
  | some a =>
    cases b with
    | none => rfl
    | some b => simpa [fileLe] using String.le_total a b

theorem fileLe_trans {a b c : Option String} (first : fileLe a b) (second : fileLe b c) : fileLe a c := by
  cases a with
  | none => rfl
  | some a =>
    cases b with
    | none => cases first
    | some b =>
      cases c with
      | none => cases second
      | some c => exact decide_eq_true (String.le_trans (of_decide_eq_true first) (of_decide_eq_true second))

theorem fileLe_antisymm {a b : Option String} (first : fileLe a b) (second : fileLe b a) : a = b := by
  cases a with
  | none =>
    cases b with
    | none => rfl
    | some b => cases second
  | some a =>
    cases b with
    | none => cases first
    | some b => exact congrArg some (String.le_antisymm (of_decide_eq_true first) (of_decide_eq_true second))

/-- Where a diagnostic is listed in a report: by its file, and there by its first position. -/
def place (diagnostic : Diagnostic) : Option String × Nat :=
  (diagnostic.file, (diagnostic.span.map (·.start)).getD 0)

/-- The order of reports is that of the places. -/
theorem precedes_iff {a b : Diagnostic} :
    a.precedes b ↔ fileLe a.place.1 b.place.1 ∧ (a.place.1 = b.place.1 → a.place.2 ≤ b.place.2) := by
  simp only [precedes, place, beq_iff_eq]
  split
  · next same =>
    rw [same]
    have reflexive : fileLe b.file b.file := by simpa using fileLe_total b.file b.file
    simp [reflexive]
  · next apart => simp [apart]

theorem precedes_total (a b : Diagnostic) : a.precedes b || b.precedes a := by
  rw [Bool.or_eq_true, precedes_iff, precedes_iff]
  have files := fileLe_total a.place.1 b.place.1
  rw [Bool.or_eq_true] at files
  by_cases same : a.place.1 = b.place.1
  · rw [same] at files ⊢
    have reflexive := files.elim id id
    rcases Nat.le_total a.place.2 b.place.2 with le | le
    · exact .inl ⟨reflexive, fun _ => le⟩
    · exact .inr ⟨reflexive, fun _ => le⟩
  · rcases files with le | le
    · exact .inl ⟨le, fun equal => absurd equal same⟩
    · exact .inr ⟨le, fun equal => absurd equal.symm same⟩

theorem precedes_trans {a b c : Diagnostic} (first : a.precedes b) (second : b.precedes c) : a.precedes c := by
  rw [precedes_iff] at first second ⊢
  refine ⟨fileLe_trans first.1 second.1, fun same => ?_⟩
  have back : fileLe b.place.1 a.place.1 := same ▸ second.1
  have equal := fileLe_antisymm first.1 back
  exact Nat.le_trans (first.2 equal) (second.2 (equal ▸ same))

theorem perm_sort (diagnostics : List Diagnostic) : (sort diagnostics).Perm diagnostics := List.mergeSort_perm _ _

theorem pairwise_sort (diagnostics : List Diagnostic) :
    (sort diagnostics).Pairwise fun a b => a.precedes b :=
  @List.pairwise_mergeSort _ precedes (fun _ _ _ => precedes_trans) precedes_total diagnostics

end Diagnostic

namespace Weave

open Syntax

variable {first second : TypeTable} {options : Options} {file : String}

/-- The weaver of a source file under a table of types. -/
abbrev fileWeaver (options : Options) (types : TypeTable) (file : String) : Weaver where
  handlers := enabledHandlers options
  options := options
  types := types
  file := file

section

variable (alike : first.Alike second)
include alike

theorem attempt_alike (options : Options) (file : String) {handler : Handler} (steady : handler.Steady)
    (target : Target) (note : Option Annotation) (span : Option Span) (site : Option Site) (type : TypeDecl) :
    Weaver.attempt handler target ((fileWeaver options first file).setting note span site type) =
      Weaver.attempt handler target ((fileWeaver options second file).setting note span site type) := by
  have same : (handler.handle target).perform ((fileWeaver options first file).setting note span site type) =
      (handler.handle target).perform ((fileWeaver options second file).setting note span site type) := by
    rw [Handling.perform, Handling.perform]
    rw [← (steady target).same ((fileWeaver options second file).setting note span site type) first alike]
    rfl
  simp only [Weaver.attempt, same]
  rfl

theorem carryOut_alike : (fileWeaver options first file).carryOut = (fileWeaver options second file).carryOut := by
  funext phase progress occurrence
  simp only [Weaver.carryOut]
  cases found : handlerFor? (enabledHandlers options) occurrence.note with
  | none => rfl
  | some handler =>
    have steady := steady_of_standard (List.mem_of_mem_filter (List.mem_of_find?_eq_some found))
    cases (phase.sites progress.type occurrence)[(progress.failed.filter (·.same occurrence)).length]? with
    | none => rfl
    | some place =>
      have same := attempt_alike alike options file steady place.1 (some occurrence.note)
        occurrence.note.origin.span (some place.2) progress.type
      simp only [same]

theorem generate_alike : (fileWeaver options first file).generate = (fileWeaver options second file).generate := by
  funext progress index
  simp only [Weaver.generate]
  cases found : yieldHandler? (enabledHandlers options) with
  | none => rfl
  | some handler =>
    have steady := steady_of_standard (List.mem_of_mem_filter (List.mem_of_find?_eq_some found))
    cases progress.type.methods[index]? with
    | none => rfl
    | some method =>
      have same := attempt_alike alike options file steady (.method index) none
        method.origin.span none progress.type
      simp only [same]

theorem weaveType_alike (fuel : Nat) : ∀ type : TypeDecl,
    (fileWeaver options first file).weaveType fuel type = (fileWeaver options second file).weaveType fuel type := by
  have own : (fileWeaver options first file).weaveOwn = (fileWeaver options second file).weaveOwn := by
    have phases : (fileWeaver options first file).runPhase = (fileWeaver options second file).runPhase := by
      funext progress phase
      simp only [Weaver.runPhase, carryOut_alike alike]
    funext type
    simp only [Weaver.weaveOwn, phases, generate_alike alike]
  induction fuel with
  | zero => exact fun _ => rfl
  | succ fuel inductionHypothesis =>
    intro type
    simp only [Weaver.weaveType, own, funext inductionHypothesis]

/-- A source file is woven to the same under tables that answer alike. -/
theorem weaveUnit_alike (unit : CompilationUnit) : weaveUnit options first unit = weaveUnit options second unit := by
  simp only [weaveUnit, weaveType_alike alike]

end

end Weave

namespace Project

open Syntax

/-- Source files that declare no simple name twice may come in any order: each is woven to the same tree, and the same
diagnostics are reported, sorted by file and position. -/
theorem weaveAll_perm (options : Options) {units units' : List CompilationUnit} (order : units.Perm units')
    (distinct : (TypeTable.simpleNames (units.flatMap TypeTable.declaredIn)).Nodup) :
    (∃ woven : CompilationUnit → CompilationUnit,
      (weaveAll options units).1 = units.map woven ∧ (weaveAll options units').1 = units'.map woven) ∧
    (weaveAll options units).2.Perm (weaveAll options units').2 ∧
    (weaveAll options units).2.Pairwise (fun a b => a.precedes b) ∧
    (weaveAll options units').2.Pairwise (fun a b => a.precedes b) := by
  have alike := TypeTable.alike_ofUnits order distinct
  have same : Weave.weaveUnit options (TypeTable.ofUnits units) = Weave.weaveUnit options (TypeTable.ofUnits units') :=
    funext (Weave.weaveUnit_alike alike)
  refine ⟨⟨fun unit => (Weave.weaveUnit options (TypeTable.ofUnits units) unit).1, ?_, ?_⟩, ?_, ?_, ?_⟩
  · simp only [weaveAll, List.map_map]
    rfl
  · simp only [weaveAll, List.map_map, same]
    rfl
  · simp only [weaveAll, ← same]
    have reordered := (order.map (Weave.weaveUnit options (TypeTable.ofUnits units))).flatMap_right (·.2)
    exact (Diagnostic.perm_sort _).trans (reordered.trans (Diagnostic.perm_sort _).symm)
  · exact Diagnostic.pairwise_sort _
  · exact Diagnostic.pairwise_sort _

/-- A collection with a type within, and an annotation that interfaces cannot have. -/
def bagUnit : CompilationUnit where
  fileName := "Bag.java"
  types := [{
    kind := .interface
    name := "Bag"
    annotations := [{ type := .named "Singleton" }]
    interfaces := [.named "java.util.Collection"]
    memberTypes := [{ name := "Entry" }] }]

/-- A class whose builder fills a field bit by bit if the type of the field is a collection. -/
def shopUnit : CompilationUnit where
  fileName := "Shop.java"
  types := [{
    name := "Shop"
    annotations := [{ type := .named "Builder" }]
    fields := [{ type := .named "Bag", name := "items", initial := some (.make (.named "Bag") []) }]
    methods := [{ annotations := [{ type := .named "FluentSetter" }], returnType := .void, name := "open" }] }]

theorem weaveAll_perm_shop :
    [shopUnit, bagUnit].Perm [bagUnit, shopUnit] ∧
    (TypeTable.simpleNames ([shopUnit, bagUnit].flatMap TypeTable.declaredIn)).Nodup ∧
    ((weaveAll {} [shopUnit, bagUnit]).1.flatMap fun unit => unit.types.flatMap fun type =>
      type.memberTypes.map fun member => (member.name, member.methods.map (·.name))) =
      [("OptionalDef", ["item", "items", "build"]), ("$ShopBuilder", ["item", "items", "build"]), ("Entry", [])] ∧
    (∃ woven : CompilationUnit → CompilationUnit,
      (weaveAll {} [shopUnit, bagUnit]).1 = [woven shopUnit, woven bagUnit] ∧
      (weaveAll {} [bagUnit, shopUnit]).1 = [woven bagUnit, woven shopUnit]) ∧
    (weaveAll {} [shopUnit, bagUnit]).2.Perm (weaveAll {} [bagUnit, shopUnit]).2 := by
  have order : [shopUnit, bagUnit].Perm [bagUnit, shopUnit] := .swap ..
  have distinct : (TypeTable.simpleNames ([shopUnit, bagUnit].flatMap TypeTable.declaredIn)).Nodup := by decide
  obtain ⟨woven, reported, _, _⟩ := weaveAll_perm {} order distinct
  exact ⟨order, distinct, by decide +kernel, woven, reported⟩

end Project

end JavaWeave
