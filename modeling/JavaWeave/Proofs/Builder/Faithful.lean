import JavaWeave.Proofs.Builder.Given

/-! A built object holds exactly what was given: a class of numbers, truth values and texts is woven, its builder is
given values, and the object that is built has each value that was given last, and else the initial value. -/

namespace JavaWeave.Weave

open Syntax Interpreter

theorem use_bind {action : Use α} {next : α → Use β} {value : α} {world after : World}
    (ends : action world = (.ok value, after)) : (action >>= next) world = next value after := by
  change (ExceptT.bind action next) world = _
  simp only [ExceptT.bind, ExceptT.mk, bind, StateT.bind, ends]
  rfl

namespace BuilderPlan.Sound

variable {plan : BuilderPlan} {stamp : Origin → Origin} {place : Nat} {outer inner : ClassId} {world : World}
  (sound : plan.Sound)
include sound

end BuilderPlan.Sound

/-- A class of the top level that has nothing but fields that hold numbers, truth values and texts. -/
structure DataClass (decl : TypeDecl) : Prop extends FieldClass decl where
  outermost : (decl.isLocal || decl.isAnonymous) = false
  named : Names.isIdentifier decl.name = true
  distinct : (decl.fields.map (·.name)).Nodup
  apart : ∀ field ∈ decl.fields, field.name ≠ decl.name
  kinds : ∀ field ∈ decl.fields, field.type ∈ kinds
  literals : ∀ field ∈ decl.fields, ∀ value, field.initial = some (.literal value) →
    OfKind field.type (.ofLiteral value)

namespace DataClass

variable {decl : TypeDecl} (data : DataClass decl)
include data

theorem simple : '.' ∉ decl.name.toList := by
  have begins : Text.startsIdentifier '.' = false := by decide +kernel
  have continues : Text.continuesIdentifier '.' = false := by decide +kernel
  have named := data.named
  rw [Names.isIdentifier] at named
  split at named
  next => cases named
  next first rest letters =>
    simp only [Bool.and_eq_true, List.all_eq_true] at named
    rw [letters, List.mem_cons, not_or]
    refine ⟨?_, fun inside => ?_⟩
    · rintro rfl
      simp [begins] at named
    · simpa [continues] using named.1.2 '.' inside

theorem nonempty : decl.name ≠ "" := by
  intro same
  have named := data.named
  rw [same] at named
  exact absurd named (by decide)

theorem ordinary : decl.name ≠ "super" := by
  intro same
  have named := data.named
  rw [same] at named
  exact absurd named (by decide)

theorem sound {types : TypeTable} (concrete : decl.modifiers.has .abstract = false)
    (shapes : ∀ field ∈ decl.fields, fieldShape types true field = .plain) (allowReset : Option Bool) :
    (defaultPlan types decl allowReset).Sound where
  toPlain := plain_defaultPlan data.toFieldClass shapes allowReset
  leading := rfl
  concrete := concrete
  simple := data.simple
  ordinary := data.ordinary
  distinct := data.distinct
  apart := data.apart
  kinds field listed := by
    have each : ∀ type ∈ Weave.kinds, OfKind type (.zero type) := by
      simp only [Weave.kinds, List.forall_mem_cons]
      exact ⟨rfl, rfl, rfl, rfl, nofun⟩
    exact each field.type (data.kinds field listed)
  literals := data.literals

end DataClass

section Program

variable {units : List CompilationUnit} {types : TypeTable}

/-- What weaving makes of a type of the top level. -/
structure Woven (types : TypeTable) (source woven : Option String × TypeDecl) : Prop where
  package : woven.1 = source.1
  type : ∃ unit, woven.2 = ((unitWeaver {} types unit).weaveType (nesting source.2 + 1) source.2).1

theorem Woven.name {source woven : Option String × TypeDecl} (made : Woven types source woven) :
    woven.2.name = source.2.name := by
  obtain ⟨unit, same⟩ := made.type
  rw [same]
  exact name_weaveType (standard_unitWeaver {} types unit) _ _

theorem woven_weaveUnit (types : TypeTable) (units : List CompilationUnit) :
    List.Forall₂ (Woven types) (ClassTable.topLevel units)
      (ClassTable.topLevel (units.map fun unit => (weaveUnit {} types unit).1)) := by
  induction units with
  | nil => exact .nil
  | cons unit rest inductionHypothesis =>
    refine List.rel_append ?_ inductionHypothesis
    simp only [weaveUnit_eq, List.map_map]
    rw [List.forall₂_map_left_iff, List.forall₂_map_right_iff]
    exact List.forall₂_same.mpr fun type _ => ⟨rfl, unit, rfl⟩

variable {decl : TypeDecl} {package : Option String} {earlier later : List (Option String × TypeDecl)}
  {before after : List Annotation} {note : Annotation} {allowReset : Option Bool}

/-- The class and its builder are classes of the woven program. -/
theorem houses_weaveAll (there : ClassTable.topLevel units = earlier ++ (package, decl) :: later)
    (alone : ∀ entry ∈ later, entry.2.name ≠ decl.name) (data : DataClass decl)
    (only : OnlyBuilder decl before note after allowReset)
    (shapes : ∀ field ∈ decl.fields, fieldShape (TypeTable.ofUnits units) true field = .plain) :
    ∃ outer inner, (defaultPlan (TypeTable.ofUnits units) decl allowReset).Housed (stampAt note.origin.span)
      before.length (ClassTable.load (Project.weaveAll {} units).1) outer inner := by
  have program : (Project.weaveAll {} units).1 =
      units.map fun unit => (weaveUnit {} (TypeTable.ofUnits units) unit).1 := by
    rw [Project.weaveAll, List.map_map]
    rfl
  have woven := woven_weaveUnit (TypeTable.ofUnits units) units
  rw [there] at woven
  obtain ⟨front, ⟨package', type⟩, behind, placed, own, rest⟩ := ClassTable.forall₂_middle woven
  obtain ⟨unit, same⟩ := own.type
  rw [only.weaveType data.toFieldClass shapes data.outermost] at same
  obtain rfl : type = only.result (TypeTable.ofUnits units) := same
  have plain := plain_defaultPlan data.toFieldClass shapes allowReset
  have straight : ClassTable.StraightClass (only.result (TypeTable.ofUnits units)) := by
    refine ⟨plain.straight_product .., List.forall_mem_map.mpr fun member listed => ?_⟩
    obtain ⟨straight, unmarked⟩ := plain.mem_memberTypes listed
    exact ⟨straight_restamp _ straight, unmarked.memberTypes⟩
  rw [program]
  refine ClassTable.houses_load placed straight (List.map_append ..) data.superclass rfl data.simple
    fun entry listed => ?_
  obtain ⟨source, among, made⟩ := ClassTable.forall₂_mem rest listed
  rw [made.name]
  exact alone source among

end Program

end JavaWeave.Weave
