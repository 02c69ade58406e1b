import JavaWeave.Proofs.Generator.Closed
import JavaWeave.Proofs.Generator.Prepared

namespace JavaWeave.Generator

open Syntax

/-- Nothing yields in statements. -/
def AllSilent (body : List Statement) : Prop := ∀ s ∈ body, Silent (.statement s)

theorem AllSilent.append {first second : List Statement} (front : AllSilent first) (back : AllSilent second) :
    AllSilent (first ++ second) := List.forall_mem_append.mpr ⟨front, back⟩

theorem AllSilent.cons {s : Statement} {rest : List Statement} (head : Silent (.statement s)) (tail : AllSilent rest) :
    AllSilent (s :: rest) := List.forall_mem_cons.mpr ⟨head, tail⟩

theorem AllSilent.single {s : Statement} (silent : Silent (.statement s)) : AllSilent [s] :=
  List.forall_mem_singleton.mpr silent

theorem placedAll_iff {body : List Statement} : PlacedAll body ↔ ∀ s ∈ body, Placed s := by
  induction body with
  | nil => exact ⟨fun _ => List.forall_mem_nil _, fun _ => trivial⟩
  | cons s rest ih => exact (and_congr_right fun _ => ih).trans List.forall_mem_cons.symm

section

variable (numbering : Numbering)

private theorem silent_setNumber (name : String) (target : Target) :
    Silent (.expression (.set (.name name) (numbering.literal target))) :=
  (silent_assign none).mpr ⟨silent_name name, silent_literal _⟩

private theorem mem_followRoute {route : Route} {s : Statement} (inside : s ∈ followRoute numbering route) :
    ∃ name target, s = assignName name (numbering.literal target) := by
  rcases List.mem_append.mp inside with continuation | last
  · obtain ⟨⟨region, target⟩, _, rfl⟩ := List.mem_map.mp continuation
    exact ⟨continuationName region, target, rfl⟩
  · exact ⟨stateName, route.target, List.mem_singleton.mp last⟩

private theorem silent_followRoute (route : Route) : AllSilent (followRoute numbering route) := by
  intro s inside
  obtain ⟨name, target, rfl⟩ := mem_followRoute numbering inside
  exact silent_expression.mpr (silent_setNumber numbering name target)

private theorem silent_of_exitRoute? {exits : Exits} {nesting : Nesting} {s : Statement} {route : Route}
    (leaves : exitRoute? exits nesting s = some route) : Silent (.statement s) := by
  cases s with
  | breaks label => exact silent_breaks label
  | continues label => exact silent_continues label
  | returns value =>
    cases value with
    | none => exact (silent_returns none).mpr nofun
    | some _ => cases leaves
  | _ => cases leaves

private theorem samePlaces_transfer {s : Statement} (silent : Silent (.statement s)) (route : Route)
    (label : Option String) : SamePlaces s (.block (followRoute numbering route ++ [.continues label])) where
  count := by
    have written := silent_blockStatement.mpr
      ((silent_followRoute numbering route).append (.single (silent_continues label)))
    rw [silent_iff_yieldCount.mp written, silent_iff_yieldCount.mp silent]
  placed _ := by
    refine placedAll_iff.mpr (List.forall_mem_append.mpr ⟨fun s inside => ?_, List.forall_mem_singleton.mpr trivial⟩)
    obtain ⟨name, target, rfl⟩ := mem_followRoute numbering inside
    exact Or.inl (silent_setNumber numbering name target)

/-- Jumps become transfers, in which nothing yields. -/
theorem keepsYields_exitReviser (exits : Exits) : KeepsYields (exitReviser numbering exits) where
  closed := rfl
  expression _ e := .pure (.refl e)
  statement nesting s := by
    simp only [exitReviser]
    cases leaves : exitRoute? exits nesting s with
    | none => exact .pure (.refl s)
    | some route =>
      have same := samePlaces_transfer numbering (silent_of_exitRoute? leaves) route
      refine SatisfiesM_StateT_eq.mpr fun labeled => SatisfiesM_Id_eq.mpr ?_
      cases nesting.loops
      · exact same none
      · exact same (some loopLabel)

private theorem silent_lowerEndFinalizer (region : Nat) : AllSilent (lowerEndFinalizer region) := by
  have pending : Silent (.localVariable (.final (.named "java.lang.Throwable") "$t" (.name (pendingName region)))) :=
    (silent_iff _).mpr ⟨rfl, List.forall_mem_singleton.mpr (silent_name _)⟩
  simp [lowerEndFinalizer, AllSilent, Statement.whenever, assignName, Statement.set, Expression.set, Expression.null,
    pending]

mutual

/-- The code of silent operations is silent. -/
theorem silent_lowerOp (next : Option Nat) : (op : Op) → op.Silent →
    SatisfiesM AllSilent (lowerOp numbering next op)
  | .code _, silent => .pure (.single silent)
  | .leaving statement exits, silent =>
    ((keepsYields_exitReviser numbering exits).onStatement {} statement).bind fun _ same =>
      .pure (.single (silent_of_yieldCount same.count silent))
  | .branch _ ops, silent =>
    (silent_lowerOps none ops silent.2).bind fun _ silent' =>
      .pure (.single (silent_whenever.mpr ⟨silent.1, silent_blockStatement.mpr silent'⟩))
  | .jump route, _ => .pure ((silent_followRoute numbering route).append (by
      split
      · nofun
      · exact .single (silent_continues none)))
  | .yield value resume, silent => .pure (.cons
      (silent_expression.mpr ((silent_assign none).mpr ⟨silent_name elementName, silent⟩))
      (.cons (silent_expression.mpr (silent_setNumber numbering stateName resume))
        (.single ((silent_returns _).mpr fun _ given => Option.some.inj given ▸ silent_literal _))))
  | .dispatch selector arms, silent => by
    refine .pure (.single ((silent_switch _).mpr ⟨silent.1, List.forall_mem_map.mpr fun (label, target) inside => ?_⟩))
    have goes : AllSilent [setState numbering target, .continues none] :=
      .cons (silent_expression.mpr (silent_setNumber numbering stateName target)) (.single (silent_continues none))
    exact (silent_switchCase label).mpr ⟨silent.2 _ inside, goes⟩
  | .endFinalizer region, _ => .pure (silent_lowerEndFinalizer region)

theorem silent_lowerOps (next : Option Nat) : (ops : List Op) → Op.AllSilent ops →
    SatisfiesM AllSilent (lowerOps numbering next ops)
  | [], _ => .pure nofun
  | op :: rest, ⟨silent, silent'⟩ =>
    (silent_lowerOp _ op silent).bind fun _ first => (silent_lowerOps next rest silent').bind fun _ others =>
      .pure (first.append others)

end

variable {machine : Machine} (silent : ∀ id, Op.AllSilent (machine.state id).ops)

end

mutual

theorem silent_map (f : Target → Target) : (op : Op) → op.Silent → (op.map f).Silent
  | .code _, silent | .leaving _ _, silent | .yield _ _, silent => silent
  | .jump _, _ | .endFinalizer _, _ => trivial
  | .branch _ ops, silent => ⟨silent.1, silent_mapAll f ops silent.2⟩
  | .dispatch _ _, silent => ⟨silent.1, fun arm inside => by
      obtain ⟨before, among, rfl⟩ := List.mem_map.mp inside
      exact silent.2 before among⟩

theorem silent_mapAll (f : Target → Target) : (ops : List Op) → Op.AllSilent ops → Op.AllSilent (Op.mapAll f ops)
  | [], _ => trivial
  | op :: rest, ⟨silent, others⟩ => ⟨silent_map f op silent, silent_mapAll f rest others⟩

end

section

variable (numbering : Numbering)

end

/-- The values that states which are not written would hand out. -/
def Machine.dropped (machine : Machine) : List Expression :=
  ((List.range machine.states.length).filter (· ∉ machine.layout)).flatMap fun id =>
    (machine.state id).ops.filterMap Op.value?

/-- A generator that returns before it yields. -/
def returning : Method where
  returnType := (JavaType.named "java.util.Iterator").apply [.named "java.lang.Integer"]
  name := "items"
  body := [.returns none, .expression (.callOwn yieldName [.int 1])]

end JavaWeave.Generator
