import JavaWeave.Proofs.Builder.Steps
import JavaWeave.Proofs.Syntax.Traversals

/-! Which fields an extension assigns. The handler goes by names alone: an assignment to a variable that has the name of
a field counts for the field. Where no variable has such a name it is right about every extension. -/

namespace JavaWeave.Weave

open Syntax

/-- The variables that a part leaves in sight of the parts behind it. -/
def declares : Node → List String
  | .statement (.declare decl) => [decl.name]
  | .parameter p => [p.name]
  | .switchCase group => group.body.flatMap fun s => match s with | .declare decl => [decl.name] | _ => []
  | _ => []

/-- The variables that come into sight inside a part, behind some of its own parts. A variable is in sight of its own
initial value; the variable of a loop over items is not in sight of what the items come from. -/
def enters (node : Node) (before : List Node) : List String :=
  match node with
  | .localVariable decl => [decl.name]
  | .statement (.forEach item _ _) => if before.length < 2 then [] else [item.name]
  | _ => before.flatMap declares

/-- A part holds an assignment to a field of the current object, outside the types declared in it: by way of the object,
or by the simple name where none of the variables in sight has it. -/
inductive AssignsField : List String → Node → String → Prop where
  | ofSelf {sight : List String} {op : Option BinaryOp} {value : Expression} {name : String} :
      AssignsField sight (.expression (.assign op (.ofSelf name) value)) name
  | simple {sight : List String} {op : Option BinaryOp} {value : Expression} {name : String} (free : name ∉ sight) :
      AssignsField sight (.expression (.assign op (.name name) value)) name
  | inside {sight : List String} {node child : Node} {before behind : List Node} {name : String}
      (own : node.kind ≠ .type) (place : node.children = before ++ child :: behind)
      (assigns : AssignsField (enters node before ++ sight) child name) : AssignsField sight node name

/-- A part is the other one or lies in it, outside the types declared there. -/
inductive Holds : Node → Node → Prop where
  | self {node : Node} : Holds node node
  | step {node child part : Node} (own : node.kind ≠ .type) (inside : child ∈ node.children) (rest : Holds child part) :
      Holds node part

theorem holds_of_visit {ancestors : List Node} {node : Node} {visit : Visit} (met : visit ∈ node.walkUnder ancestors)
    (outside : visit.enclosing? .type = none) : Holds node visit.node := by
  rw [Node.walkUnder_eq, List.mem_cons, List.mem_flatMap] at met
  obtain rfl | ⟨child, inside, below⟩ := met
  · exact .self
  · have above := Node.ancestors_walkUnder (node :: ancestors) child visit below List.mem_cons_self
    have own : node.kind ≠ .type := fun type =>
      List.find?_eq_none.mp outside node above (beq_iff_eq.mpr type)
    exact .step own inside (holds_of_visit below outside)
termination_by node.size
decreasing_by exact Node.size_lt_of_mem_children inside

theorem Holds.visited {node part : Node} (holds : Holds node part) {ancestors : List Node}
    (plain : ∀ above ∈ ancestors, above.kind ≠ .type) :
    ∃ visit ∈ node.walkUnder ancestors, visit.enclosing? .type = none ∧ visit.node = part := by
  induction holds generalizing ancestors with
  | self =>
    refine ⟨⟨_, ancestors⟩, ?_, List.find?_eq_none.mpr fun above listed => ?_, rfl⟩
    · rw [Node.walkUnder_eq]
      exact List.mem_cons_self
    · exact fun type => plain above listed (beq_iff_eq.mp type)
  | step own inside _ ih =>
    obtain ⟨visit, below, outside, same⟩ := ih (List.forall_mem_cons.mpr ⟨own, plain⟩)
    refine ⟨visit, ?_, outside, same⟩
    rw [Node.walkUnder_eq]
    exact List.mem_cons_of_mem _ (List.mem_flatMap.mpr ⟨_, inside, below⟩)

theorem holds_block {body : List Statement} {e : Expression} :
    Holds (.block body) (.expression e) ↔ ∃ s ∈ body, Holds (.statement s) (.expression e) := by
  constructor
  · rintro (_ | ⟨_, inside, rest⟩)
    obtain ⟨s, listed, rfl⟩ := List.mem_map.mp inside
    exact ⟨s, listed, rest⟩
  · rintro ⟨s, listed, rest⟩
    exact .step nofun (List.mem_map_of_mem listed) rest

theorem mem_assignedNames_iff {body : List Statement} {name : String} :
    name ∈ assignedNames body ↔ ∃ e, Holds (.block body) (.expression e) ∧ assignedName? e = some name := by
  simp only [assignedNames, List.mem_filterMap, List.mem_flatMap, holds_block]
  constructor
  · rintro ⟨visit, ⟨s, listed, met⟩, named⟩
    split at named
    next e same =>
      simp only [Option.ite_none_right_eq_some, Option.isNone_iff_eq_none] at named
      exact ⟨e, ⟨s, listed, same ▸ holds_of_visit met named.1⟩, named.2⟩
    next => cases named
  · rintro ⟨e, ⟨s, listed, holds⟩, named⟩
    obtain ⟨visit, met, outside, same⟩ := holds.visited (List.forall_mem_nil _)
    refine ⟨visit, ⟨s, listed, met⟩, ?_⟩
    simp [same, outside, named]

theorem assignedName_eq_some {e : Expression} {name : String} : assignedName? e = some name ↔
    (∃ op value, e = .assign op (.name name) value) ∨ ∃ op value, e = .assign op (.ofSelf name) value := by
  unfold assignedName?
  split <;> simp_all [Expression.ofSelf, Expression.self]

/-- Every assignment to a field is counted. -/
theorem AssignsField.counted {sight : List String} {node : Node} {name : String}
    (assigns : AssignsField sight node name) : ∃ e, Holds node (.expression e) ∧ assignedName? e = some name := by
  induction assigns with
  | ofSelf => exact ⟨_, .self, rfl⟩
  | simple => exact ⟨_, .self, rfl⟩
  | inside own place _ ih =>
    obtain ⟨e, holds, named⟩ := ih
    exact ⟨e, .step own (by simp [place]) holds, named⟩

/-- A part is a variable or parameter of the name. -/
def IsVariable (name : String) : Node → Prop
  | .localVariable decl => decl.name = name
  | .parameter p => p.name = name
  | _ => False

theorem exists_part'of_declares {node : Node} {name : String} (declared : name ∈ declares node) :
    ∃ part, Holds node part ∧ IsVariable name part := by
  have declaring {s : Statement} {decl : LocalVariable} (same : s = .declare decl) :
      Holds (.statement s) (.localVariable decl) := by
    rw [same]
    exact .step nofun List.mem_cons_self .self
  unfold declares at declared
  split at declared
  next decl => exact ⟨_, declaring rfl, (List.mem_singleton.mp declared).symm⟩
  next p => exact ⟨_, .self, (List.mem_singleton.mp declared).symm⟩
  next group =>
    obtain ⟨s, listed, declared⟩ := List.mem_flatMap.mp declared
    split at declared
    next decl =>
      refine ⟨_, .step nofun (List.mem_append_right _ (List.mem_map_of_mem listed)) (declaring rfl), ?_⟩
      exact (List.mem_singleton.mp declared).symm
    next => cases declared
  next => cases declared

/-- Whatever comes into sight inside a part is a variable there. -/
theorem exists_part'of_enters {node : Node} {before behind : List Node} {name : String}
    (own : node.kind ≠ .type) (place : node.children = before ++ behind) (entered : name ∈ enters node before) :
    ∃ part, Holds node part ∧ IsVariable name part := by
  unfold enters at entered
  split at entered
  next decl => exact ⟨_, .self, (List.mem_singleton.mp entered).symm⟩
  next item iterable body =>
    split at entered
    · cases entered
    · exact ⟨.localVariable item, .step own List.mem_cons_self .self, (List.mem_singleton.mp entered).symm⟩
  next =>
    obtain ⟨part, listed, declared⟩ := List.mem_flatMap.mp entered
    obtain ⟨part', holds, named⟩ := exists_part'of_declares declared
    exact ⟨part', .step own (place ▸ List.mem_append_left _ listed) holds, named⟩

/-- Where no variable has its name, whatever is counted for a field is an assignment to it. -/
theorem Holds.assignsField {node part : Node} (holds : Holds node part) {e : Expression} (met : part = .expression e)
    {name : String} (named : assignedName? e = some name) (apart : ∀ part, Holds node part → ¬ IsVariable name part)
    {sight : List String} (free : name ∉ sight) : AssignsField sight node name := by
  induction holds generalizing sight with
  | self =>
    subst met
    obtain ⟨op, value, rfl⟩ | ⟨op, value, rfl⟩ := assignedName_eq_some.mp named
    · exact .simple free
    · exact .ofSelf
  | step own inside rest ih =>
    obtain ⟨before, behind, place⟩ := List.append_of_mem inside
    refine .inside own place (ih met (fun part below => apart part (.step own inside below)) ?_)
    rw [List.mem_append, not_or]
    refine ⟨fun entered => ?_, free⟩
    obtain ⟨part, below, isVariable⟩ := exists_part'of_enters own place entered
    exact apart part below isVariable

/-- A body contains an assignment to a name or to the field of that name, outside the types declared in it. This goes by
the name alone, as the handler does: the name may be that of a variable in sight. -/
def Assigns (body : List Statement) (name : String) : Prop :=
  ∃ statement ∈ body, ∃ visit ∈ (Node.statement statement).walk, visit.enclosing? .type = none ∧ ∃ op value,
    visit.node = .expression (.assign op (.name name) value) ∨
      visit.node = .expression (.assign op (.ofSelf name) value)

/-- A body assigns the field, and not a variable that has its name. -/
theorem Assigns.assignsField {body : List Statement} {name : String} (assigns : Assigns body name)
    (apart : ∀ part, Holds (.block body) part → ¬ IsVariable name part) {sight : List String} (free : name ∉ sight) :
    AssignsField sight (.block body) name := by
  obtain ⟨s, listed, visit, met, outside, op, value, same⟩ := assigns
  have named : ∃ e, visit.node = .expression e ∧ assignedName? e = some name := by
    rcases same with simple | ofSelf
    · exact ⟨_, simple, rfl⟩
    · exact ⟨_, ofSelf, rfl⟩
  obtain ⟨e, same, named⟩ := named
  have holds : Holds (.block body) (.expression e) := holds_block.mpr ⟨s, listed, same ▸ holds_of_visit met outside⟩
  exact holds.assignsField rfl named apart free

/-- What a verdict says of the required fields that are assigned. -/
def ExtensionVerdict.Tells (required : List String) (assigned : String → Prop) : ExtensionVerdict → Prop
  | .notPrivateVoid => True
  | .incomplete missing =>
    (∃ name ∈ required, assigned name) ∧ missing ≠ [] ∧ ∀ name ∈ required, name ∈ missing ↔ ¬ assigned name
  | .usable true => required ≠ [] ∧ ∀ name ∈ required, assigned name
  | .usable false => ∀ name ∈ required, ¬ assigned name

/-- The handler is right about an extension in which no parameter and no variable has the name of a required field: it
is offered for all of them just if it has an assignment to each. -/
theorem judgeExtension_tells {type : TypeDecl} {required : List String} {method : Method}
    (known : ∀ name ∈ required, type.hasField name = true)
    (parameters : ∀ parameter ∈ method.parameters, parameter.name ∉ required)
    (apart : ∀ part, Holds (.block method.body) part → ∀ name ∈ required, ¬ IsVariable name part) :
    (judgeExtension type required method).Tells required
      (AssignsField (method.parameters.map (·.name)) (.block method.body)) := by
  have counted (name : String) (member : name ∈ required) :
      name ∈ (assignedNames method.body).filter type.hasField ↔
        AssignsField (method.parameters.map (·.name)) (.block method.body) name := by
    rw [List.mem_filter, and_iff_left (known name member), mem_assignedNames_iff]
    constructor
    · rintro ⟨e, holds, named⟩
      refine holds.assignsField rfl named (fun part below => apart part below name member) fun listed => ?_
      obtain ⟨parameter, own, rfl⟩ := List.mem_map.mp listed
      exact parameters parameter own member
    · exact fun assigns => assigns.counted
  have contained (name : String) (member : name ∈ required) :
      ((assignedNames method.body).filter type.hasField).contains name = true ↔
        AssignsField (method.parameters.map (·.name)) (.block method.body) name :=
    List.contains_iff_mem.trans (counted name member)
  rw [judgeExtension]
  split
  · trivial
  simp only [List.partition_eq_filter_filter]
  split
  next given =>
    intro name member assigns
    exact List.filter_eq_nil_iff.mp (List.isEmpty_iff.mp given) name member ((contained name member).mpr assigns)
  next given =>
    obtain ⟨first, listed⟩ := List.exists_mem_of_ne_nil _ (mt List.isEmpty_iff.mpr given)
    obtain ⟨member, first_given⟩ := List.mem_filter.mp listed
    have left (name : String) (member : name ∈ required) :
        (!((assignedNames method.body).filter type.hasField).contains name) = true ↔
          ¬ AssignsField (method.parameters.map (·.name)) (.block method.body) name := by
      rw [← contained name member, Bool.not_eq_true', Bool.not_eq_true]
    split
    next missing =>
      refine ⟨List.ne_nil_of_mem member, fun name member => ?_⟩
      by_contra unassigned
      exact List.filter_eq_nil_iff.mp (List.isEmpty_iff.mp missing) name member ((left name member).mpr unassigned)
    next missing =>
      refine ⟨⟨first, member, (contained first member).mp first_given⟩, mt List.isEmpty_iff.mpr missing, ?_⟩
      intro name member
      rw [List.mem_filter, and_iff_right member]
      exact left name member

/-- A field whose name a variable in sight has is assigned by way of the object only. -/
theorem AssignsField.of_hidden {sight : List String} {node : Node} {name : String}
    (assigns : AssignsField sight node name) (hidden : name ∈ sight) :
    ∃ op value, Holds node (.expression (.assign op (.ofSelf name) value)) := by
  induction assigns with
  | ofSelf => exact ⟨_, _, .self⟩
  | simple free => exact absurd hidden free
  | inside own place _ ih =>
    obtain ⟨op, value, holds⟩ := ih (List.mem_append_right _ hidden)
    exact ⟨op, value, .step own (by simp [place]) holds⟩

/-- An extension whose parameter has the name of a field: only the other field is assigned by way of the object. -/
def hidingBody : List Statement := [
  .expression (.set (.name "a") (.int 1)),
  .expression (.set (.ofSelf "b") (.name "a"))]

example : "a" ∈ assignedNames hidingBody ∧ "b" ∈ assignedNames hidingBody :=
  ⟨mem_assignedNames_iff.mpr ⟨_, .step nofun (.head _) (.step nofun (.head _) .self), rfl⟩,
    mem_assignedNames_iff.mpr ⟨_, .step nofun (.tail _ (.head _)) (.step nofun (.head _) .self), rfl⟩⟩

end JavaWeave.Weave
