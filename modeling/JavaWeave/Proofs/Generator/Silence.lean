import JavaWeave.Generator.Shape
import JavaWeave.Proofs.Syntax.Traversals

/-! Where a body yields. The check accepts calls of `yield` that are whole statements, outside of types declared in
the body and of places that hold a lock: there the machine can stop. Everything else in an accepted body is silent. -/

namespace JavaWeave.Generator

open Syntax

/-- The value that an unqualified call of `yield` hands out. -/
def yieldedValue? : Node → Option Expression
  | .expression (.call none name _ arguments) =>
    if name = yieldName then some (arguments.head?.getD .null) else none
  | _ => none

/-- The values that the unqualified calls of `yield` in a part hand out, in reading order. -/
def handedOut (node : Node) : List Expression := node.walk.filterMap fun visit => yieldedValue? visit.node

/-- No unqualified call of `yield` stands in a part. -/
def Silent (node : Node) : Prop := handedOut node = []

private theorem handedOut_walkUnder (ancestors : List Node) (node : Node) :
    ((node.walkUnder ancestors).filterMap fun visit => yieldedValue? visit.node) = handedOut node := by
  rw [handedOut, Node.walk, Node.walkUnder_eq, Node.walkUnder_eq, List.filterMap_cons, List.filterMap_cons,
    List.filterMap_flatMap, List.filterMap_flatMap]
  have parts : node.children.flatMap (fun child => (child.walkUnder (node :: ancestors)).filterMap
      fun visit => yieldedValue? visit.node) =
      node.children.flatMap fun child => (child.walkUnder [node]).filterMap fun visit => yieldedValue? visit.node :=
    List.flatMap_congr fun child inside => by
      rw [handedOut_walkUnder (node :: ancestors) child, handedOut_walkUnder [node] child]
  rw [parts]
termination_by node.size
decreasing_by all_goals exact Node.size_lt_of_mem_children inside

/-- A part hands out what it hands out itself and what its parts hand out. -/
theorem handedOut_eq (node : Node) :
    handedOut node = (yieldedValue? node).toList ++ node.children.flatMap handedOut := by
  rw [handedOut, Node.walk, Node.walkUnder_eq, List.filterMap_cons, List.filterMap_flatMap]
  simp only [handedOut_walkUnder]
  cases yieldedValue? node <;> rfl

theorem silent_iff (node : Node) :
    Silent node ↔ yieldedValue? node = none ∧ ∀ child ∈ node.children, Silent child := by
  simp only [Silent, handedOut_eq node, List.append_eq_nil_iff, Option.toList_eq_nil_iff, List.flatMap_eq_nil_iff]

theorem silent_statement (s : Statement) : Silent (.statement s) ↔ ∀ child ∈ Node.ofStatement s, Silent child :=
  (silent_iff _).trans (and_iff_right rfl)

theorem Silent.child {node child : Node} (silent : Silent node) (inside : child ∈ node.children) : Silent child :=
  ((silent_iff node).mp silent).2 child inside

section

variable {node child first second : Node} {items : List α} {kind : α → Node}

private theorem silent_none (own : yieldedValue? node = none) (parts : node.children = []) : Silent node :=
  (silent_iff node).mpr ⟨own, by simp [parts]⟩

private theorem silent_one (own : yieldedValue? node = none) (parts : node.children = [child]) :
    Silent node ↔ Silent child := by
  rw [silent_iff, parts, List.forall_mem_singleton, and_iff_right own]

private theorem silent_two (own : yieldedValue? node = none) (parts : node.children = [first, second]) :
    Silent node ↔ Silent first ∧ Silent second := by
  rw [silent_iff, parts, List.forall_mem_cons, List.forall_mem_singleton, and_iff_right own]

private theorem silent_each (own : yieldedValue? node = none) (parts : node.children = items.map kind) :
    Silent node ↔ ∀ item ∈ items, Silent (kind item) := by
  rw [silent_iff, parts, List.forall_mem_map, and_iff_right own]

private theorem silent_oneAndEach (own : yieldedValue? node = none) (parts : node.children = child :: items.map kind) :
    Silent node ↔ Silent child ∧ ∀ item ∈ items, Silent (kind item) := by
  rw [silent_iff, parts, List.forall_mem_cons, List.forall_mem_map, and_iff_right own]

variable {e e' : Expression} {s : Statement} {es : List Expression} {body : List Statement}

@[simp] theorem silent_name (name : String) : Silent (.expression (.name name)) := silent_none rfl rfl

@[simp] theorem silent_this (qualifier : Option String) : Silent (.expression (.this qualifier)) := silent_none rfl rfl

@[simp] theorem silent_literal (value : Literal) : Silent (.expression (.literal value)) := silent_none rfl rfl

@[simp] theorem silent_field (name : String) : Silent (.expression (.field e name)) ↔ Silent (.expression e) :=
  silent_one rfl rfl

@[simp] theorem silent_element :
    Silent (.expression (.element e e')) ↔ Silent (.expression e) ∧ Silent (.expression e') := silent_two rfl rfl

@[simp] theorem silent_callOwn (name : String) (typeArguments : List JavaType) :
    Silent (.expression (.call none name typeArguments es)) ↔
      name ≠ yieldName ∧ ∀ e ∈ es, Silent (.expression e) := by
  have own : yieldedValue? (.expression (.call none name typeArguments es)) = none ↔ name ≠ yieldName := by
    simp [yieldedValue?]
  rw [silent_iff, own]
  exact and_congr_right fun _ => List.forall_mem_map

@[simp] theorem silent_callOn (name : String) (typeArguments : List JavaType) :
    Silent (.expression (.call (some e) name typeArguments es)) ↔
      Silent (.expression e) ∧ ∀ e ∈ es, Silent (.expression e) := silent_oneAndEach rfl rfl

@[simp] theorem silent_create (type : JavaType) :
    Silent (.expression (.create type es none)) ↔ ∀ e ∈ es, Silent (.expression e) :=
  silent_each rfl (List.append_nil _)

@[simp] theorem silent_binary (op : BinaryOp) :
    Silent (.expression (.binary op e e')) ↔ Silent (.expression e) ∧ Silent (.expression e') := silent_two rfl rfl

@[simp] theorem silent_unary (op : UnaryOp) : Silent (.expression (.unary op e)) ↔ Silent (.expression e) :=
  silent_one rfl rfl

@[simp] theorem silent_assign (op : Option BinaryOp) :
    Silent (.expression (.assign op e e')) ↔ Silent (.expression e) ∧ Silent (.expression e') := silent_two rfl rfl

@[simp] theorem silent_instanceOf (type : JavaType) :
    Silent (.expression (.instanceOf e type)) ↔ Silent (.expression e) := silent_one rfl rfl

@[simp] theorem silent_cast (type : JavaType) : Silent (.expression (.cast type e)) ↔ Silent (.expression e) :=
  silent_one rfl rfl

@[simp] theorem silent_expression : Silent (.statement (.expression e)) ↔ Silent (.expression e) := silent_one rfl rfl

@[simp] theorem silent_whenever :
    Silent (.statement (.ifElse e s none)) ↔ Silent (.expression e) ∧ Silent (.statement s) := silent_two rfl rfl

@[simp] theorem silent_blockStatement : Silent (.statement (.block body)) ↔ ∀ s ∈ body, Silent (.statement s) :=
  silent_each rfl rfl

@[simp] theorem silent_declare (decl : LocalVariable) :
    Silent (.statement (.declare decl)) ↔ Silent (.localVariable decl) := silent_one rfl rfl

@[simp] theorem silent_returns (value : Option Expression) :
    Silent (.statement (.returns value)) ↔ ∀ e ∈ value, Silent (.expression e) :=
  (silent_each rfl rfl).trans (by simp only [Option.mem_toList, Option.mem_def])

@[simp] theorem silent_throws : Silent (.statement (.throws e)) ↔ Silent (.expression e) := silent_one rfl rfl

@[simp] theorem silent_breaks (label : Option String) : Silent (.statement (.breaks label)) := silent_none rfl rfl

@[simp] theorem silent_continues (label : Option String) : Silent (.statement (.continues label)) :=
  silent_none rfl rfl

@[simp] theorem silent_whileLoop :
    Silent (.statement (.whileLoop e s)) ↔ Silent (.expression e) ∧ Silent (.statement s) := silent_two rfl rfl

@[simp] theorem silent_doWhile :
    Silent (.statement (.doWhile s e)) ↔ Silent (.statement s) ∧ Silent (.expression e) := silent_two rfl rfl

@[simp] theorem silent_synchronized :
    Silent (.statement (.synchronized e body)) ↔ Silent (.expression e) ∧ Silent (.block body) := silent_two rfl rfl

@[simp] theorem silent_localType (t : TypeDecl) : Silent (.statement (.localType t)) ↔ Silent (.type t) :=
  silent_one rfl rfl

@[simp] theorem silent_labeled (label : String) : Silent (.statement (.labeled label s)) ↔ Silent (.statement s) :=
  silent_one rfl rfl

@[simp] theorem silent_switch (cases : List SwitchCase) :
    Silent (.statement (.switch e cases)) ↔ Silent (.expression e) ∧ ∀ group ∈ cases, Silent (.switchCase group) :=
  silent_oneAndEach rfl rfl

@[simp] theorem silent_tryCatch (catches : List CatchClause) :
    Silent (.statement (.tryCatch body catches none)) ↔
      Silent (.block body) ∧ ∀ clause ∈ catches, Silent (.catchClause clause) :=
  silent_oneAndEach rfl (congrArg (_ :: ·) (List.append_nil _))

@[simp] theorem silent_switchCase (label : Option Expression) :
    Silent (.switchCase ⟨label, body⟩) ↔ (∀ e ∈ label, Silent (.expression e)) ∧ ∀ s ∈ body, Silent (.statement s) := by
  refine (silent_iff _).trans ((and_iff_right rfl).trans (List.forall_mem_append.trans ?_))
  simp only [List.forall_mem_map, Option.mem_toList, Option.mem_def]

@[simp] theorem silent_catchClause (parameter : Parameter) :
    Silent (.catchClause ⟨parameter, body⟩) ↔ Silent (.parameter parameter) ∧ Silent (.block body) := silent_two rfl rfl

@[simp] theorem silent_block : Silent (.block body) ↔ ∀ s ∈ body, Silent (.statement s) := silent_each rfl rfl

end

/-- No objection is made to a part or to what is in it. -/
def Clear (ancestors : List Node) (node : Node) : Prop :=
  ∀ visit ∈ node.walkUnder ancestors, objectionAt? visit = none

theorem clear_iff (ancestors : List Node) (node : Node) : Clear ancestors node ↔
    objectionAt? ⟨node, ancestors⟩ = none ∧ ∀ child ∈ node.children, Clear (node :: ancestors) child := by
  simp only [Clear, Node.walkUnder_eq ancestors node, List.forall_mem_cons, List.mem_flatMap]
  exact and_congr_right fun _ =>
    ⟨fun all child inside visit met => all visit ⟨child, inside, met⟩, fun all visit ⟨child, inside, met⟩ =>
      all child inside visit met⟩

/-- The part is inside a type or a statement that holds a lock, where nothing yields. -/
def Barred (ancestors : List Node) : Prop :=
  (ancestors.find? (·.kind == .type)).isSome = true ∨ ancestors.any isSynchronized = true

/-- A part that holds no statements but those of types. -/
def isInner (node : Node) : Bool :=
  match node.kind with
  | .type | .expression | .note | .localVariable | .parameter => true
  | _ => false

section

variable {ancestors : List Node} {node : Node}

theorem Clear.child {child : Node} (clear : Clear ancestors node) (inside : child ∈ node.children) :
    Clear (node :: ancestors) child := ((clear_iff ancestors node).mp clear).2 child inside

theorem Barred.cons (barred : Barred ancestors) (node : Node) : Barred (node :: ancestors) := by
  refine barred.imp (fun found => ?_) fun found => ?_
  · rw [List.find?_isSome] at found ⊢
    obtain ⟨around, inside, stops⟩ := found
    exact ⟨around, List.mem_cons_of_mem _ inside, stops⟩
  · rw [List.any_cons, found, Bool.or_true]

theorem barred_type (t : TypeDecl) : Barred (.type t :: ancestors) := Or.inl rfl

private theorem inner_children (inner : isInner node = true) (typeless : node.kind ≠ .type) :
    ∀ child ∈ node.children, isInner child = true := by
  intro child inside
  cases node with
  | expression e =>
    cases e <;> simp only [Node.children, Node.ofExpression, List.mem_append, List.mem_map, List.mem_cons,
      List.not_mem_nil, or_false] at inside <;> grind [isInner, Node.kind]
  | note a =>
    obtain ⟨member, _, rfl⟩ := List.mem_map.mp inside
    rfl
  | localVariable decl =>
    rcases List.mem_append.mp inside with note | initial
    · obtain ⟨_, _, rfl⟩ := List.mem_map.mp note
      rfl
    · obtain ⟨_, _, rfl⟩ := List.mem_map.mp initial
      rfl
  | parameter p =>
    obtain ⟨_, _, rfl⟩ := List.mem_map.mp inside
    rfl
  | type _ => exact absurd rfl typeless
  | _ => cases inner

theorem yieldedValue?_of_yielded? {e : Expression} {arguments : List Expression}
    (yielded : (Statement.expression e).yielded? = some arguments) :
    ∃ typeArguments, e = .call none yieldName typeArguments arguments := by
  cases e with
  | call receiver name typeArguments values =>
    cases receiver with
    | some _ => cases yielded
    | none =>
      rw [Statement.yielded?] at yielded
      split at yielded
      · next same =>
        cases yielded
        exact ⟨typeArguments, by rw [eq_of_beq same]⟩
      · cases yielded
  | _ => cases yielded

theorem yieldedValue?_of_not_yielded? {e : Expression} (other : (Statement.expression e).yielded? = none) :
    yieldedValue? (.expression e) = none := by
  cases e with
  | call receiver name _ _ =>
    cases receiver with
    | some _ => rfl
    | none =>
      have different : name ≠ yieldName := by
        rintro rfl
        simp [Statement.yielded?] at other
      exact if_neg different
  | _ => rfl

/-- Statements that are calls of `yield` meet an objection where nothing yields. -/
private theorem quiet_statement {e : Expression} (clear : Clear ancestors (.statement (.expression e)))
    (barred : Barred ancestors) : yieldedValue? (.expression e) = none := by
  cases yielded : (Statement.expression e).yielded? with
  | none => exact yieldedValue?_of_not_yielded? yielded
  | some arguments =>
    have judged := ((clear_iff _ _).mp clear).1
    rcases barred with nested | locked <;> grind [objectionAt?, Visit.enclosing?]

/-- In an expression every call of `yield` meets an objection. -/
private theorem quiet_expression (clear : Clear ancestors node)
    (part : isWholeStatement ⟨node, ancestors⟩ = true → yieldedValue? node = none) : yieldedValue? node = none := by
  cases whole : isWholeStatement ⟨node, ancestors⟩ with
  | true => exact part whole
  | false =>
    have judged := ((clear_iff _ _).mp clear).1
    unfold yieldedValue?
    split
    · next name _ _ =>
      by_cases same : name = yieldName
      · subst same
        simp only [objectionAt?] at judged
        rw [if_neg (by simp [whole])] at judged
        split at judged <;> cases judged
      · exact if_neg same
    · rfl

/-- Nothing yields in a type, behind a lock or in an expression that meets no objection. -/
theorem silent_of_clear (node : Node) {ancestors : List Node} (clear : Clear ancestors node)
    (closed : Barred ancestors ∨ isInner node = true)
    (part : isWholeStatement ⟨node, ancestors⟩ = true → yieldedValue? node = none) : Silent node := by
  refine (silent_iff node).mpr ⟨quiet_expression clear part, fun child inside => ?_⟩
  refine silent_of_clear child (clear.child inside) ?_ fun whole => ?_
  · rcases closed with barred | inner
    · exact Or.inl (barred.cons node)
    · by_cases typed : node.kind = .type
      · refine Or.inl ?_
        cases node <;> first | exact barred_type _ | cases typed
      · exact Or.inr (inner_children inner typed child inside)
  · -- the child of a statement that is an expression is judged with the statement
    unfold isWholeStatement at whole
    split at whole
    · next e same =>
      obtain rfl : node = .statement (.expression e) := by simpa using same
      obtain rfl : child = .expression e := by simpa [Node.children, Node.ofStatement] using inside
      exact quiet_statement clear (closed.resolve_right (by simp [isInner, Node.kind]))
    · cases whole
termination_by node.size
decreasing_by exact Node.size_lt_of_mem_children inside

end

mutual

/-- A statement that yields by whole statements only, and only where the machine can stop. -/
def Placed : Statement → Prop
  | .block body => PlacedAll body
  | .expression e =>
    Silent (.expression e) ∨
      ∃ typeArguments value, e = .call none yieldName typeArguments [value] ∧ Silent (.expression value)
  | .ifElse condition whenTrue whenFalse =>
    Silent (.expression condition) ∧ Placed whenTrue ∧ (match whenFalse with | some s => Placed s | none => True)
  | .whileLoop condition body => Silent (.expression condition) ∧ Placed body
  | .doWhile body condition => Placed body ∧ Silent (.expression condition)
  | .forLoop start condition update body =>
    PlacedAll start ∧ (∀ e ∈ condition, Silent (.expression e)) ∧ (∀ e ∈ update, Silent (.expression e)) ∧ Placed body
  | .forEach item iterable body => Silent (.localVariable item) ∧ Silent (.expression iterable) ∧ Placed body
  | .switch selector cases => Silent (.expression selector) ∧ PlacedCases cases
  | .tryCatch body catches finalizer =>
    PlacedAll body ∧ PlacedCatches catches ∧ (match finalizer with | some ss => PlacedAll ss | none => True)
  | .labeled _ body => Placed body
  | .declare decl => Silent (.localVariable decl)
  | .synchronized lock body => Silent (.expression lock) ∧ Silent (.block body)
  | .returns value => ∀ e ∈ value, Silent (.expression e)
  | .throws value => Silent (.expression value)
  | .localType t => Silent (.type t)
  | .returnsDefault | .breaks _ | .continues _ | .empty | .verbatim _ => True

def PlacedAll : List Statement → Prop
  | [] => True
  | s :: rest => Placed s ∧ PlacedAll rest

def PlacedCases : List SwitchCase → Prop
  | [] => True
  | ⟨label, body⟩ :: rest => (∀ e ∈ label, Silent (.expression e)) ∧ PlacedAll body ∧ PlacedCases rest

def PlacedCatches : List CatchClause → Prop
  | [] => True
  | ⟨parameter, body⟩ :: rest => Silent (.parameter parameter) ∧ PlacedAll body ∧ PlacedCatches rest

end

section

variable {ancestors : List Node}

private theorem silent_inner {s : Statement} {child : Node} (clear : Clear ancestors (.statement s))
    (inside : child ∈ Node.ofStatement s) (inner : isInner child = true) (other : ∀ e, s ≠ .expression e) :
    Silent child := by
  refine silent_of_clear child (clear.child inside) (Or.inr inner) fun whole => ?_
  unfold isWholeStatement at whole
  split at whole
  · next e same => exact absurd (by simpa using same) (other e)
  · cases whole

private theorem placed_expression {e : Expression} (clear : Clear ancestors (.statement (.expression e))) :
    Placed (.expression e) := by
  have inside : Clear (.statement (.expression e) :: ancestors) (.expression e) := clear.child List.mem_cons_self
  cases yielded : (Statement.expression e).yielded? with
  | none =>
    exact Or.inl (silent_of_clear _ inside (Or.inr rfl) fun _ => yieldedValue?_of_not_yielded? yielded)
  | some arguments =>
    have judged := ((clear_iff _ _).mp clear).1
    obtain ⟨typeArguments, rfl⟩ := yieldedValue?_of_yielded? yielded
    have one : arguments.length = 1 := by grind [objectionAt?]
    obtain ⟨value, rfl⟩ := List.length_eq_one_iff.mp one
    refine Or.inr ⟨typeArguments, value, rfl, ?_⟩
    have below : Clear (.expression (.call none yieldName typeArguments [value]) ::
        .statement (.expression (.call none yieldName typeArguments [value])) :: ancestors) (.expression value) :=
      inside.child (by simp [Node.children, Node.ofExpression])
    exact silent_of_clear _ below (Or.inr rfl) fun whole => by cases whole

private theorem clear_block {body : List Statement} (clear : Clear ancestors (.block body)) :
    ∀ s ∈ body, Clear (.block body :: ancestors) (.statement s) := fun _ inside => clear.child (List.mem_map_of_mem inside)

mutual

/-- What the check accepts yields by whole statements only, and only where the machine can stop. -/
theorem placed_of_clear (ancestors : List Node) : (s : Statement) → Clear ancestors (.statement s) → Placed s
  | .block body, clear => placedAll_of_clear _ body fun s inside => clear.child (List.mem_map_of_mem inside)
  | .expression _, clear => placed_expression clear
  | .ifElse condition whenTrue none, clear =>
    ⟨silent_inner clear (by simp [Node.ofStatement]) rfl nofun,
      placed_of_clear _ whenTrue (clear.child (by simp [Node.children, Node.ofStatement])), trivial⟩
  | .ifElse condition whenTrue (some whenFalse), clear =>
    ⟨silent_inner clear (by simp [Node.ofStatement]) rfl nofun,
      placed_of_clear _ whenTrue (clear.child (by simp [Node.children, Node.ofStatement])),
      placed_of_clear _ whenFalse (clear.child (by simp [Node.children, Node.ofStatement]))⟩
  | .whileLoop condition body, clear =>
    ⟨silent_inner clear (by simp [Node.ofStatement]) rfl nofun,
      placed_of_clear _ body (clear.child (by simp [Node.children, Node.ofStatement]))⟩
  | .doWhile body condition, clear =>
    ⟨placed_of_clear _ body (clear.child (by simp [Node.children, Node.ofStatement])),
      silent_inner clear (by simp [Node.ofStatement]) rfl nofun⟩
  | .forLoop start condition update body, clear =>
    ⟨placedAll_of_clear _ start fun s inside => clear.child (by simp [Node.children, Node.ofStatement, inside]),
      fun e given => silent_inner clear (by simp [Node.ofStatement, Option.mem_def.mp given]) rfl nofun,
      fun e inside => silent_inner clear (by simp [Node.ofStatement, inside]) rfl nofun,
      placed_of_clear _ body (clear.child (by simp [Node.children, Node.ofStatement]))⟩
  | .forEach item iterable body, clear =>
    ⟨silent_inner clear (by simp [Node.ofStatement]) rfl nofun,
      silent_inner clear (by simp [Node.ofStatement]) rfl nofun,
      placed_of_clear _ body (clear.child (by simp [Node.children, Node.ofStatement]))⟩
  | .switch selector cases, clear =>
    ⟨silent_inner clear (by simp [Node.ofStatement]) rfl nofun,
      placedCases_of_clear _ cases fun group inside => clear.child (by simp [Node.children, Node.ofStatement, inside])⟩
  | .tryCatch body catches none, clear =>
    ⟨placedAll_of_clear _ body (clear_block (clear.child (by simp [Node.children, Node.ofStatement]))),
      placedCatches_of_clear _ catches fun clause inside =>
        clear.child (by simp [Node.children, Node.ofStatement, inside]), trivial⟩
  | .tryCatch body catches (some finalizer), clear =>
    ⟨placedAll_of_clear _ body (clear_block (clear.child (by simp [Node.children, Node.ofStatement]))),
      placedCatches_of_clear _ catches fun clause inside =>
        clear.child (by simp [Node.children, Node.ofStatement, inside]),
      placedAll_of_clear _ finalizer (clear_block (clear.child (by simp [Node.children, Node.ofStatement])))⟩
  | .labeled _ body, clear => placed_of_clear _ body (clear.child (by simp [Node.children, Node.ofStatement]))
  | .declare decl, clear => silent_inner clear (by simp [Node.ofStatement]) rfl nofun
  | .synchronized lock body, clear =>
    ⟨silent_inner clear (by simp [Node.ofStatement]) rfl nofun,
      silent_of_clear _ (clear.child (by simp [Node.children, Node.ofStatement])) (Or.inl (Or.inr rfl)) nofun⟩
  | .returns value, clear => fun e given =>
    silent_inner clear (by simp [Node.ofStatement, Option.mem_def.mp given]) rfl nofun
  | .throws value, clear => silent_inner clear (by simp [Node.ofStatement]) rfl nofun
  | .localType t, clear => silent_inner clear (by simp [Node.ofStatement]) rfl nofun
  | .returnsDefault, _ | .breaks _, _ | .continues _, _ | .empty, _ | .verbatim _, _ => trivial

theorem placedAll_of_clear (ancestors : List Node) : (body : List Statement) →
    (∀ s ∈ body, Clear ancestors (.statement s)) → PlacedAll body
  | [], _ => trivial
  | s :: rest, clear => ⟨placed_of_clear _ s (clear s List.mem_cons_self),
      placedAll_of_clear _ rest fun s inside => clear s (List.mem_cons_of_mem _ inside)⟩

theorem placedCases_of_clear (ancestors : List Node) : (cases : List SwitchCase) →
    (∀ group ∈ cases, Clear ancestors (.switchCase group)) → PlacedCases cases
  | [], _ => trivial
  | ⟨label, body⟩ :: rest, clear => by
    have here := clear _ List.mem_cons_self
    refine ⟨fun e given => ?_, ?_, ?_⟩
    · exact silent_of_clear _ (here.child (by simp [Node.children, Option.mem_def.mp given])) (Or.inr rfl) nofun
    · exact placedAll_of_clear _ body fun s inside => here.child (by simp [Node.children, inside])
    · exact placedCases_of_clear _ rest fun group inside => clear group (List.mem_cons_of_mem _ inside)

theorem placedCatches_of_clear (ancestors : List Node) : (catches : List CatchClause) →
    (∀ clause ∈ catches, Clear ancestors (.catchClause clause)) → PlacedCatches catches
  | [], _ => trivial
  | ⟨parameter, body⟩ :: rest, clear => by
    have here := clear _ List.mem_cons_self
    refine ⟨?_, ?_, ?_⟩
    · exact silent_of_clear _ (here.child (by simp [Node.children])) (Or.inr rfl) nofun
    · exact placedAll_of_clear _ body (clear_block (here.child (by simp [Node.children])))
    · exact placedCatches_of_clear _ rest fun clause inside => clear clause (List.mem_cons_of_mem _ inside)

end

end

theorem handedOut_statement (s : Statement) :
    handedOut (.statement s) = (Node.ofStatement s).flatMap handedOut := handedOut_eq _

private theorem quiet_left {first second : Bool} (quiet : (first || second) = false) : first = false :=
  (Bool.or_eq_false_iff.mp quiet).1

private theorem quiet_right {first second : Bool} (quiet : (first || second) = false) : second = false :=
  (Bool.or_eq_false_iff.mp quiet).2

mutual

/-- A statement in which nothing yields is silent. -/
theorem silent_of_quiet : (s : Statement) → Placed s → s.yields = false → Silent (.statement s)
  | .block body, placed, quiet => silent_blockStatement.mpr (silentAll_of_quiet body placed quiet)
  | .expression e, placed, quiet => by
    rcases placed with silent | ⟨typeArguments, value, rfl, _⟩
    · exact silent_expression.mpr silent
    · have loud : (Statement.expression (.call none yieldName typeArguments [value])).yields = true := rfl
      rw [quiet] at loud
      cases loud
  | .ifElse _ whenTrue none, ⟨silent, placed, _⟩, quiet =>
    silent_whenever.mpr ⟨silent, silent_of_quiet whenTrue placed (quiet_right (quiet_left quiet))⟩
  | .ifElse _ whenTrue (some whenFalse), ⟨silent, placed, placed'⟩, quiet => by
    have part := silent_of_quiet whenTrue placed (quiet_right (quiet_left quiet))
    have part' := silent_of_quiet whenFalse placed' (quiet_right quiet)
    exact (silent_statement _).mpr
      (List.forall_mem_cons.mpr ⟨silent, List.forall_mem_cons.mpr ⟨part, List.forall_mem_singleton.mpr part'⟩⟩)
  | .whileLoop _ body, ⟨silent, placed⟩, quiet =>
    silent_whileLoop.mpr ⟨silent, silent_of_quiet body placed (quiet_right quiet)⟩
  | .doWhile body _, ⟨placed, silent⟩, quiet =>
    silent_doWhile.mpr ⟨silent_of_quiet body placed (quiet_left quiet), silent⟩
  | .forLoop start condition update body, ⟨placed, silent, silent', placed'⟩, quiet => by
    have parts := silentAll_of_quiet start placed (quiet_left (quiet_left (quiet_left quiet)))
    have part := silent_of_quiet body placed' (quiet_right quiet)
    rw [silent_statement, Node.ofStatement]
    simp only [List.forall_mem_append, List.forall_mem_map, List.forall_mem_singleton, Option.mem_toList]
    exact ⟨⟨⟨parts, silent⟩, silent'⟩, part⟩
  | .forEach ⟨_, _, _, _, _⟩ _ body, ⟨silent, silent', placed⟩, quiet => by
    have part := silent_of_quiet body placed (quiet_right quiet)
    exact (silent_statement _).mpr
      (List.forall_mem_cons.mpr ⟨silent, List.forall_mem_cons.mpr ⟨silent', List.forall_mem_singleton.mpr part⟩⟩)
  | .switch _ cases, ⟨silent, placed⟩, quiet =>
    (silent_switch cases).mpr ⟨silent, silentCases_of_quiet cases placed (quiet_right quiet)⟩
  | .tryCatch body catches none, ⟨placed, placed', _⟩, quiet => by
    have part := silent_block.mpr (silentAll_of_quiet body placed (quiet_left (quiet_left quiet)))
    have handlers := silentCatches_of_quiet catches placed' (quiet_right (quiet_left quiet))
    exact (silent_tryCatch catches).mpr ⟨part, handlers⟩
  | .tryCatch body catches (some finalizer), ⟨placed, placed', placed''⟩, quiet => by
    have part := silent_block.mpr (silentAll_of_quiet body placed (quiet_left (quiet_left quiet)))
    have handlers := silentCatches_of_quiet catches placed' (quiet_right (quiet_left quiet))
    have part' := silent_block.mpr (silentAll_of_quiet finalizer placed'' (quiet_right quiet))
    exact (silent_statement _).mpr (List.forall_mem_cons.mpr
      ⟨part, List.forall_mem_append.mpr ⟨List.forall_mem_map.mpr handlers, List.forall_mem_singleton.mpr part'⟩⟩)
  | .labeled label body, placed, quiet => (silent_labeled label).mpr (silent_of_quiet body placed quiet)
  | .declare decl, placed, _ => (silent_declare decl).mpr placed
  | .synchronized _ _, placed, _ => silent_synchronized.mpr placed
  | .returns value, placed, _ => (silent_returns value).mpr placed
  | .throws _, placed, _ => silent_throws.mpr placed
  | .localType t, placed, _ => (silent_localType t).mpr placed
  | .returnsDefault, _, _ | .breaks _, _, _ | .continues _, _, _ | .empty, _, _ | .verbatim _, _, _ =>
    (silent_statement _).mpr nofun

theorem silentAll_of_quiet : (body : List Statement) → PlacedAll body → bodyYields body = false →
    ∀ s ∈ body, Silent (.statement s)
  | [], _, _ => nofun
  | s :: rest, ⟨placed, others⟩, quiet => List.forall_mem_cons.mpr
      ⟨silent_of_quiet s placed (quiet_left quiet), silentAll_of_quiet rest others (quiet_right quiet)⟩

theorem silentCases_of_quiet : (cases : List SwitchCase) → PlacedCases cases → casesYield cases = false →
    ∀ group ∈ cases, Silent (.switchCase group)
  | [], _, _ => nofun
  | ⟨label, body⟩ :: rest, ⟨silent, placed, others⟩, quiet => by
    have parts := silentAll_of_quiet body placed (quiet_right (quiet_left quiet))
    exact List.forall_mem_cons.mpr ⟨(silent_switchCase label).mpr ⟨silent, parts⟩,
      silentCases_of_quiet rest others (quiet_right quiet)⟩

theorem silentCatches_of_quiet : (catches : List CatchClause) → PlacedCatches catches → catchesYield catches = false →
    ∀ clause ∈ catches, Silent (.catchClause clause)
  | [], _, _ => nofun
  | ⟨⟨_, _, _, _⟩, body⟩ :: rest, ⟨silent, placed, others⟩, quiet => by
    have part := silent_block.mpr (silentAll_of_quiet body placed (quiet_right (quiet_left quiet)))
    exact List.forall_mem_cons.mpr ⟨(silent_catchClause _).mpr ⟨silent, part⟩,
      silentCatches_of_quiet rest others (quiet_right quiet)⟩

end

end JavaWeave.Generator
