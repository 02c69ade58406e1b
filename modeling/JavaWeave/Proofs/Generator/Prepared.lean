import JavaWeave.Generator.Yielder
import JavaWeave.Proofs.Generator.Silence
import Mathlib

namespace JavaWeave.Generator

open Syntax

/-- How many calls of `yield` stand in a part. -/
def yieldCount (node : Node) : Nat := (handedOut node).length

theorem silent_iff_yieldCount {node : Node} : Silent node ↔ yieldCount node = 0 := List.length_eq_zero_iff.symm

theorem yieldCount_eq (node : Node) :
    yieldCount node = (yieldedValue? node).toList.length + (node.children.map yieldCount).sum := by
  rw [yieldCount, handedOut_eq, List.length_append, List.length_flatMap]
  rfl

/-- Parts with as many calls as others, one by one. -/
def SameCounts (nodes nodes' : List Node) : Prop := nodes'.map yieldCount = nodes.map yieldCount

namespace SameCounts

variable {nodes nodes' others others' : List Node} {node node' : Node}

theorem refl (nodes : List Node) : SameCounts nodes nodes := rfl

theorem cons (head : yieldCount node' = yieldCount node) (tail : SameCounts nodes nodes') :
    SameCounts (node :: nodes) (node' :: nodes') := congrArg₂ List.cons head tail

theorem single (same : yieldCount node' = yieldCount node) : SameCounts [node] [node'] := cons same rfl

theorem append (front : SameCounts nodes nodes') (back : SameCounts others others') :
    SameCounts (nodes ++ others) (nodes' ++ others') := by
  simp only [SameCounts, List.map_append]
  exact congrArg₂ (· ++ ·) front back

theorem silent (same : SameCounts nodes nodes') (silent : ∀ node ∈ nodes, Silent node) :
    ∀ node ∈ nodes', Silent node := by
  have zero : ∀ count ∈ nodes.map yieldCount, count = 0 :=
    List.forall_mem_map.mpr fun node inside => silent_iff_yieldCount.mp (silent node inside)
  rw [← same, List.forall_mem_map] at zero
  exact fun node inside => silent_iff_yieldCount.mpr (zero node inside)

end SameCounts

theorem silent_of_yieldCount {node node' : Node} (same : yieldCount node' = yieldCount node) (silent : Silent node) :
    Silent node' := silent_iff_yieldCount.mpr (same.trans (silent_iff_yieldCount.mp silent))

/-- A part has as many calls as another one if it is such a call like the other one and its parts have as many. -/
theorem yieldCount_congr {node node' : Node} (own : (yieldedValue? node').isSome = (yieldedValue? node).isSome)
    (parts : SameCounts node.children node'.children) : yieldCount node' = yieldCount node := by
  have same : (yieldedValue? node').toList.length = (yieldedValue? node).toList.length := by
    cases here : yieldedValue? node <;> cases there : yieldedValue? node' <;> simp_all
  rw [yieldCount_eq, yieldCount_eq node, same, parts]

/-- An expression with as many calls, which is such a call if the other one is. -/
structure SameYields (e e' : Expression) : Prop where
  count : yieldCount (.expression e') = yieldCount (.expression e)
  whole : (Statement.expression e').yielded?.map (·.map fun e => yieldCount (.expression e)) =
    (Statement.expression e).yielded?.map (·.map fun e => yieldCount (.expression e))

namespace SameYields

variable {e e' first first' second second' third third' : Expression} {es es' others others' : List Expression}
  {t t' : TypeDecl}

theorem refl (e : Expression) : SameYields e e := ⟨rfl, rfl⟩

theorem trans {e'' : Expression} (first : SameYields e e') (second : SameYields e' e'') : SameYields e e'' :=
  ⟨second.count.trans first.count, second.whole.trans first.whole⟩

theorem silent (same : SameYields e e') (silent : Silent (.expression e)) : Silent (.expression e') :=
  silent_of_yieldCount same.count silent

theorem expressions (head : SameYields e e') (tail : SameCounts (es.map .expression) (es'.map .expression)) :
    SameCounts ((e :: es).map .expression) ((e' :: es').map .expression) := .cons head.count tail

/-- Expressions that are no calls of `yield`. -/
theorem of_parts (other : (Statement.expression e).yielded? = none)
    (other' : (Statement.expression e').yielded? = none)
    (parts : SameCounts (Node.ofExpression e) (Node.ofExpression e')) : SameYields e e' := by
  refine ⟨yieldCount_congr ?_ parts, by rw [other, other']⟩
  rw [yieldedValue?_of_not_yielded? other, yieldedValue?_of_not_yielded? other']

theorem field (same : SameYields e e') (name : String) : SameYields (.field e name) (.field e' name) :=
  of_parts rfl rfl (.single same.count)

theorem element (same : SameYields first first') (same' : SameYields second second') :
    SameYields (.element first second) (.element first' second') :=
  of_parts rfl rfl (.cons same.count (.single same'.count))

theorem call (name : String) (typeArguments : List JavaType)
    (same : SameCounts (es.map .expression) (es'.map .expression)) :
    SameYields (.call none name typeArguments es) (.call none name typeArguments es') where
  count := by
    refine yieldCount_congr ?_ same
    simp only [yieldedValue?]
    split <;> rfl
  whole := by
    simp only [Statement.yielded?]
    split
    · exact congrArg some (by simpa [SameCounts, Function.comp_def] using same)
    · rfl

theorem callOn (same : SameYields e e') (name : String) (typeArguments : List JavaType)
    (same' : SameCounts (es.map .expression) (es'.map .expression)) :
    SameYields (.call (some e) name typeArguments es) (.call (some e') name typeArguments es') :=
  of_parts rfl rfl (.cons same.count same')

theorem make (type : JavaType) (same : SameCounts (es.map .expression) (es'.map .expression)) :
    SameYields (.create type es none) (.create type es' none) := of_parts rfl rfl (same.append rfl)

theorem makeAnonymous (type : JavaType) (same : SameCounts (es.map .expression) (es'.map .expression))
    (same' : yieldCount (.type t') = yieldCount (.type t)) :
    SameYields (.create type es (some t)) (.create type es' (some t')) := of_parts rfl rfl (same.append (.single same'))

theorem createArray (type : JavaType) (unsized : Nat)
    (same : SameCounts (es.map .expression) (es'.map .expression)) :
    SameYields (.createArray type es unsized none) (.createArray type es' unsized none) :=
  of_parts rfl rfl (same.append rfl)

theorem createArrayOf (type : JavaType) (unsized : Nat)
    (same : SameCounts (es.map .expression) (es'.map .expression))
    (same' : SameCounts (others.map .expression) (others'.map .expression)) :
    SameYields (.createArray type es unsized (some others)) (.createArray type es' unsized (some others')) :=
  of_parts rfl rfl (same.append same')

theorem arrayElements (same : SameCounts (es.map .expression) (es'.map .expression)) :
    SameYields (.arrayElements es) (.arrayElements es') := of_parts rfl rfl same

theorem binary (op : BinaryOp) (same : SameYields first first') (same' : SameYields second second') :
    SameYields (.binary op first second) (.binary op first' second') :=
  of_parts rfl rfl (.cons same.count (.single same'.count))

theorem unary (op : UnaryOp) (same : SameYields e e') : SameYields (.unary op e) (.unary op e') :=
  of_parts rfl rfl (.single same.count)

theorem assign (op : Option BinaryOp) (same : SameYields first first') (same' : SameYields second second') :
    SameYields (.assign op first second) (.assign op first' second') :=
  of_parts rfl rfl (.cons same.count (.single same'.count))

theorem instanceOf (type : JavaType) (same : SameYields e e') : SameYields (.instanceOf e type) (.instanceOf e' type) :=
  of_parts rfl rfl (.single same.count)

theorem cast (type : JavaType) (same : SameYields e e') : SameYields (.cast type e) (.cast type e') :=
  of_parts rfl rfl (.single same.count)

theorem conditional (same : SameYields first first') (same' : SameYields second second')
    (same'' : SameYields third third') :
    SameYields (.conditional first second third) (.conditional first' second' third') :=
  of_parts rfl rfl (.cons same.count (.cons same'.count (.single same''.count)))

end SameYields

/-- A statement with as many calls, which yields where the machine can stop if the other one does. -/
structure SamePlaces (s s' : Statement) : Prop where
  count : yieldCount (.statement s') = yieldCount (.statement s)
  placed : Placed s → Placed s'

/-- Statements with as many calls, which yield where the machine can stop if the others do. -/
structure SamePlacesAll (body body' : List Statement) : Prop where
  counts : SameCounts (body.map .statement) (body'.map .statement)
  placed : PlacedAll body → PlacedAll body'

/-- Groups of a switch with as many calls, which yield where the machine can stop if the others do. -/
structure SamePlacesCases (cases cases' : List SwitchCase) : Prop where
  counts : SameCounts (cases.map .switchCase) (cases'.map .switchCase)
  placed : PlacedCases cases → PlacedCases cases'

/-- Handlers with as many calls, which yield where the machine can stop if the others do. -/
structure SamePlacesCatches (catches catches' : List CatchClause) : Prop where
  counts : SameCounts (catches.map .catchClause) (catches'.map .catchClause)
  placed : PlacedCatches catches → PlacedCatches catches'

theorem SamePlacesAll.refl (body : List Statement) : SamePlacesAll body body := ⟨rfl, id⟩

theorem SamePlacesAll.trans {body body' body'' : List Statement} (first : SamePlacesAll body body')
    (second : SamePlacesAll body' body'') : SamePlacesAll body body'' :=
  ⟨second.counts.trans first.counts, second.placed ∘ first.placed⟩

theorem SamePlacesAll.nil : SamePlacesAll [] [] := .refl []

theorem SamePlacesAll.cons {s s' : Statement} {body body' : List Statement} (head : SamePlaces s s')
    (tail : SamePlacesAll body body') : SamePlacesAll (s :: body) (s' :: body') :=
  ⟨.cons head.count tail.counts, fun placed => ⟨head.placed placed.1, tail.placed placed.2⟩⟩

theorem SamePlacesAll.count {body body' : List Statement} (same : SamePlacesAll body body') :
    yieldCount (.block body') = yieldCount (.block body) := yieldCount_congr rfl same.counts

namespace SamePlaces

variable {s s' s'' other other' : Statement} {body body' start start' : List Statement}
  {cases cases' : List SwitchCase} {catches catches' : List CatchClause} {e e' : Expression} {es es' : List Expression}

theorem refl (s : Statement) : SamePlaces s s := ⟨rfl, id⟩

theorem trans (first : SamePlaces s s') (second : SamePlaces s' s'') : SamePlaces s s'' :=
  ⟨second.count.trans first.count, second.placed ∘ first.placed⟩

theorem of_parts (parts : SameCounts (Node.ofStatement s) (Node.ofStatement s')) (placed : Placed s → Placed s') :
    SamePlaces s s' := ⟨yieldCount_congr rfl parts, placed⟩

theorem block (same : SamePlacesAll body body') : SamePlaces (.block body) (.block body') :=
  of_parts same.counts same.placed

theorem expression (same : SameYields e e') : SamePlaces (.expression e) (.expression e') := by
  refine of_parts (.single same.count) fun placed => ?_
  rcases placed with silent | ⟨typeArguments, value, rfl, silent⟩
  · exact Or.inl (same.silent silent)
  · obtain ⟨arguments, yielded, counts⟩ := Option.map_eq_some_iff.mp same.whole
    obtain ⟨typeArguments', rfl⟩ := yieldedValue?_of_yielded? yielded
    have length : arguments.length = 1 := by simpa using congrArg List.length counts
    obtain ⟨value', rfl⟩ := List.length_eq_one_iff.mp length
    have count : yieldCount (.expression value') = yieldCount (.expression value) := (List.cons.inj counts).1
    rw [silent_iff_yieldCount] at silent
    exact Or.inr ⟨typeArguments', value', rfl, silent_iff_yieldCount.mpr (count.trans silent)⟩

theorem ifElse (test : SameYields e e') (same : SamePlaces s s') :
    SamePlaces (.ifElse e s none) (.ifElse e' s' none) :=
  of_parts (.cons test.count (.single same.count)) fun ⟨silent, placed, _⟩ =>
    ⟨test.silent silent, same.placed placed, trivial⟩

theorem ifElseBoth (test : SameYields e e') (same : SamePlaces s s') (same' : SamePlaces other other') :
    SamePlaces (.ifElse e s (some other)) (.ifElse e' s' (some other')) :=
  of_parts (.cons test.count (.cons same.count (.single same'.count))) fun ⟨silent, placed, placed'⟩ =>
    ⟨test.silent silent, same.placed placed, same'.placed placed'⟩

theorem whileLoop (test : SameYields e e') (same : SamePlaces s s') :
    SamePlaces (.whileLoop e s) (.whileLoop e' s') :=
  of_parts (.cons test.count (.single same.count)) fun ⟨silent, placed⟩ => ⟨test.silent silent, same.placed placed⟩

theorem doWhile (same : SamePlaces s s') (test : SameYields e e') : SamePlaces (.doWhile s e) (.doWhile s' e') :=
  of_parts (.cons same.count (.single test.count)) fun ⟨placed, silent⟩ => ⟨same.placed placed, test.silent silent⟩

theorem forLoop {condition condition' : Option Expression} (starts : SamePlacesAll start start')
    (test : SameCounts (condition.toList.map .expression) (condition'.toList.map .expression))
    (steps : SameCounts (es.map .expression) (es'.map .expression)) (same : SamePlaces s s') :
    SamePlaces (.forLoop start condition es s) (.forLoop start' condition' es' s') := by
  refine of_parts (((starts.counts.append test).append steps).append (.single same.count)) ?_
  rintro ⟨placed, silent, silent', placed'⟩
  refine ⟨starts.placed placed, fun e given => ?_, fun e inside => ?_, same.placed placed'⟩
  · refine test.silent (List.forall_mem_map.mpr ?_) _ (List.mem_map_of_mem (Option.mem_toList.mpr given))
    exact fun e inside => silent e (Option.mem_toList.mp inside)
  · exact steps.silent (List.forall_mem_map.mpr silent') _ (List.mem_map_of_mem inside)

theorem forEach {item item' : LocalVariable}
    (items : yieldCount (.localVariable item') = yieldCount (.localVariable item)) (elements : SameYields e e')
    (same : SamePlaces s s') : SamePlaces (.forEach item e s) (.forEach item' e' s') :=
  of_parts (.cons items (.cons elements.count (.single same.count))) fun ⟨silent, silent', placed⟩ =>
    ⟨silent_of_yieldCount items silent, elements.silent silent', same.placed placed⟩

theorem switch (selects : SameYields e e') (same : SamePlacesCases cases cases') :
    SamePlaces (.switch e cases) (.switch e' cases') :=
  of_parts (.cons selects.count same.counts) fun ⟨silent, placed⟩ => ⟨selects.silent silent, same.placed placed⟩

theorem tryCatch (same : SamePlacesAll body body') (handlers : SamePlacesCatches catches catches') :
    SamePlaces (.tryCatch body catches none) (.tryCatch body' catches' none) :=
  of_parts (.cons same.count (handlers.counts.append rfl)) fun ⟨placed, placed', _⟩ =>
    ⟨same.placed placed, handlers.placed placed', trivial⟩

theorem tryFinally (same : SamePlacesAll body body') (handlers : SamePlacesCatches catches catches')
    (ends : SamePlacesAll start start') :
    SamePlaces (.tryCatch body catches (some start)) (.tryCatch body' catches' (some start')) :=
  of_parts (.cons same.count (handlers.counts.append (.single ends.count))) fun ⟨placed, placed', placed''⟩ =>
    ⟨same.placed placed, handlers.placed placed', ends.placed placed''⟩

theorem synchronized (lock : SameYields e e') (same : SamePlacesAll body body') :
    SamePlaces (.synchronized e body) (.synchronized e' body') :=
  of_parts (.cons lock.count (.single same.count)) fun ⟨silent, silent'⟩ =>
    ⟨lock.silent silent, silent_of_yieldCount same.count silent'⟩

theorem returns {value value' : Option Expression}
    (same : SameCounts (value.toList.map .expression) (value'.toList.map .expression)) :
    SamePlaces (.returns value) (.returns value') :=
  of_parts same fun silent e given => by
    refine same.silent (List.forall_mem_map.mpr ?_) _ (List.mem_map_of_mem (Option.mem_toList.mpr given))
    exact fun e inside => silent e (Option.mem_toList.mp inside)

theorem throws (same : SameYields e e') : SamePlaces (.throws e) (.throws e') :=
  of_parts (.single same.count) same.silent

theorem labeled (label : String) (same : SamePlaces s s') : SamePlaces (.labeled label s) (.labeled label s') :=
  of_parts (.single same.count) same.placed

theorem declare {decl decl' : LocalVariable}
    (same : yieldCount (.localVariable decl') = yieldCount (.localVariable decl)) :
    SamePlaces (.declare decl) (.declare decl') := of_parts (.single same) (silent_of_yieldCount same)

theorem localType {t t' : TypeDecl} (same : yieldCount (.type t') = yieldCount (.type t)) :
    SamePlaces (.localType t) (.localType t') := of_parts (.single same) (silent_of_yieldCount same)

end SamePlaces

theorem SamePlacesCases.cons {label label' : Option Expression} {body body' : List Statement}
    {rest rest' : List SwitchCase}
    (labels : SameCounts (label.toList.map .expression) (label'.toList.map .expression))
    (same : SamePlacesAll body body') (others : SamePlacesCases rest rest') :
    SamePlacesCases (⟨label, body⟩ :: rest) (⟨label', body'⟩ :: rest') where
  counts := .cons (yieldCount_congr rfl (labels.append same.counts)) others.counts
  placed := fun ⟨silent, placed, placed'⟩ => by
    refine ⟨fun e given => ?_, same.placed placed, others.placed placed'⟩
    refine labels.silent (List.forall_mem_map.mpr ?_) _ (List.mem_map_of_mem (Option.mem_toList.mpr given))
    exact fun e inside => silent e (Option.mem_toList.mp inside)

theorem SamePlacesCatches.cons {parameter parameter' : Parameter} {body body' : List Statement}
    {rest rest' : List CatchClause} (notes : parameter'.annotations = parameter.annotations)
    (same : SamePlacesAll body body') (others : SamePlacesCatches rest rest') :
    SamePlacesCatches (⟨parameter, body⟩ :: rest) (⟨parameter', body'⟩ :: rest') := by
  have count : yieldCount (.parameter parameter') = yieldCount (.parameter parameter) :=
    yieldCount_congr rfl (by rw [Node.children, Node.children, notes]; rfl)
  exact
    { counts := .cons (yieldCount_congr rfl (.cons count (.single same.count))) others.counts
      placed := fun ⟨silent, placed, placed'⟩ =>
        ⟨silent_of_yieldCount count silent, same.placed placed, others.placed placed'⟩ }

private theorem counts_local {modifiers : Modifiers} {annotations : List Annotation} {type : JavaType}
    {name name' : String} {initial initial' : Option Expression}
    (same : SameCounts (initial.toList.map .expression) (initial'.toList.map .expression)) :
    yieldCount (.localVariable ⟨modifiers, annotations, type, name', initial'⟩) =
      yieldCount (.localVariable ⟨modifiers, annotations, type, name, initial⟩) :=
  yieldCount_congr rfl (.append rfl same)

mutual

/-- Renaming changes neither the calls of `yield` nor their places. -/
theorem sameYields_rename (scope : Scope) : (e : Expression) → SameYields e (renameExpression scope e)
  | .name _ => .of_parts rfl rfl rfl
  | .field receiver name => (sameYields_rename scope receiver).field name
  | .element array index => (sameYields_rename scope array).element (sameYields_rename scope index)
  | .call none name typeArguments arguments => .call name typeArguments (counts_renameEach scope arguments)
  | .call (some receiver) name typeArguments arguments =>
    (sameYields_rename scope receiver).callOn name typeArguments (counts_renameEach scope arguments)
  | .create type arguments none => .make type (counts_renameEach scope arguments)
  | .create type arguments (some body) =>
    .makeAnonymous type (counts_renameEach scope arguments) (count_renameType scope body)
  | .createArray element sizes unsized none => .createArray element unsized (counts_renameEach scope sizes)
  | .createArray element sizes unsized (some elements) =>
    .createArrayOf element unsized (counts_renameEach scope sizes) (counts_renameEach scope elements)
  | .arrayElements elements => .arrayElements (counts_renameEach scope elements)
  | .binary op left right => .binary op (sameYields_rename scope left) (sameYields_rename scope right)
  | .unary op operand => .unary op (sameYields_rename scope operand)
  | .assign op target value => .assign op (sameYields_rename scope target) (sameYields_rename scope value)
  | .instanceOf operand type => .instanceOf type (sameYields_rename scope operand)
  | .cast type operand => .cast type (sameYields_rename scope operand)
  | .conditional condition whenTrue whenFalse =>
    .conditional (sameYields_rename scope condition) (sameYields_rename scope whenTrue)
      (sameYields_rename scope whenFalse)
  | .this _ | .literal _ | .classLiteral _ | .note _ | .verbatim _ => .refl _

theorem counts_renameEach (scope : Scope) : (es : List Expression) →
    SameCounts (es.map .expression) ((renameExpressions scope es).map .expression)
  | [] => rfl
  | e :: rest => (sameYields_rename scope e).expressions (counts_renameEach scope rest)

theorem samePlaces_rename : (s : Statement) → (scope : Scope) → SamePlaces s (renameStatement s scope).1
  | .block body, scope => .block (samePlaces_renameBody body scope)
  | .expression e, scope => .expression (sameYields_rename scope e)
  | .declare ⟨_, _, _, _, none⟩, _ => .declare (counts_local rfl)
  | .declare ⟨_, _, _, _, some initial⟩, scope =>
    .declare (counts_local (.single (sameYields_rename scope initial).count))
  | .ifElse condition whenTrue none, scope =>
    .ifElse (sameYields_rename scope condition) (samePlaces_rename whenTrue scope)
  | .ifElse condition whenTrue (some whenFalse), scope =>
    .ifElseBoth (sameYields_rename scope condition) (samePlaces_rename whenTrue scope) (samePlaces_rename whenFalse _)
  | .whileLoop condition body, scope =>
    .whileLoop (sameYields_rename scope condition) (samePlaces_rename body scope)
  | .doWhile body condition, scope => .doWhile (samePlaces_rename body scope) (sameYields_rename _ condition)
  | .forLoop start none update body, scope =>
    .forLoop (samePlaces_renameAll start scope) rfl (counts_renameEach _ update) (samePlaces_rename body _)
  | .forLoop start (some condition) update body, scope =>
    .forLoop (samePlaces_renameAll start scope) (.single (sameYields_rename _ condition).count)
      (counts_renameEach _ update) (samePlaces_rename body _)
  | .forEach ⟨_, _, _, name, _⟩ iterable body, scope =>
    .forEach (counts_local rfl) (sameYields_rename scope iterable) (samePlaces_rename body (declareName name scope).2)
  | .switch selector cases, scope => .switch (sameYields_rename scope selector) (samePlaces_renameCases cases scope)
  | .tryCatch body catches none, scope =>
    .tryCatch (samePlaces_renameBody body scope) (samePlaces_renameCatches catches _)
  | .tryCatch body catches (some finalizer), scope =>
    .tryFinally (samePlaces_renameBody body scope) (samePlaces_renameCatches catches _)
      (samePlaces_renameBody finalizer _)
  | .synchronized lock body, scope => .synchronized (sameYields_rename scope lock) (samePlaces_renameBody body scope)
  | .returns none, _ => .refl _
  | .returns (some value), scope => .returns (.single (sameYields_rename scope value).count)
  | .throws value, scope => .throws (sameYields_rename scope value)
  | .labeled label body, scope => .labeled label (samePlaces_rename body scope)
  | .localType type, scope => .localType (count_renameType scope type)
  | .returnsDefault, _ | .breaks _, _ | .continues _, _ | .empty, _ | .verbatim _, _ => .refl _

theorem samePlaces_renameAll : (body : List Statement) → (scope : Scope) →
    SamePlacesAll body (renameStatements body scope).1
  | [], _ => .nil
  | s :: rest, scope => .cons (samePlaces_rename s scope) (samePlaces_renameAll rest _)

theorem samePlaces_renameBody : (body : List Statement) → (scope : Scope) →
    SamePlacesAll body (renameBody body scope).1
  | [], _ => .nil
  | s :: rest, scope => .cons (samePlaces_rename s scope) (samePlaces_renameAll rest _)

theorem samePlaces_renameCases : (cases : List SwitchCase) → (scope : Scope) →
    SamePlacesCases cases (renameCases cases scope).1
  | [], _ => ⟨rfl, id⟩
  | ⟨_, body⟩ :: rest, scope => .cons rfl (samePlaces_renameAll body scope) (samePlaces_renameCases rest _)

theorem samePlaces_renameCatches : (catches : List CatchClause) → (scope : Scope) →
    SamePlacesCatches catches (renameCatches catches scope).1
  | [], _ => ⟨rfl, id⟩
  | ⟨⟨_, _, _, name⟩, body⟩ :: rest, scope =>
    .cons rfl (samePlaces_renameBody body (declareName name scope).2) (samePlaces_renameCatches rest _)

theorem count_renameType (scope : Scope) : (t : TypeDecl) →
    yieldCount (.type (renameType scope t)) = yieldCount (.type t)
  | ⟨_, _, _, _, _, _, _, _, constants, fields, initializers, constructors, methods, memberTypes, _, _⟩ =>
    yieldCount_congr rfl ((((((SameCounts.append rfl (counts_renameConstants _ constants)).append
      (counts_renameFields _ fields)).append (counts_renameInitializers _ initializers)).append
      (counts_renameConstructors _ constructors)).append (counts_renameMethods _ methods)).append
      (counts_renameTypes _ memberTypes))

theorem counts_renameTypes (scope : Scope) : (types : List TypeDecl) →
    SameCounts (types.map .type) ((renameTypes scope types).map .type)
  | [] => rfl
  | t :: rest => .cons (count_renameType scope t) (counts_renameTypes scope rest)

theorem counts_renameConstants (scope : Scope) : (constants : List EnumConstant) →
    SameCounts (constants.map .constant) ((renameConstants scope constants).map .constant)
  | [] => rfl
  | ⟨_, _, arguments⟩ :: rest =>
    .cons (yieldCount_congr rfl (counts_renameEach scope arguments)) (counts_renameConstants scope rest)

theorem counts_renameFields (scope : Scope) : (fields : List Field) →
    SameCounts (fields.map .field) ((renameFields scope fields).map .field)
  | [] => rfl
  | ⟨_, _, _, _, _, none⟩ :: rest => .cons (yieldCount_congr rfl rfl) (counts_renameFields scope rest)
  | ⟨_, _, _, _, _, some initial⟩ :: rest =>
    .cons (yieldCount_congr rfl (.append rfl (.single (sameYields_rename scope initial).count)))
      (counts_renameFields scope rest)

theorem counts_renameInitializers (scope : Scope) : (initializers : List Initializer) →
    SameCounts (initializers.map .initializer) ((renameInitializers scope initializers).map .initializer)
  | [] => rfl
  | ⟨_, _, body⟩ :: rest =>
    .cons (yieldCount_congr rfl (samePlaces_renameBody body scope).counts) (counts_renameInitializers scope rest)

theorem counts_renameConstructors (scope : Scope) : (constructors : List Constructor) →
    SameCounts (constructors.map .constructor) ((renameConstructors scope constructors).map .constructor)
  | [] => rfl
  | ⟨_, _, _, _, _, _, _, body, _⟩ :: rest =>
    .cons (yieldCount_congr rfl (.append rfl (samePlaces_renameBody body _).counts))
      (counts_renameConstructors scope rest)

theorem counts_renameMethods (scope : Scope) : (methods : List Method) →
    SameCounts (methods.map .method) ((renameMethods scope methods).map .method)
  | [] => rfl
  | ⟨_, _, _, _, _, _, _, _, body, _, _⟩ :: rest =>
    .cons (yieldCount_congr rfl (.append rfl (samePlaces_renameBody body _).counts)) (counts_renameMethods scope rest)

end

section

variable {γ : Type} {m : Type → Type} [Monad m]

/-- A reviser that keeps out of types and changes neither the calls of `yield` nor their places. -/
structure KeepsYields (r : Reviser γ m) : Prop where
  closed : r.entersTypes = false
  expression : ∀ context e, SatisfiesM (SameYields e) (r.expression context e)
  statement : ∀ context s, SatisfiesM (SamePlaces s) (r.statement context s)

variable [LawfulMonad m] {r : Reviser γ m}

private theorem satisfies_some {α : Type} {steps : m α} {p : α → Prop} (satisfies : SatisfiesM p steps) :
    SatisfiesM (fun result => ∃ value, result = some value ∧ p value) (some <$> steps) :=
  satisfies.map fun fine => ⟨_, rfl, fine⟩

private theorem satisfies_none {α : Type} : SatisfiesM (· = none) (pure none : m (Option α)) := .pure rfl

namespace KeepsYields

private theorem revised (keeps : KeepsYields r) {context : γ} {e e' : Expression} (same : SameYields e e') :
    SatisfiesM (SameYields e) (r.expression context e') := (keeps.expression context e').imp same.trans

private theorem replaced (keeps : KeepsYields r) {context : γ} {s s' : Statement} (same : SamePlaces s s') :
    SatisfiesM (SamePlaces s) (r.statement context s') := (keeps.statement context s').imp same.trans

omit [LawfulMonad m] in
private theorem kept {α : Type} {p : α → Prop} {inside outside : m α} (keeps : KeepsYields r)
    (satisfies : SatisfiesM p outside) : SatisfiesM p (if r.entersTypes then inside else outside) := by
  rw [keeps.closed]
  exact satisfies

mutual

theorem onExpression (keeps : KeepsYields r) (context : γ) : (e : Expression) →
    SatisfiesM (SameYields e) (r.onExpression context e)
  | .field receiver name =>
    (keeps.onExpression context receiver).bind fun _ same => keeps.revised (same.field name)
  | .element array index =>
    (keeps.onExpression context array).bind fun _ same => (keeps.onExpression context index).bind fun _ same' =>
      keeps.revised (same.element same')
  | .call none name typeArguments arguments => by
    refine satisfies_none.bind ?_
    rintro _ rfl
    exact (keeps.onExpressions context arguments).bind fun _ same => keeps.revised (.call name typeArguments same)
  | .call (some receiver) name typeArguments arguments => by
    refine (satisfies_some (keeps.onExpression context receiver)).bind ?_
    rintro _ ⟨_, rfl, same⟩
    exact (keeps.onExpressions context arguments).bind fun _ same' =>
      keeps.revised (same.callOn name typeArguments same')
  | .create type arguments none => by
    refine (keeps.onExpressions context arguments).bind fun _ same => satisfies_none.bind ?_
    rintro _ rfl
    exact keeps.revised (.make type same)
  | .create type arguments (some body) => by
    refine (keeps.onExpressions context arguments).bind fun _ same => keeps.kept ?_
    refine SatisfiesM.bind (p := (· = some body)) (.pure rfl) ?_
    rintro _ rfl
    exact keeps.revised (.makeAnonymous type same rfl)
  | .createArray element sizes unsized none => by
    refine (keeps.onExpressions context sizes).bind fun _ same => satisfies_none.bind ?_
    rintro _ rfl
    exact keeps.revised (.createArray element unsized same)
  | .createArray element sizes unsized (some elements) => by
    refine (keeps.onExpressions context sizes).bind fun _ same => ?_
    refine (satisfies_some (keeps.onExpressions context elements)).bind ?_
    rintro _ ⟨_, rfl, same'⟩
    exact keeps.revised (.createArrayOf element unsized same same')
  | .arrayElements elements =>
    (keeps.onExpressions context elements).bind fun _ same => keeps.revised (.arrayElements same)
  | .binary op left right =>
    (keeps.onExpression context left).bind fun _ same => (keeps.onExpression context right).bind fun _ same' =>
      keeps.revised (.binary op same same')
  | .unary op operand =>
    (keeps.onExpression context operand).bind fun _ same => keeps.revised (.unary op same)
  | .assign op target value =>
    (keeps.onExpression context target).bind fun _ same => (keeps.onExpression context value).bind fun _ same' =>
      keeps.revised (.assign op same same')
  | .instanceOf operand type =>
    (keeps.onExpression context operand).bind fun _ same => keeps.revised (.instanceOf type same)
  | .cast type operand =>
    (keeps.onExpression context operand).bind fun _ same => keeps.revised (.cast type same)
  | .conditional condition whenTrue whenFalse =>
    (keeps.onExpression context condition).bind fun _ same =>
      (keeps.onExpression context whenTrue).bind fun _ same' =>
      (keeps.onExpression context whenFalse).bind fun _ same'' => keeps.revised (.conditional same same' same'')
  | .name _ | .this _ | .literal _ | .classLiteral _ | .note _ | .verbatim _ =>
    keeps.expression context _

theorem onExpressions (keeps : KeepsYields r) (context : γ) : (es : List Expression) →
    SatisfiesM (fun es' => SameCounts (es.map .expression) (es'.map .expression)) (r.onExpressions context es)
  | [] =>
    .pure rfl
  | e :: rest =>
    (keeps.onExpression context e).bind fun _ same => (keeps.onExpressions context rest).bind fun _ same' =>
      .pure (same.expressions same')

end

theorem onLocal (keeps : KeepsYields r) (context : γ) (decl : LocalVariable) :
    SatisfiesM (fun decl' => yieldCount (.localVariable decl') = yieldCount (.localVariable decl))
      (r.onLocal context decl) := by
  obtain ⟨_, _, _, _, _ | initial⟩ := decl
  · refine satisfies_none.bind ?_
    rintro _ rfl
    exact .pure rfl
  · refine (satisfies_some (keeps.onExpression context initial)).bind ?_
    rintro _ ⟨_, rfl, same⟩
    exact .pure (counts_local (.single same.count))

mutual

theorem onStatement (keeps : KeepsYields r) (context : γ) : (s : Statement) →
    SatisfiesM (SamePlaces s) (r.onStatement context s)
  | .block body =>
    (keeps.onStatements context body).bind fun _ same => keeps.replaced (.block same)
  | .expression e =>
    (keeps.onExpression context e).bind fun _ same => keeps.replaced (.expression same)
  | .declare decl =>
    (keeps.onLocal context decl).bind fun _ same => keeps.replaced (.declare same)
  | .ifElse condition whenTrue none => by
    refine (keeps.onExpression context condition).bind fun _ test => ?_
    refine (keeps.onStatement context whenTrue).bind fun _ same => satisfies_none.bind ?_
    rintro _ rfl
    exact keeps.replaced (.ifElse test same)
  | .ifElse condition whenTrue (some whenFalse) => by
    refine (keeps.onExpression context condition).bind fun _ test => ?_
    refine (keeps.onStatement context whenTrue).bind fun _ same => ?_
    refine (satisfies_some (keeps.onStatement context whenFalse)).bind ?_
    rintro _ ⟨_, rfl, same'⟩
    exact keeps.replaced (.ifElseBoth test same same')
  | .whileLoop condition body =>
    (keeps.onExpression _ condition).bind fun _ test => (keeps.onStatement _ body).bind fun _ same =>
      keeps.replaced (.whileLoop test same)
  | .doWhile body condition =>
    (keeps.onStatement _ body).bind fun _ same => (keeps.onExpression _ condition).bind fun _ test =>
      keeps.replaced (.doWhile same test)
  | .forLoop start none update body => by
    refine (keeps.onStatements _ start).bind fun _ starts => satisfies_none.bind ?_
    rintro _ rfl
    exact (keeps.onExpressions _ update).bind fun _ steps => (keeps.onStatement _ body).bind fun _ same =>
      keeps.replaced (.forLoop starts rfl steps same)
  | .forLoop start (some condition) update body => by
    refine (keeps.onStatements _ start).bind fun _ starts => ?_
    refine (satisfies_some (keeps.onExpression _ condition)).bind ?_
    rintro _ ⟨_, rfl, test⟩
    exact (keeps.onExpressions _ update).bind fun _ steps => (keeps.onStatement _ body).bind fun _ same =>
      keeps.replaced (.forLoop starts (.single test.count) steps same)
  | .forEach item iterable body =>
    (keeps.onLocal _ item).bind fun _ items => (keeps.onExpression _ iterable).bind fun _ elements =>
      (keeps.onStatement _ body).bind fun _ same => keeps.replaced (.forEach items elements same)
  | .switch selector cases =>
    (keeps.onExpression _ selector).bind fun _ selects => (keeps.onCases _ cases).bind fun _ same =>
      keeps.replaced (.switch selects same)
  | .tryCatch body catches none => by
    refine (keeps.onStatements context body).bind fun _ same => ?_
    refine (keeps.onCatches context catches).bind fun _ handlers => satisfies_none.bind ?_
    rintro _ rfl
    exact keeps.replaced (.tryCatch same handlers)
  | .tryCatch body catches (some finalizer) => by
    refine (keeps.onStatements context body).bind fun _ same => ?_
    refine (keeps.onCatches context catches).bind fun _ handlers => ?_
    refine (satisfies_some (keeps.onStatements context finalizer)).bind ?_
    rintro _ ⟨_, rfl, ends⟩
    exact keeps.replaced (.tryFinally same handlers ends)
  | .synchronized lock body =>
    (keeps.onExpression context lock).bind fun _ held => (keeps.onStatements context body).bind fun _ same =>
      keeps.replaced (.synchronized held same)
  | .returns none => by
    refine satisfies_none.bind ?_
    rintro _ rfl
    exact keeps.statement context _
  | .returns (some value) => by
    refine (satisfies_some (keeps.onExpression context value)).bind ?_
    rintro _ ⟨_, rfl, same⟩
    exact keeps.replaced (.returns (.single same.count))
  | .throws value =>
    (keeps.onExpression context value).bind fun _ same => keeps.replaced (.throws same)
  | .labeled label body =>
    (keeps.onStatement _ body).bind fun _ same => keeps.replaced (.labeled label same)
  | .localType _ => keeps.kept (keeps.statement context _)
  | .returnsDefault | .breaks _ | .continues _ | .empty | .verbatim _ =>
    keeps.statement context _

theorem onStatements (keeps : KeepsYields r) (context : γ) : (body : List Statement) →
    SatisfiesM (SamePlacesAll body) (r.onStatements context body)
  | [] =>
    .pure .nil
  | s :: rest =>
    (keeps.onStatement context s).bind fun _ same => (keeps.onStatements context rest).bind fun _ same' =>
      .pure (.cons same same')

theorem onCases (keeps : KeepsYields r) (context : γ) : (cases : List SwitchCase) →
    SatisfiesM (SamePlacesCases cases) (r.onCases context cases)
  | [] =>
    .pure ⟨rfl, id⟩
  | ⟨none, body⟩ :: rest => by
    refine satisfies_none.bind ?_
    rintro _ rfl
    exact (keeps.onStatements context body).bind fun _ same => (keeps.onCases context rest).bind fun _ same' =>
      .pure (.cons rfl same same')
  | ⟨some label, body⟩ :: rest => by
    refine (satisfies_some (keeps.onExpression context label)).bind ?_
    rintro _ ⟨_, rfl, labels⟩
    exact (keeps.onStatements context body).bind fun _ same => (keeps.onCases context rest).bind fun _ same' =>
      .pure (.cons (.single labels.count) same same')

theorem onCatches (keeps : KeepsYields r) (context : γ) : (catches : List CatchClause) →
    SatisfiesM (SamePlacesCatches catches) (r.onCatches context catches)
  | [] =>
    .pure ⟨rfl, id⟩
  | ⟨_, body⟩ :: rest =>
    (keeps.onStatements context body).bind fun _ same => (keeps.onCatches context rest).bind fun _ same' =>
      .pure (.cons rfl same same')

end

end KeepsYields

end

/-- The body of a generator as it is compiled. -/
def preparedBody (owner : TypeDecl) (method : Method) : List Statement :=
  renameApart (method.parameters.map (·.name) ++ owner.fields.map (·.name))
    (if method.isStatic then method.body else Weave.qualifySelf owner.name method.body)

/-- The machine of a generator is that of its prepared body. -/
theorem machineOf_eq (owner : TypeDecl) (optimize : Bool) (method : Method) : ∃ surroundings,
    machineOf owner optimize method =
      if optimize then (compileBody surroundings (preparedBody owner method)).optimize
      else compileBody surroundings (preparedBody owner method) := ⟨_, rfl⟩

end JavaWeave.Generator
