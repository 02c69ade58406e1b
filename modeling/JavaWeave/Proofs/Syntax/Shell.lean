import JavaWeave.Proofs.Syntax.Traversals

namespace JavaWeave.Syntax.Node

/-- Where a declaration comes from. An annotation is none. -/
def origin? : Node → Option Origin
  | .type t => some t.origin
  | .field f => some f.origin
  | .method m => some m.origin
  | .constructor c => some c.origin
  | .initializer i => some i.origin
  | .constant c => some c.origin
  | _ => none

/-- A place for an expression that has been taken out. -/
abbrev gone : Expression := .literal .null

def shellOfExpression : Expression → Expression × List Nat
  | .field _ name => (.field gone name, [])
  | .element _ _ => (.element gone gone, [])
  | .call receiver name typeArguments arguments =>
    (.call none name typeArguments [], [receiver.toList.length, arguments.length])
  | .create created arguments body => (.create created [] none, [arguments.length, body.toList.length])
  | .createArray element sizes unsized elements =>
    (.createArray element [] unsized (elements.map fun _ => []), [sizes.length, (elements.getD []).length])
  | .arrayElements elements => (.arrayElements [], [elements.length])
  | .binary op _ _ => (.binary op gone gone, [])
  | .unary op _ => (.unary op gone, [])
  | .assign op _ _ => (.assign op gone gone, [])
  | .instanceOf _ tested => (.instanceOf gone tested, [])
  | .cast target _ => (.cast target gone, [])
  | .conditional _ _ _ => (.conditional gone gone gone, [])
  | e => (e, [])

def shellOfStatement : Statement → Statement × List Nat
  | .block body => (.block [], [body.length])
  | .expression _ => (.expression gone, [])
  | .declare _ => (.declare { type := .void, name := "" }, [])
  | .ifElse _ _ whenFalse => (.ifElse gone .empty none, [whenFalse.toList.length])
  | .whileLoop _ _ => (.whileLoop gone .empty, [])
  | .doWhile _ _ => (.doWhile .empty gone, [])
  | .forLoop start condition update _ =>
    (.forLoop [] none [] .empty, [start.length, condition.toList.length, update.length])
  | .forEach _ _ _ => (.forEach { type := .void, name := "" } gone .empty, [])
  | .switch _ cases => (.switch gone [], [cases.length])
  | .tryCatch _ catches finalizer => (.tryCatch [] [] none, [catches.length, finalizer.toList.length])
  | .synchronized _ _ => (.synchronized gone [], [])
  | .returns value => (.returns none, [value.toList.length])
  | .throws _ => (.throws gone, [])
  | .labeled label _ => (.labeled label .empty, [])
  | .localType _ => (.localType { name := "" }, [])
  | s => (s, [])

/-- A part without its origin and without its own parts, and how many of those there are in each of its places. -/
def shell : Node → Node × List Nat
  | .unit u => (.unit { u with types := [] }, [u.types.length])
  | .type t =>
    (.type { t with
      origin := {}, constants := [], fields := [], initializers := [], constructors := [], methods := [],
      memberTypes := [] },
     [t.constants.length, t.fields.length, t.initializers.length, t.constructors.length, t.methods.length,
      t.memberTypes.length])
  | .field f => (.field { f with origin := {}, initial := none }, [f.initial.toList.length])
  | .method m => (.method { m with origin := {}, body := [] }, [m.body.length])
  | .constructor c => (.constructor { c with origin := {}, body := [] }, [c.body.length])
  | .initializer i => (.initializer { i with origin := {}, body := [] }, [i.body.length])
  | .constant c => (.constant { c with origin := {}, arguments := [] }, [c.arguments.length])
  | .parameter p => (.parameter p, [])
  | .localVariable decl => (.localVariable { decl with initial := none }, [decl.initial.toList.length])
  | .note a => (.note a, [])
  | .block body => (.block [], [body.length])
  | .switchCase group => (.switchCase {}, [group.label.toList.length, group.body.length])
  | .catchClause clause => (.catchClause { clause with body := [] }, [])
  | .statement s => (.statement (shellOfStatement s).1, (shellOfStatement s).2)
  | .expression e => (.expression (shellOfExpression e).1, (shellOfExpression e).2)

section

variable {α : Type} {f : α → Node}

/-- Lists of parts that stand in front of other parts are told apart by their lengths. -/
private theorem split_of_length (inj : Function.Injective f) {items items' : List α} {rest rest' : List Node}
    (length : items.length = items'.length) (same : items.map f ++ rest = items'.map f ++ rest') :
    items = items' ∧ rest = rest' := by
  obtain ⟨front, behind⟩ := List.append_inj same (by simpa using length)
  exact ⟨List.map_injective_iff.mpr inj front, behind⟩

private theorem split_of_toList (inj : Function.Injective f) {item item' : Option α} {rest rest' : List Node}
    (length : item.toList.length = item'.toList.length)
    (same : item.toList.map f ++ rest = item'.toList.map f ++ rest') : item = item' ∧ rest = rest' := by
  obtain ⟨front, behind⟩ := split_of_length inj length same
  exact ⟨by cases item <;> cases item' <;> simp_all, behind⟩

/-- The parts in the last place. -/
private theorem last_iff (inj : Function.Injective f) {items items' : List α} :
    items.map f = items'.map f ↔ items = items' := (List.map_injective_iff.mpr inj).eq_iff

private theorem last_iff_toList (inj : Function.Injective f) {item item' : Option α} :
    item.toList.map f = item'.toList.map f ↔ item = item' := by
  cases item <;> cases item' <;> simp [inj.eq_iff]

end

private theorem expression_ext {e e' : Expression} (shell : shellOfExpression e = shellOfExpression e')
    (children : ofExpression e = ofExpression e') : e = e' := by
  have inj : Function.Injective Node.expression := fun _ _ => Node.expression.inj
  cases e <;> cases e' <;>
    simp only [shellOfExpression, Prod.mk.injEq, Expression.field.injEq, Expression.call.injEq, Expression.create.injEq,
      Expression.createArray.injEq, Expression.binary.injEq, Expression.unary.injEq, Expression.assign.injEq,
      Expression.instanceOf.injEq, Expression.cast.injEq, reduceCtorEq, false_and, true_and, and_true,
      List.cons.injEq] at shell
  case call.call =>
    obtain ⟨⟨rfl, rfl⟩, receiver, -⟩ := shell
    obtain ⟨rfl, rest⟩ := split_of_toList inj receiver children
    rw [(last_iff inj).mp rest]
  case create.create =>
    obtain ⟨rfl, arguments, -⟩ := shell
    obtain ⟨rfl, rest⟩ := split_of_length inj arguments children
    rw [(last_iff_toList (fun _ _ => Node.type.inj)).mp rest]
  case createArray.createArray elements _ _ _ elements' =>
    obtain ⟨⟨rfl, rfl, given⟩, sizes, -⟩ := shell
    obtain ⟨rfl, rest⟩ := split_of_length inj sizes children
    have same := (last_iff inj).mp rest
    cases elements <;> cases elements' <;> simp_all
  case arrayElements.arrayElements => rw [(last_iff inj).mp children]
  all_goals simp_all [ofExpression]

private theorem statement_ext {s s' : Statement} (shell : shellOfStatement s = shellOfStatement s')
    (children : ofStatement s = ofStatement s') : s = s' := by
  have injE : Function.Injective Node.expression := fun _ _ => Node.expression.inj
  have injS : Function.Injective Node.statement := fun _ _ => Node.statement.inj
  cases s <;> cases s' <;>
    simp only [shellOfStatement, Prod.mk.injEq, reduceCtorEq, false_and, true_and, and_true, List.cons.injEq] at shell
  case block.block => rw [(last_iff injS).mp children]
  case ifElse.ifElse =>
    obtain ⟨⟨rfl⟩, others⟩ := List.cons_eq_cons.mp children
    obtain ⟨⟨rfl⟩, rest⟩ := List.cons_eq_cons.mp others
    rw [(last_iff_toList injS).mp rest]
  case forLoop.forLoop =>
    obtain ⟨start, condition, update⟩ := shell
    simp only [ofStatement, List.append_assoc] at children
    obtain ⟨rfl, first⟩ := split_of_length injS start children
    obtain ⟨rfl, second⟩ := split_of_toList injE condition first
    obtain ⟨rfl, third⟩ := split_of_length injE update second
    rw [injS (List.singleton_inj.mp third)]
  case switch.switch =>
    obtain ⟨⟨rfl⟩, rest⟩ := List.cons_eq_cons.mp children
    rw [(last_iff (fun _ _ => Node.switchCase.inj)).mp rest]
  case tryCatch.tryCatch =>
    obtain ⟨⟨rfl⟩, rest⟩ := List.cons_eq_cons.mp children
    obtain ⟨rfl, final⟩ := split_of_length (fun _ _ => Node.catchClause.inj) shell.1 rest
    rw [(last_iff_toList (fun _ _ => Node.block.inj)).mp final]
  case returns.returns => rw [(last_iff_toList injE).mp children]
  all_goals simp_all [ofStatement]

/-- A type is given by its shell, its origin and its members. -/
private theorem type_ext {t t' : TypeDecl} (shell : (Node.type t).shell = (Node.type t').shell)
    (origin : t.origin = t'.origin) (children : (Node.type t).children = (Node.type t').children) : t = t' := by
  cases t
  cases t'
  simp only [Node.shell, Prod.mk.injEq, Node.type.injEq, TypeDecl.mk.injEq, true_and, and_true,
    List.cons.injEq] at shell
  obtain ⟨⟨rfl, rfl, rfl, rfl, rfl, rfl, rfl, rfl, rfl⟩, constants, fields, initializers, constructors, methods, -⟩ :=
    shell
  simp only [Node.children, List.append_assoc, List.append_cancel_left_eq] at children
  obtain ⟨rfl, first⟩ := split_of_length (fun _ _ => Node.constant.inj) constants children
  obtain ⟨rfl, second⟩ := split_of_length (fun _ _ => Node.field.inj) fields first
  obtain ⟨rfl, third⟩ := split_of_length (fun _ _ => Node.initializer.inj) initializers second
  obtain ⟨rfl, fourth⟩ := split_of_length (fun _ _ => Node.constructor.inj) constructors third
  obtain ⟨rfl, fifth⟩ := split_of_length (fun _ _ => Node.method.inj) methods fourth
  obtain rfl := (last_iff (fun _ _ => Node.type.inj)).mp fifth
  simpa using origin

/-- A part is given by its shell, its origin and its own parts. -/
theorem ext_shell {node node' : Node} (shell : node.shell = node'.shell) (origin : node.origin? = node'.origin?)
    (children : node.children = node'.children) : node = node' := by
  have injE : Function.Injective Node.expression := fun _ _ => Node.expression.inj
  have injS : Function.Injective Node.statement := fun _ _ => Node.statement.inj
  have injT : Function.Injective Node.type := fun _ _ => Node.type.inj
  cases node <;> cases node' <;> simp only [Node.shell, Prod.mk.injEq, reduceCtorEq, false_and] at shell
  case type.type => rw [type_ext (Prod.ext_iff.mpr shell) (Option.some.inj origin) children]
  case statement.statement =>
    rw [statement_ext (Prod.ext (Node.statement.inj shell.1) shell.2) children]
  case expression.expression =>
    rw [expression_ext (Prod.ext (Node.expression.inj shell.1) shell.2) children]
  case unit.unit u u' =>
    cases u; cases u'; simp_all [Node.children, last_iff injT]
  case field.field f f' =>
    cases f; cases f'; simp_all [Node.children, origin?, last_iff_toList injE]
  case method.method m m' =>
    cases m; cases m'; simp_all [Node.children, origin?, last_iff injS]
  case constructor.constructor c c' =>
    cases c; cases c'; simp_all [Node.children, origin?, last_iff injS]
  case initializer.initializer i i' =>
    cases i; cases i'; simp_all [Node.children, origin?, last_iff injS]
  case constant.constant c c' =>
    cases c; cases c'; simp_all [Node.children, origin?, last_iff injE]
  case localVariable.localVariable d d' =>
    cases d; cases d'; simp_all [Node.children, last_iff_toList injE]
  case block.block => rw [(last_iff injS).mp children]
  case switchCase.switchCase g g' =>
    obtain ⟨label, body⟩ := g
    obtain ⟨label', body'⟩ := g'
    obtain ⟨rfl, rest⟩ : label = label' ∧ _ := split_of_toList injE (List.cons_eq_cons.mp shell.2).1 children
    obtain rfl : body = body' := (last_iff injS).mp rest
    rfl
  case catchClause.catchClause c c' =>
    cases c; cases c'; simp_all [Node.children]
  all_goals exact shell.1

end JavaWeave.Syntax.Node
