import JavaWeave.Proofs.Layout.Branches
import JavaWeave.Proofs.Weave.Lowering
import Mathlib

namespace JavaWeave.Layout

open Syntax Weave

/-- A place inside a body that returns the given type; without a type nothing is asked of it. -/
def Place.Serves (place : Place) (returned : Option JavaType) : Prop :=
  ∀ type ∈ returned, place.returnType = some type

/-- Two parts have the same text wherever the given type is returned. -/
def SameText {α β : Type} (print : Place → α → β) (returned : Option JavaType) (part part' : α) : Prop :=
  ∀ place : Place, place.Serves returned → print place part' = print place part

variable {returned : Option JavaType} {place : Place}

theorem Place.serves_none (place : Place) : place.Serves none := by rintro _ ⟨⟩

theorem Place.serves_returning (place : Place) (type : JavaType) : (place.returning type).Serves (some type) :=
  fun _ => id

theorem Place.Serves.deeper (serves : place.Serves returned) : place.deeper.Serves returned := serves

namespace SameText

variable {α β : Type} {print : Place → α → β}

theorem refl (part : α) : SameText print returned part part := fun _ _ => rfl

theorem trans {part part' part'' : α} (first : SameText print returned part part')
    (second : SameText print returned part' part'') : SameText print returned part part'' :=
  fun place serves => (second place serves).trans (first place serves)

end SameText

/-- Two parts that leave the texts of lists the same when they are put in front of them. -/
def SameHead {α β : Type} (print : Place → List α → β) (returned : Option JavaType) (part part' : α) : Prop :=
  ∀ rest rest', SameText print returned rest rest' → SameText print returned (part :: rest) (part' :: rest')

structure SameExpression (returned : Option JavaType) (e e' : Expression) : Prop where
  text : ∀ place : Place, place.Serves returned →
    ∀ required, expression place required e' = expression place required e
  gap : ∀ op, operatorGap op e' = operatorGap op e

structure SameExpressions (returned : Option JavaType) (es es' : List Expression) : Prop where
  texts : ∀ place : Place, place.Serves returned →
    ∀ required, expressions place required es' = expressions place required es
  empty : es'.isEmpty = es.isEmpty

/-- A type is printed with a head of its own, or as the body of an anonymous class. -/
structure SameType (returned : Option JavaType) (type type' : TypeDecl) : Prop where
  text : SameText typeDecl returned type type'
  body : SameText typeBody returned type type'

theorem SameExpressions.nil : SameExpressions returned [] [] := ⟨fun _ _ _ => rfl, rfl⟩

namespace SameExpression

variable {e e' i i' j j' : Expression} {es es' is is' : List Expression}

theorem refl (e : Expression) : SameExpression returned e e := ⟨fun _ _ _ => rfl, fun _ => rfl⟩

theorem expressions (head : SameExpression returned e e') (tail : SameExpressions returned es es') :
    SameExpressions returned (e :: es) (e' :: es') where
  texts place serves required :=
    congrArg₂ List.cons (head.text place serves required) (tail.texts place serves required)
  empty := rfl

theorem field (same : SameExpression returned e e') (name : String) :
    SameExpression returned (.field e name) (.field e' name) where
  text place serves _ := congrArg (· ++ "." ++ name) (same.text place serves primaryLevel)
  gap _ := rfl

theorem element (array : SameExpression returned e e') (index : SameExpression returned i i') :
    SameExpression returned (.element e i) (.element e' i') where
  text place serves _ := congrArg₂ (fun array index => array ++ "[" ++ index ++ "]")
    (array.text place serves primaryLevel) (index.text place serves 0)
  gap _ := rfl

theorem call (name : String) (types : List JavaType) (arguments : SameExpressions returned es es') :
    SameExpression returned (.call none name types es) (.call none name types es') where
  text place serves _ := congrArg (fun arguments => _ ++ "(" ++ commas arguments ++ ")")
    (arguments.texts place serves assignLevel)
  gap _ := rfl

theorem callOn (receiver : SameExpression returned e e') (name : String) (types : List JavaType)
    (arguments : SameExpressions returned es es') :
    SameExpression returned (.call (some e) name types es) (.call (some e') name types es') where
  text place serves _ := by
    change Layout.expression _ _ _ ++ _ ++ _ ++ _ ++ _ ++ commas (Layout.expressions _ _ _) ++ _ = _
    rw [receiver.text place serves, arguments.texts place serves]
    rfl
  gap _ := rfl

theorem create (type : JavaType) (arguments : SameExpressions returned es es') :
    SameExpression returned (.create type es none) (.create type es' none) where
  text place serves _ := congrArg (fun arguments => _ ++ commas arguments ++ ")" ++ "")
    (arguments.texts place serves assignLevel)
  gap _ := rfl

theorem createAnonymous (type : JavaType) (arguments : SameExpressions returned es es') {decl decl' : TypeDecl}
    (body : SameType returned decl decl') :
    SameExpression returned (.create type es (some decl)) (.create type es' (some decl')) where
  text place serves _ := congrArg₂ (fun arguments body => _ ++ commas arguments ++ ")" ++ (" " ++ body))
    (arguments.texts place serves assignLevel) (body.body place serves)
  gap _ := rfl

theorem createArray (element : JavaType) (unsized : Nat) (sizes : SameExpressions returned es es') :
    SameExpression returned (.createArray element es unsized none) (.createArray element es' unsized none) where
  text place serves _ := by
    change _ ++ String.join ((Layout.expressions _ _ _).map _) ++ _ ++ _ = _
    rw [sizes.texts place serves]
    rfl
  gap _ := rfl

theorem createArrayOf (element : JavaType) (unsized : Nat) (sizes : SameExpressions returned es es')
    (elements : SameExpressions returned is is') :
    SameExpression returned (.createArray element es unsized (some is))
      (.createArray element es' unsized (some is')) where
  text place serves _ := by
    change _ ++ String.join ((Layout.expressions _ _ _).map _) ++ _ ++ (_ ++ commas (Layout.expressions _ _ _) ++ _) = _
    rw [sizes.texts place serves, elements.texts place serves]
    rfl
  gap _ := rfl

theorem arrayElements (elements : SameExpressions returned es es') :
    SameExpression returned (.arrayElements es) (.arrayElements es') where
  text place serves _ := congrArg (fun elements => "\x7b" ++ commas elements ++ "\x7d")
    (elements.texts place serves assignLevel)
  gap _ := rfl

theorem binary (op : BinaryOp) (left : SameExpression returned e e') (right : SameExpression returned i i') :
    SameExpression returned (.binary op e i) (.binary op e' i') where
  text place serves required := congrArg₂
    (fun left right => parenthesize op.precedence required (left ++ " " ++ op.symbol ++ " " ++ right))
    (left.text place serves op.precedence) (right.text place serves (op.precedence + 1))
  gap _ := rfl

/-- A blank between two operators stands there as before, since the operand's own operator is the same. -/
theorem unary (op : UnaryOp) (same : SameExpression returned e e') :
    SameExpression returned (.unary op e) (.unary op e') where
  text place serves required := by
    change (if op.follows then parenthesize _ _ (Layout.expression _ _ _ ++ _)
      else parenthesize _ _ (_ ++ operatorGap op _ ++ Layout.expression _ _ _)) = _
    rw [same.text place serves, same.text place serves, same.gap op]
    rfl
  gap _ := rfl

theorem assign (op : Option BinaryOp) (target : SameExpression returned e e') (value : SameExpression returned i i') :
    SameExpression returned (.assign op e i) (.assign op e' i') where
  text place serves required := congrArg₂
    (fun target value => parenthesize assignLevel required (target ++ " " ++ _ ++ "= " ++ value))
    (target.text place serves stepLevel) (value.text place serves assignLevel)
  gap _ := rfl

theorem instanceOf (same : SameExpression returned e e') (t : JavaType) :
    SameExpression returned (.instanceOf e t) (.instanceOf e' t) where
  text place serves required := congrArg
    (fun operand => parenthesize relationalLevel required (operand ++ " instanceof " ++ type t))
    (same.text place serves relationalLevel)
  gap _ := rfl

theorem cast (t : JavaType) (same : SameExpression returned e e') :
    SameExpression returned (.cast t e) (.cast t e') where
  text place serves required := congrArg
    (fun operand => parenthesize unaryLevel required ("(" ++ type t ++ ") " ++ operand))
    (same.text place serves unaryLevel)
  gap _ := rfl

theorem conditional (condition : SameExpression returned e e') (whenTrue : SameExpression returned i i')
    (whenFalse : SameExpression returned j j') :
    SameExpression returned (.conditional e i j) (.conditional e' i' j') where
  text place serves required := by
    change parenthesize _ _ (Layout.expression _ _ _ ++ _ ++ Layout.expression _ _ _ ++ _
      ++ Layout.expression _ _ _) = _
    rw [condition.text place serves, whenTrue.text place serves, whenFalse.text place serves]
    rfl
  gap _ := rfl

end SameExpression

/-- The text of a local variable, and that only its initial value is another. -/
structure SameLocal (returned : Option JavaType) (decl decl' : LocalVariable) : Prop where
  text : SameText localVariable returned decl decl'
  heading : ∃ initial, decl' = { decl with initial }

/-- The text of a statement in both of its places, and all that decides how it is set off from what is before it. -/
structure SameStatement (returned : Option JavaType) (s s' : Statement) : Prop where
  text : SameText statement returned s s'
  opening : SameText opening returned s s'
  block : isBlock s' = isBlock s
  conditional : isConditional s' = isConditional s

structure SameStatements (returned : Option JavaType) (body body' : List Statement) : Prop where
  texts : SameText statements returned body body'
  openings : SameText loopStarts returned body body'

theorem SameStatements.nil : SameStatements returned [] [] := ⟨.refl _, .refl _⟩

namespace SameStatement

variable {e e' : Expression} {es es' : List Expression} {s s' o o' : Statement}
  {body body' final final' : List Statement}

theorem refl (s : Statement) : SameStatement returned s s := ⟨.refl _, .refl _, rfl, rfl⟩

theorem trans {s'' : Statement} (first : SameStatement returned s s') (second : SameStatement returned s' s'') :
    SameStatement returned s s'' where
  text := first.text.trans second.text
  opening := first.opening.trans second.opening
  block := second.block.trans first.block
  conditional := second.conditional.trans first.conditional

theorem statements (head : SameStatement returned s s') (tail : SameStatements returned body body') :
    SameStatements returned (s :: body) (s' :: body') where
  texts place serves := congrArg₂ List.cons (head.text place serves) (tail.texts place serves)
  openings place serves := by
    rw [loopStarts_cons, loopStarts_cons, head.opening place serves, tail.openings place serves]

theorem branch (same : SameStatement returned s s') : SameText branch returned s s' := fun place serves => by
  unfold Layout.branch
  rw [same.block, same.text place serves, same.text place.deeper serves.deeper]

theorem alternative (same : SameStatement returned s s') : SameText alternative returned s s' := fun place serves => by
  unfold Layout.alternative
  rw [same.block, same.conditional, same.text place serves, same.text place.deeper serves.deeper]

theorem blockOf (same : SameStatements returned body body') : SameStatement returned (.block body) (.block body') :=
  have text : SameText statement returned (.block body) (.block body') := fun place serves =>
    congrArg place.braces (same.texts place.deeper serves.deeper)
  ⟨text, text, rfl, rfl⟩

theorem expression (same : SameExpression returned e e') : SameStatement returned (.expression e) (.expression e') where
  text place serves := congrArg (· ++ ";") (same.text place serves 0)
  opening place serves := same.text place serves 0
  block := rfl
  conditional := rfl

theorem declare {decl decl' : LocalVariable} (same : SameLocal returned decl decl') :
    SameStatement returned (.declare decl) (.declare decl') where
  text place serves := congrArg (· ++ ";") (same.text place serves)
  opening := same.text
  block := rfl
  conditional := rfl

theorem ifThen (condition : SameExpression returned e e') (whenTrue : SameStatement returned s s') :
    SameStatement returned (.ifElse e s none) (.ifElse e' s' none) :=
  have text : SameText statement returned (.ifElse e s none) (.ifElse e' s' none) := fun place serves =>
    congrArg₂ (fun condition whenTrue => "if (" ++ condition ++ ")" ++ whenTrue ++ "")
      (condition.text place serves 0) (whenTrue.branch place serves)
  ⟨text, text, rfl, rfl⟩

theorem ifElse (condition : SameExpression returned e e') (whenTrue : SameStatement returned s s')
    (whenFalse : SameStatement returned o o') :
    SameStatement returned (.ifElse e s (some o)) (.ifElse e' s' (some o')) :=
  have text : SameText statement returned (.ifElse e s (some o)) (.ifElse e' s' (some o')) := fun place serves => by
    change "if (" ++ Layout.expression place 0 e' ++ ")" ++ Layout.branch place s'
      ++ ((if isBlock s' then " " else place.line) ++ "else" ++ Layout.alternative place o') = _
    rw [condition.text place serves, whenTrue.branch place serves, whenTrue.block, whenFalse.alternative place serves]
    rfl
  ⟨text, text, rfl, rfl⟩

theorem whileLoop (condition : SameExpression returned e e') (body : SameStatement returned s s') :
    SameStatement returned (.whileLoop e s) (.whileLoop e' s') :=
  have text : SameText statement returned (.whileLoop e s) (.whileLoop e' s') := fun place serves =>
    congrArg₂ (fun condition body => "while (" ++ condition ++ ")" ++ body)
      (condition.text place serves 0) (body.branch place serves)
  ⟨text, text, rfl, rfl⟩

theorem doWhile (body : SameStatement returned s s') (condition : SameExpression returned e e') :
    SameStatement returned (.doWhile s e) (.doWhile s' e') :=
  have text : SameText statement returned (.doWhile s e) (.doWhile s' e') := fun place serves =>
    congrArg₂ (fun body condition => "do" ++ body ++ " while (" ++ condition ++ ");")
      (body.branch place serves) (condition.text place serves 0)
  ⟨text, text, rfl, rfl⟩

theorem endlessFor (start : SameStatements returned body body') (update : SameExpressions returned es es')
    (inside : SameStatement returned s s') :
    SameStatement returned (.forLoop body none es s) (.forLoop body' none es' s') :=
  have text : SameText statement returned (.forLoop body none es s) (.forLoop body' none es' s') :=
    fun place serves => by
      change "for (" ++ commas (loopStarts place body') ++ "; " ++ "" ++ "; " ++ commas (expressions place 0 es') ++ ")"
        ++ Layout.branch place s' = _
      rw [start.openings place serves, update.texts place serves, inside.branch place serves]
      rfl
  ⟨text, text, rfl, rfl⟩

theorem forLoop (start : SameStatements returned body body') (condition : SameExpression returned e e')
    (update : SameExpressions returned es es') (inside : SameStatement returned s s') :
    SameStatement returned (.forLoop body (some e) es s) (.forLoop body' (some e') es' s') :=
  have text : SameText statement returned (.forLoop body (some e) es s) (.forLoop body' (some e') es' s') :=
    fun place serves => by
      change "for (" ++ commas (loopStarts place body') ++ "; " ++ Layout.expression place 0 e' ++ "; "
        ++ commas (expressions place 0 es') ++ ")" ++ Layout.branch place s' = _
      rw [start.openings place serves, condition.text place serves, update.texts place serves,
        inside.branch place serves]
      rfl
  ⟨text, text, rfl, rfl⟩

theorem forEach {item item' : LocalVariable} (same : SameLocal returned item item')
    (iterable : SameExpression returned e e') (inside : SameStatement returned s s') :
    SameStatement returned (.forEach item e s) (.forEach item' e' s') :=
  have text : SameText statement returned (.forEach item e s) (.forEach item' e' s') := fun place serves => by
    obtain ⟨_, rfl⟩ := same.heading
    cases item
    change _ ++ Layout.expression _ _ _ ++ _ ++ Layout.branch _ _ = _
    rw [iterable.text place serves, inside.branch place serves]
    rfl
  ⟨text, text, rfl, rfl⟩

theorem switch {cases cases' : List SwitchCase} (selector : SameExpression returned e e')
    (groups : SameText switchCases returned cases cases') :
    SameStatement returned (.switch e cases) (.switch e' cases') :=
  have text : SameText statement returned (.switch e cases) (.switch e' cases') := fun place serves => by
    change _ ++ Layout.expression _ _ _ ++ _ ++ String.join ((switchCases _ _).map _) ++ _ ++ _ = _
    rw [selector.text place serves, groups place.deeper serves.deeper]
    rfl
  ⟨text, text, rfl, rfl⟩

section

variable {catches catches' : List CatchClause}

theorem tryCatch (inside : SameStatements returned body body')
    (handlers : SameText catchClauses returned catches catches') :
    SameStatement returned (.tryCatch body catches none) (.tryCatch body' catches' none) :=
  have text : SameText statement returned (.tryCatch body catches none) (.tryCatch body' catches' none) :=
    fun place serves => congrArg₂ (fun body handlers => "try " ++ place.braces body ++ String.join handlers ++ "")
      (inside.texts place.deeper serves.deeper) (handlers place serves)
  ⟨text, text, rfl, rfl⟩

theorem tryFinally (inside : SameStatements returned body body')
    (handlers : SameText catchClauses returned catches catches') (finalizer : SameStatements returned final final') :
    SameStatement returned (.tryCatch body catches (some final)) (.tryCatch body' catches' (some final')) :=
  have text : SameText statement returned (.tryCatch body catches (some final))
      (.tryCatch body' catches' (some final')) := fun place serves => by
    change "try " ++ place.braces (Layout.statements place.deeper body') ++ String.join (catchClauses place catches')
      ++ (" finally " ++ place.braces (Layout.statements place.deeper final')) = _
    rw [inside.texts place.deeper serves.deeper, handlers place serves, finalizer.texts place.deeper serves.deeper]
    rfl
  ⟨text, text, rfl, rfl⟩

end

theorem synchronized (lock : SameExpression returned e e') (inside : SameStatements returned body body') :
    SameStatement returned (.synchronized e body) (.synchronized e' body') :=
  have text : SameText statement returned (.synchronized e body) (.synchronized e' body') := fun place serves =>
    congrArg₂ (fun lock body => "synchronized (" ++ lock ++ ") " ++ place.braces body)
      (lock.text place serves 0) (inside.texts place.deeper serves.deeper)
  ⟨text, text, rfl, rfl⟩

theorem returns (value : SameExpression returned e e') :
    SameStatement returned (.returns (some e)) (.returns (some e')) :=
  have text : SameText statement returned (.returns (some e)) (.returns (some e')) := fun place serves =>
    congrArg (fun value => "return" ++ (" " ++ value) ++ ";") (value.text place serves 0)
  ⟨text, text, rfl, rfl⟩

theorem throws (value : SameExpression returned e e') : SameStatement returned (.throws e) (.throws e') :=
  have text : SameText statement returned (.throws e) (.throws e') := fun place serves =>
    congrArg ("throw " ++ · ++ ";") (value.text place serves 0)
  ⟨text, text, rfl, rfl⟩

theorem labeled (label : String) (inside : SameStatement returned s s') :
    SameStatement returned (.labeled label s) (.labeled label s') :=
  have text : SameText statement returned (.labeled label s) (.labeled label s') := fun place serves =>
    congrArg (label ++ ": " ++ ·) (inside.text place serves)
  ⟨text, text, rfl, rfl⟩

theorem localType {type type' : TypeDecl} (same : SameText typeDecl returned type type') :
    SameStatement returned (.localType type) (.localType type') :=
  have text : SameText statement returned (.localType type) (.localType type') := same
  ⟨text, text, rfl, rfl⟩

end SameStatement

section

variable {e e' : Expression} {es es' : List Expression} {body body' : List Statement}

theorem sameLocal_initial (decl : LocalVariable) (initial : decl.initial = some e)
    (same : SameExpression returned e e') : SameLocal returned decl { decl with initial := some e' } where
  text place serves := by
    cases decl
    subst initial
    exact congrArg (fun value => _ ++ (" = " ++ value)) (same.text place serves assignLevel)
  heading := ⟨_, rfl⟩

theorem sameCase_default (same : SameStatements returned body body') :
    SameHead switchCases returned ⟨none, body⟩ ⟨none, body'⟩ := fun _ _ rest place serves => by
  change (_ ++ String.join ((statements _ _).map _)) :: switchCases _ _ = _
  rw [same.texts place.deeper serves.deeper, rest place serves]
  rfl

theorem sameCase (label : SameExpression returned e e') (same : SameStatements returned body body') :
    SameHead switchCases returned ⟨some e, body⟩ ⟨some e', body'⟩ := fun _ _ rest place serves => by
  change (_ ++ expression _ _ _ ++ _ ++ String.join ((statements _ _).map _)) :: switchCases _ _ = _
  rw [label.text place serves, same.texts place.deeper serves.deeper, rest place serves]
  rfl

theorem sameCatch (parameter : Parameter) (same : SameStatements returned body body') :
    SameHead catchClauses returned ⟨parameter, body⟩ ⟨parameter, body'⟩ := fun _ _ rest place serves =>
  congrArg₂ (fun body rest => (_ ++ place.braces body) :: rest) (same.texts place.deeper serves.deeper)
    (rest place serves)

theorem sameConstant (origin origin' : Origin) (name : String) (same : SameExpressions returned es es') :
    SameHead constants returned ⟨origin, name, es⟩ ⟨origin', name, es'⟩ := fun _ _ rest place serves => by
  change (_ ++ (if es'.isEmpty then _ else _ ++ commas (expressions _ _ _) ++ _)) :: constants _ _ = _
  rw [same.empty, same.texts place serves, rest place serves]
  rfl

theorem sameField_origin (field : Field) (origin : Origin) :
    SameHead fields returned field { field with origin } := fun _ _ rest place serves => by
  obtain ⟨_, _, _, _, _, initial⟩ := field
  cases initial <;> exact congrArg (_ :: ·) (rest place serves)

theorem sameField_initial (field : Field) (origin : Origin) (initial : field.initial = some e)
    (same : SameExpression returned e e') :
    SameHead fields returned field { field with origin, initial := some e' } := fun _ _ rest place serves => by
  cases field
  subst initial
  exact congrArg₂ (fun value rest => (_ ++ (" = " ++ value) ++ ";") :: rest) (same.text place serves assignLevel)
    (rest place serves)

theorem sameInitializer (initializer : Initializer) (origin : Origin)
    (same : SameStatements none initializer.body body') :
    SameHead initializers returned initializer { initializer with origin, body := body' } :=
  fun _ _ rest place serves => by
    cases initializer
    exact congrArg₂ (fun body rest => (_ ++ place.braces body) :: rest)
      (same.texts place.deeper place.deeper.serves_none) (rest place serves)

theorem sameConstructor (constructor : Constructor) (origin : Origin)
    (same : SameStatements (some .void) constructor.body body') :
    SameHead constructors returned constructor { constructor with origin, body := body' } :=
  fun _ _ rest place serves => by
    cases constructor
    exact congrArg₂ (fun body rest => (_ ++ place.braces body) :: rest)
      (same.texts _ (place.deeper.serves_returning .void)) (rest place serves)

theorem sameMethod (method : Method) (origin : Origin)
    (same : SameStatements (some method.returnType) method.body body') :
    SameText Layout.method returned method { method with origin, body := body' } := fun place _ => by
  obtain ⟨_, _, _, _, returnType, _, _, _, _, bodiless, _⟩ := method
  cases bodiless with
  | true => rfl
  | false =>
    exact congrArg (fun body => _ ++ (" " ++ place.braces body))
      (same.texts _ (place.deeper.serves_returning returnType))

end

theorem sameType (type : TypeDecl) (origin : Origin) {ks : List EnumConstant} {fs : List Field}
    {is : List Initializer} {cs : List Constructor} {ms : List Method} {memberTypes : List TypeDecl}
    (sameConstants : SameText constants returned type.constants ks)
    (sameFields : SameText fields returned type.fields fs)
    (sameInitializers : SameText initializers returned type.initializers is)
    (sameConstructors : SameText constructors returned type.constructors cs)
    (sameMethods : SameText methods returned type.methods ms)
    (sameTypes : SameText typeDecls returned type.memberTypes memberTypes) :
    SameType returned type { type with
      origin, constants := ks, fields := fs, initializers := is, constructors := cs, methods := ms, memberTypes } :=
  have body : SameText typeBody returned type _ := fun place serves => by
    cases type
    change place.members (_ ++ fields _ _) (initializers _ _ ++ constructors _ _ ++ methods _ _ ++ typeDecls _ _) = _
    rw [sameConstants place.deeper serves.deeper, sameFields place.deeper serves.deeper,
      sameInitializers place.deeper serves.deeper, sameConstructors place.deeper serves.deeper,
      sameMethods place.deeper serves.deeper, sameTypes place.deeper serves.deeper]
    rfl
  ⟨fun place serves => by cases type; exact congrArg (_ ++ ·) (body place serves), body⟩

theorem zero_literal (type : JavaType) : ∃ value, type.zero = .literal value := by
  unfold JavaType.zero
  repeat' split
  all_goals exact ⟨_, rfl⟩

theorem statement_zeroReturn (place : Place) (type : JavaType) :
    statement place (zeroReturn type) = defaultReturn (some type) := by
  obtain ⟨value, zero⟩ := zero_literal type
  simp only [zeroReturn, defaultReturn, zero]
  split <;> rfl

theorem sameStatement_zeroReturn (type : JavaType) :
    SameStatement (some type) .returnsDefault (zeroReturn type) := by
  have text : SameText statement (some type) .returnsDefault (zeroReturn type) := fun place serves => by
    rw [statement_zeroReturn]
    exact congrArg defaultReturn (serves type rfl).symm
  obtain ⟨value, replaced⟩ : ∃ value, zeroReturn type = .returns value := by
    unfold zeroReturn
    split <;> exact ⟨_, rfl⟩
  rw [replaced] at text ⊢
  exact ⟨text, text, rfl, rfl⟩

variable {span : Option Span} {name : String}

theorem satisfies_statement (returned : Option JavaType) (s : Statement) :
    SatisfiesM (SameStatement returned s) ((lowering span name).statement returned s) := by
  cases s with
  | returnsDefault =>
    cases returned with
    | none => exact SatisfiesM_Except_eq.mpr (by rintro _ ⟨⟩)
    | some type => exact .pure (sameStatement_zeroReturn type)
  | _ => exact .pure (.refl _)

theorem satisfies_replaced {s s' : Statement} (same : SameStatement returned s s') :
    SatisfiesM (SameStatement returned s) ((lowering span name).statement returned s') :=
  (satisfies_statement returned s').imp same.trans

mutual

theorem lowersExpression (returned : Option JavaType) : (e : Expression) →
    SatisfiesM (SameExpression returned e) ((lowering span name).onExpression returned e)
  | .field receiver name =>
    (lowersExpression returned receiver).bind fun _ same => .pure (same.field name)
  | .element array index =>
    (lowersExpression returned array).bind fun _ same => (lowersExpression returned index).bind fun _ same' =>
      .pure (same.element same')
  | .call none name typeArguments arguments => by
    refine satisfies_missing.bind ?_
    rintro _ rfl
    exact (lowersExpressions returned arguments).bind fun _ same => .pure (.call name typeArguments same)
  | .call (some receiver) name typeArguments arguments => by
    refine (satisfies_given (lowersExpression returned receiver)).bind ?_
    rintro _ ⟨_, rfl, same⟩
    exact (lowersExpressions returned arguments).bind fun _ same' => .pure (same.callOn name typeArguments same')
  | .create type arguments none => by
    refine (lowersExpressions returned arguments).bind fun _ same => satisfies_missing.bind ?_
    rintro _ rfl
    exact .pure (.create type same)
  | .create type arguments (some body) => by
    refine (lowersExpressions returned arguments).bind fun _ same => ?_
    refine (satisfies_given (lowersType returned body)).bind ?_
    rintro _ ⟨_, rfl, same'⟩
    exact .pure (.createAnonymous type same same')
  | .createArray element sizes unsized none => by
    refine (lowersExpressions returned sizes).bind fun _ same => satisfies_missing.bind ?_
    rintro _ rfl
    exact .pure (.createArray element unsized same)
  | .createArray element sizes unsized (some elements) => by
    refine (lowersExpressions returned sizes).bind fun _ same => ?_
    refine (satisfies_given (lowersExpressions returned elements)).bind ?_
    rintro _ ⟨_, rfl, same'⟩
    exact .pure (.createArrayOf element unsized same same')
  | .arrayElements elements =>
    (lowersExpressions returned elements).bind fun _ same => .pure (.arrayElements same)
  | .binary op left right =>
    (lowersExpression returned left).bind fun _ same => (lowersExpression returned right).bind fun _ same' =>
      .pure (.binary op same same')
  | .unary op operand =>
    (lowersExpression returned operand).bind fun _ same => .pure (.unary op same)
  | .assign op target value =>
    (lowersExpression returned target).bind fun _ same => (lowersExpression returned value).bind fun _ same' =>
      .pure (.assign op same same')
  | .instanceOf operand type =>
    (lowersExpression returned operand).bind fun _ same => .pure (same.instanceOf type)
  | .cast type operand =>
    (lowersExpression returned operand).bind fun _ same => .pure (.cast type same)
  | .conditional condition whenTrue whenFalse =>
    (lowersExpression returned condition).bind fun _ same =>
      (lowersExpression returned whenTrue).bind fun _ same' =>
      (lowersExpression returned whenFalse).bind fun _ same'' => .pure (.conditional same same' same'')
  | .name _ | .this _ | .literal _ | .classLiteral _ | .note _ | .verbatim _ =>
    .pure (.refl _)

theorem lowersExpressions (returned : Option JavaType) : (es : List Expression) →
    SatisfiesM (SameExpressions returned es) ((lowering span name).onExpressions returned es)
  | [] =>
    .pure .nil
  | e :: rest =>
    (lowersExpression returned e).bind fun _ same => (lowersExpressions returned rest).bind fun _ same' =>
      .pure (same.expressions same')

theorem lowersLocal (returned : Option JavaType) : (decl : LocalVariable) →
    SatisfiesM (SameLocal returned decl) ((lowering span name).onLocal returned decl)
  | ⟨_, _, _, _, none⟩ => by
    refine satisfies_missing.bind ?_
    rintro _ rfl
    exact .pure ⟨.refl _, none, rfl⟩
  | ⟨modifiers, annotations, type, name, some initial⟩ => by
    refine (satisfies_given (lowersExpression returned initial)).bind ?_
    rintro _ ⟨_, rfl, same⟩
    exact .pure (sameLocal_initial ⟨modifiers, annotations, type, name, some initial⟩ rfl same)

theorem lowersStatement (returned : Option JavaType) : (s : Statement) →
    SatisfiesM (SameStatement returned s) ((lowering span name).onStatement returned s)
  | .block body =>
    (lowersStatements returned body).bind fun _ same => satisfies_replaced (.blockOf same)
  | .expression e =>
    (lowersExpression returned e).bind fun _ same => satisfies_replaced (.expression same)
  | .declare decl =>
    (lowersLocal returned decl).bind fun _ same => satisfies_replaced (.declare same)
  | .ifElse condition whenTrue none => by
    refine (lowersExpression returned condition).bind fun _ same => ?_
    refine (lowersStatement returned whenTrue).bind fun _ same' => satisfies_missing.bind ?_
    rintro _ rfl
    exact satisfies_replaced (.ifThen same same')
  | .ifElse condition whenTrue (some whenFalse) => by
    refine (lowersExpression returned condition).bind fun _ same => ?_
    refine (lowersStatement returned whenTrue).bind fun _ same' => ?_
    refine (satisfies_given (lowersStatement returned whenFalse)).bind ?_
    rintro _ ⟨_, rfl, same''⟩
    exact satisfies_replaced (.ifElse same same' same'')
  | .whileLoop condition body =>
    (lowersExpression returned condition).bind fun _ same => (lowersStatement returned body).bind fun _ same' =>
      satisfies_replaced (.whileLoop same same')
  | .doWhile body condition =>
    (lowersStatement returned body).bind fun _ same => (lowersExpression returned condition).bind fun _ same' =>
      satisfies_replaced (.doWhile same same')
  | .forLoop start none update body => by
    refine (lowersStatements returned start).bind fun _ starts => satisfies_missing.bind ?_
    rintro _ rfl
    exact (lowersExpressions returned update).bind fun _ updates => (lowersStatement returned body).bind fun _ same =>
      satisfies_replaced (.endlessFor starts updates same)
  | .forLoop start (some condition) update body => by
    refine (lowersStatements returned start).bind fun _ starts => ?_
    refine (satisfies_given (lowersExpression returned condition)).bind ?_
    rintro _ ⟨_, rfl, tested⟩
    exact (lowersExpressions returned update).bind fun _ updates => (lowersStatement returned body).bind fun _ same =>
      satisfies_replaced (.forLoop starts tested updates same)
  | .forEach item iterable body =>
    (lowersLocal returned item).bind fun _ same => (lowersExpression returned iterable).bind fun _ same' =>
      (lowersStatement returned body).bind fun _ same'' => satisfies_replaced (.forEach same same' same'')
  | .switch selector cases =>
    (lowersExpression returned selector).bind fun _ same => (lowersCases returned cases).bind fun _ same' =>
      satisfies_replaced (.switch same same')
  | .tryCatch body catches none => by
    refine (lowersStatements returned body).bind fun _ same => ?_
    refine (lowersCatches returned catches).bind fun _ handlers => satisfies_missing.bind ?_
    rintro _ rfl
    exact satisfies_replaced (.tryCatch same handlers)
  | .tryCatch body catches (some finalizer) => by
    refine (lowersStatements returned body).bind fun _ same => ?_
    refine (lowersCatches returned catches).bind fun _ handlers => ?_
    refine (satisfies_given (lowersStatements returned finalizer)).bind ?_
    rintro _ ⟨_, rfl, final⟩
    exact satisfies_replaced (.tryFinally same handlers final)
  | .synchronized lock body =>
    (lowersExpression returned lock).bind fun _ same => (lowersStatements returned body).bind fun _ same' =>
      satisfies_replaced (.synchronized same same')
  | .returns none => by
    refine satisfies_missing.bind ?_
    rintro _ rfl
    exact satisfies_replaced (.refl _)
  | .returns (some value) => by
    refine (satisfies_given (lowersExpression returned value)).bind ?_
    rintro _ ⟨_, rfl, same⟩
    exact satisfies_replaced (.returns same)
  | .throws value =>
    (lowersExpression returned value).bind fun _ same => satisfies_replaced (.throws same)
  | .labeled label body =>
    (lowersStatement returned body).bind fun _ same => satisfies_replaced (.labeled label same)
  | .localType type =>
    (lowersType returned type).bind fun _ same => satisfies_replaced (.localType same.text)
  | .returnsDefault | .breaks _ | .continues _ | .empty | .verbatim _ =>
    satisfies_replaced (.refl _)

theorem lowersStatements (returned : Option JavaType) : (body : List Statement) →
    SatisfiesM (SameStatements returned body) ((lowering span name).onStatements returned body)
  | [] =>
    .pure .nil
  | s :: rest =>
    (lowersStatement returned s).bind fun _ same => (lowersStatements returned rest).bind fun _ same' =>
      .pure (same.statements same')

theorem lowersCases (returned : Option JavaType) : (cases : List SwitchCase) →
    SatisfiesM (SameText switchCases returned cases) ((lowering span name).onCases returned cases)
  | [] =>
    .pure (.refl _)
  | ⟨none, body⟩ :: rest => by
    refine satisfies_missing.bind ?_
    rintro _ rfl
    exact (lowersStatements returned body).bind fun _ same => (lowersCases returned rest).bind fun _ same' =>
      .pure (sameCase_default same _ _ same')
  | ⟨some label, body⟩ :: rest => by
    refine (satisfies_given (lowersExpression returned label)).bind ?_
    rintro _ ⟨_, rfl, labels⟩
    exact (lowersStatements returned body).bind fun _ same => (lowersCases returned rest).bind fun _ same' =>
      .pure (sameCase labels same _ _ same')

theorem lowersCatches (returned : Option JavaType) : (catches : List CatchClause) →
    SatisfiesM (SameText catchClauses returned catches) ((lowering span name).onCatches returned catches)
  | [] =>
    .pure (.refl _)
  | ⟨parameter, body⟩ :: rest =>
    (lowersStatements returned body).bind fun _ same => (lowersCatches returned rest).bind fun _ same' =>
      .pure (sameCatch parameter same _ _ same')

theorem lowersType (returned : Option JavaType) : (type : TypeDecl) →
    SatisfiesM (SameType returned type) ((lowering span name).onType returned type)
  | ⟨origin, modifiers, annotations, kind, name, typeParameters, superclass, interfaces, constants, fields,
      initializers, constructors, methods, memberTypes, isLocal, isAnonymous⟩ =>
    (lowersConstants returned constants).bind fun _ constants =>
      (lowersFields returned fields).bind fun _ fields =>
      (lowersInitializers returned initializers).bind fun _ initializers =>
      (lowersConstructors returned constructors).bind fun _ constructors =>
      (lowersMethods returned methods).bind fun _ methods =>
      (lowersTypes returned memberTypes).bind fun _ memberTypes =>
      .pure (sameType ⟨origin, modifiers, annotations, kind, name, typeParameters, superclass, interfaces, _, _, _,
        _, _, _, isLocal, isAnonymous⟩ _ constants fields initializers constructors methods memberTypes)

theorem lowersTypes (returned : Option JavaType) : (types : List TypeDecl) →
    SatisfiesM (SameText typeDecls returned types) ((lowering span name).onTypes returned types)
  | [] =>
    .pure (.refl _)
  | type :: rest =>
    (lowersType returned type).bind fun _ same => (lowersTypes returned rest).bind fun _ same' =>
      .pure fun place serves => congrArg₂ List.cons (same.text place serves) (same' place serves)

theorem lowersConstants (returned : Option JavaType) : (ks : List EnumConstant) →
    SatisfiesM (SameText constants returned ks) ((lowering span name).onConstants returned ks)
  | [] =>
    .pure (.refl _)
  | ⟨origin, name, arguments⟩ :: rest =>
    (lowersExpressions returned arguments).bind fun _ same => (lowersConstants returned rest).bind fun _ same' =>
      .pure (sameConstant origin _ name same _ _ same')

theorem lowersField (returned : Option JavaType) : (field : Field) →
    SatisfiesM (SameHead fields returned field) ((lowering span name).onField returned field)
  | ⟨origin, modifiers, annotations, type, name, none⟩ => by
    refine satisfies_missing.bind ?_
    rintro _ rfl
    exact .pure (sameField_origin ⟨origin, modifiers, annotations, type, name, none⟩ _)
  | ⟨origin, modifiers, annotations, type, name, some initial⟩ => by
    refine (satisfies_given (lowersExpression returned initial)).bind ?_
    rintro _ ⟨_, rfl, same⟩
    exact .pure (sameField_initial ⟨origin, modifiers, annotations, type, name, some initial⟩ _ rfl same)

theorem lowersFields (returned : Option JavaType) : (fs : List Field) →
    SatisfiesM (SameText fields returned fs) ((lowering span name).onFields returned fs)
  | [] =>
    .pure (.refl _)
  | field :: rest =>
    (lowersField returned field).bind fun _ same => (lowersFields returned rest).bind fun _ same' =>
      .pure (same _ _ same')

theorem lowersInitializer (returned : Option JavaType) : (initializer : Initializer) →
    SatisfiesM (SameHead initializers returned initializer)
      ((lowering span name).onInitializer returned initializer)
  | ⟨origin, isStatic, body⟩ =>
    (lowersStatements none body).bind fun _ same => .pure (sameInitializer ⟨origin, isStatic, body⟩ _ same)

theorem lowersInitializers (returned : Option JavaType) : (is : List Initializer) →
    SatisfiesM (SameText initializers returned is) ((lowering span name).onInitializers returned is)
  | [] =>
    .pure (.refl _)
  | initializer :: rest =>
    (lowersInitializer returned initializer).bind fun _ same => (lowersInitializers returned rest).bind fun _ same' =>
      .pure (same _ _ same')

theorem lowersConstructor (returned : Option JavaType) : (constructor : Constructor) →
    SatisfiesM (SameHead constructors returned constructor)
      ((lowering span name).onConstructor returned constructor)
  | ⟨origin, modifiers, annotations, typeParameters, name, parameters, thrown, body, implicitSuper⟩ =>
    (lowersStatements (some .void) body).bind fun _ same => .pure (sameConstructor
      ⟨origin, modifiers, annotations, typeParameters, name, parameters, thrown, body, implicitSuper⟩ _ same)

theorem lowersConstructors (returned : Option JavaType) : (cs : List Constructor) →
    SatisfiesM (SameText constructors returned cs) ((lowering span name).onConstructors returned cs)
  | [] =>
    .pure (.refl _)
  | constructor :: rest =>
    (lowersConstructor returned constructor).bind fun _ same => (lowersConstructors returned rest).bind fun _ same' =>
      .pure (same _ _ same')

theorem lowersMethod (returned : Option JavaType) : (m : Method) →
    SatisfiesM (SameText method returned m) ((lowering span name).onMethod returned m)
  | ⟨origin, modifiers, annotations, typeParameters, returnType, name, parameters, thrown, body, bodiless,
      implementing⟩ =>
    (lowersStatements (some returnType) body).bind fun _ same => .pure (sameMethod ⟨origin, modifiers,
      annotations, typeParameters, returnType, name, parameters, thrown, body, bodiless, implementing⟩ _ same)

theorem lowersMethods (returned : Option JavaType) : (ms : List Method) →
    SatisfiesM (SameText methods returned ms) ((lowering span name).onMethods returned ms)
  | [] =>
    .pure (.refl _)
  | m :: rest =>
    (lowersMethod returned m).bind fun _ same => (lowersMethods returned rest).bind fun _ same' =>
      .pure fun place serves => congrArg₂ List.cons (same place serves) (same' place serves)

end

/-- Lowering a method or a type, at any span, leaves its text as it is: a default return is printed as the return that
lowering puts in its place, by whatever method around it and however deep in the types inside of bodies. -/
theorem print_lowered (settings : Settings) (span : Option Span) :
    (∀ m m' : Method, lowerMethod span m = .ok m' → printMethod settings m' = printMethod settings m)
    ∧ (∀ type type' : TypeDecl, lowerType span type = .ok type' → printType settings type' = printType settings type)
    ∧ ∀ (place : Place) (type : JavaType), place.returnType = some type →
      statement place .returnsDefault = statement place (zeroReturn type) := by
  refine ⟨fun m m' lowered => ?_, fun type type' lowered => ?_, fun place type inside => ?_⟩
  · have same := SatisfiesM_Except_eq.mp (lowersMethod none m) m' lowered
    exact congrArg (finish settings) (same { settings } (Place.serves_none _))
  · have same := SatisfiesM_Except_eq.mp (lowersType none type) type' lowered
    exact congrArg (finish settings) (same.text { settings } (Place.serves_none _))
  · rw [statement_zeroReturn, ← inside]
    rfl

/-- A method with default returns in itself, in an anonymous class and in a class inside that. -/
def nestedReturns : Method where
  returnType := { name := "int" }
  name := "count"
  body := [
    .expression (.create { name := "Thread" } [] (some { name := "", isAnonymous := true, methods := [
      { returnType := { name := "boolean" }, name := "idle", body := [
        .localType { name := "Inner", isLocal := true, constructors := [
          { name := "Inner", body := [.returnsDefault] }] },
        .returnsDefault] }] })),
    .returnsDefault]

theorem print_lowered_nested :
    (∃ m', lowerMethod (some ⟨4, 2⟩) nestedReturns = .ok m'
      ∧ printMethod {} m' = printMethod {} nestedReturns
      ∧ printMethod {} m' = "int count() \x7b\n    new Thread() \x7b\n        boolean idle() \x7b\n"
        ++ "            class Inner \x7b\n                Inner() \x7b\n                    return;\n"
        ++ "                \x7d\n            \x7d\n            return false;\n        \x7d\n    \x7d;\n"
        ++ "    return 0;\n\x7d\n")
    ∧ (∃ type', lowerType none { name := "Counter", methods := [nestedReturns] } = .ok type'
      ∧ printType {} type' = printType {} { name := "Counter", methods := [nestedReturns] })
    ∧ statement { settings := {}, returnType := some { name := "int" } } .returnsDefault = "return 0;" := by
  refine ⟨⟨_, rfl, ?_, by decide +kernel⟩, ⟨_, rfl, ?_⟩, ?_⟩
  · exact (print_lowered {} (some ⟨4, 2⟩)).1 nestedReturns _ rfl
  · exact (print_lowered {} none).2.1 _ _ rfl
  · exact ((print_lowered {} none).2.2 _ { name := "int" } rfl).trans (by decide +kernel)

end JavaWeave.Layout
