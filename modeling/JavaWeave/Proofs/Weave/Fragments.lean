import JavaWeave.Proofs.Syntax.Shell
import JavaWeave.Proofs.Weave.Lowering
import Mathlib

/-! What lowering makes of a fragment. Every declaration in it is stamped, every default return becomes the return of a
value, and nothing else changes. A lowered fragment has nothing left to be lowered. -/

namespace JavaWeave.Weave

open Syntax

/-- A declaration that a handler makes. -/
inductive Fragment where
  | field (field : Field)
  | method (method : Method)
  | constructor (constructor : Constructor)
  | initializer (initializer : Initializer)
  | type (type : TypeDecl)

namespace Fragment

def node : Fragment → Node
  | .field f => .field f
  | .method m => .method m
  | .constructor c => .constructor c
  | .initializer i => .initializer i
  | .type t => .type t

def lower (span : Option Span) : Fragment → Except InternalProblem Fragment
  | .field f => .field <$> lowerField span f
  | .method m => .method <$> lowerMethod span m
  | .constructor c => .constructor <$> lowerConstructor span c
  | .initializer i => .initializer <$> lowerInitializer span i
  | .type t => .type <$> lowerType span t

theorem node_injective : Function.Injective node := by
  intro fragment fragment' same
  cases fragment <;> cases fragment' <;> simp_all [node]

end Fragment

/-- What can be returned inside a part, if a value of the given type can be returned around it. -/
def returning (returned : Option JavaType) : Node → Option JavaType
  | .method m => some m.returnType
  | .constructor _ => some .void
  | .initializer _ => none
  | _ => returned

/-- One part is what lowering makes of another where a value of the given type can be returned. -/
inductive Lowers (span : Option Span) : Option JavaType → Node → Node → Prop where
  | note {a : Annotation} : Lowers span returned (.note a) (.note a)
  | default : Lowers span (some type) (.statement .returnsDefault) (.statement (zeroReturn type))
  | part (code : before.kind ≠ .note) (other : before ≠ .statement .returnsDefault) (shell : after.shell = before.shell)
      (origin : after.origin? = before.origin?.map (·.stamp span))
      (length : before.children.length = after.children.length)
      (parts : ∀ {child child'}, (child, child') ∈ before.children.zip after.children →
        Lowers span (returning returned before) child child') :
      Lowers span returned before after

variable {span : Option Span} {name : String} {returned : Option JavaType} {before after : Node}

/-- Several parts are lowered one by one. -/
abbrev LowersAll (span : Option Span) (returned : Option JavaType) : List Node → List Node → Prop :=
  List.Forall₂ (Lowers span returned)

theorem Lowers.of_parts (code : before.kind ≠ .note) (other : before ≠ .statement .returnsDefault)
    (shell : after.shell = before.shell) (origin : after.origin? = before.origin?.map (·.stamp span))
    (parts : LowersAll span (returning returned before) before.children after.children) :
    Lowers span returned before after :=
  .part code other shell origin parts.length_eq (List.forall₂_iff_zip.mp parts).2

section

variable {α β : Type} {f : α → Node}

theorem LowersAll.append {l₁ l₂ l₁' l₂' : List Node} (first : LowersAll span returned l₁ l₁')
    (second : LowersAll span returned l₂ l₂') : LowersAll span returned (l₁ ++ l₂) (l₁' ++ l₂') :=
  List.rel_append first second

theorem LowersAll.notes (annotations : List Annotation) :
    LowersAll span returned (annotations.map .note) (annotations.map .note) :=
  List.forall₂_same.mpr (List.forall_mem_map.mpr fun _ _ => .note)

theorem LowersAll.parameters (parameters : List Parameter) :
    LowersAll span returned (parameters.map .parameter) (parameters.map .parameter) :=
  List.forall₂_same.mpr (List.forall_mem_map.mpr fun parameter _ =>
    .of_parts nofun nofun rfl rfl (.notes parameter.annotations))

theorem LowersAll.lengths {items items' : List α}
    (lowers : LowersAll span returned (items.map f) (items'.map f)) : items'.length = items.length := by
  simpa using lowers.length_eq.symm

theorem Lowers.block {body body' : List Statement}
    (lowers : LowersAll span returned (body.map .statement) (body'.map .statement)) :
    Lowers span returned (.block body) (.block body') :=
  .of_parts nofun nofun (by simp [Node.shell, lowers.lengths]) rfl lowers

end

/-- A lowered statement is left as it is, unless it was a default return. -/
theorem satisfies_revised {s s' : Statement} (other : s' ≠ .returnsDefault)
    (lowers : Lowers span returned (.statement s) (.statement s')) :
    SatisfiesM (fun result => Lowers span returned (.statement s) (.statement result))
      ((lowering span name).statement returned s') := by
  rw [statement_lowering span name returned other]
  exact .pure lowers

theorem satisfies_returnsDefault :
    SatisfiesM (fun result => Lowers span returned (.statement .returnsDefault) (.statement result))
      ((lowering span name).statement returned .returnsDefault) := by
  cases returned with
  | none => exact SatisfiesM_Except_eq.mpr (by rintro _ ⟨⟩)
  | some type => exact .pure .default

mutual

theorem lowers_expression (returned : Option JavaType) : (e : Expression) →
    SatisfiesM (fun e' => Lowers span returned (.expression e) (.expression e'))
      ((lowering span name).onExpression returned e)
  | .field receiver _ =>
    (lowers_expression returned receiver).bind fun _ lowers => .pure (.of_parts nofun nofun rfl rfl (.cons lowers .nil))
  | .element array index =>
    (lowers_expression returned array).bind fun _ first => (lowers_expression returned index).bind fun _ second =>
      .pure (.of_parts nofun nofun rfl rfl (.cons first (.cons second .nil)))
  | .call none _ _ arguments => by
    refine satisfies_missing.bind ?_
    rintro _ rfl
    exact (lowers_expressions returned arguments).bind fun _ rest =>
      .pure (.of_parts nofun nofun (by simp [Node.shell, Node.shellOfExpression, rest.lengths]) rfl rest)
  | .call (some receiver) _ _ arguments => by
    refine (satisfies_given (lowers_expression returned receiver)).bind ?_
    rintro _ ⟨_, rfl, first⟩
    exact (lowers_expressions returned arguments).bind fun _ rest =>
      .pure (.of_parts nofun nofun (by simp [Node.shell, Node.shellOfExpression, rest.lengths]) rfl (.cons first rest))
  | .create _ arguments none => by
    refine (lowers_expressions returned arguments).bind fun _ rest => satisfies_missing.bind ?_
    rintro _ rfl
    exact .pure (.of_parts nofun nofun (by simp [Node.shell, Node.shellOfExpression, rest.lengths]) rfl
      (rest.append .nil))
  | .create _ arguments (some body) => by
    refine (lowers_expressions returned arguments).bind fun _ rest => ?_
    refine (satisfies_given (lowers_type returned body)).bind ?_
    rintro _ ⟨_, rfl, last⟩
    exact .pure (.of_parts nofun nofun (by simp [Node.shell, Node.shellOfExpression, rest.lengths]) rfl
      (rest.append (.cons last .nil)))
  | .createArray _ sizes _ none => by
    refine (lowers_expressions returned sizes).bind fun _ first => satisfies_missing.bind ?_
    rintro _ rfl
    exact .pure (.of_parts nofun nofun (by simp [Node.shell, Node.shellOfExpression, first.lengths]) rfl
      (first.append .nil))
  | .createArray _ sizes _ (some elements) => by
    refine (lowers_expressions returned sizes).bind fun _ first => ?_
    refine (satisfies_given (lowers_expressions returned elements)).bind ?_
    rintro _ ⟨_, rfl, second⟩
    exact .pure (.of_parts nofun nofun
      (by simp [Node.shell, Node.shellOfExpression, first.lengths, second.lengths]) rfl (first.append second))
  | .arrayElements elements =>
    (lowers_expressions returned elements).bind fun _ rest =>
      .pure (.of_parts nofun nofun (by simp [Node.shell, Node.shellOfExpression, rest.lengths]) rfl rest)
  | .binary _ left right =>
    (lowers_expression returned left).bind fun _ first => (lowers_expression returned right).bind fun _ second =>
      .pure (.of_parts nofun nofun rfl rfl (.cons first (.cons second .nil)))
  | .unary _ operand | .instanceOf operand _ | .cast _ operand =>
    (lowers_expression returned operand).bind fun _ lowers => .pure (.of_parts nofun nofun rfl rfl (.cons lowers .nil))
  | .assign _ target value =>
    (lowers_expression returned target).bind fun _ first => (lowers_expression returned value).bind fun _ second =>
      .pure (.of_parts nofun nofun rfl rfl (.cons first (.cons second .nil)))
  | .conditional condition whenTrue whenFalse =>
    (lowers_expression returned condition).bind fun _ first =>
      (lowers_expression returned whenTrue).bind fun _ second =>
      (lowers_expression returned whenFalse).bind fun _ third =>
      .pure (.of_parts nofun nofun rfl rfl (.cons first (.cons second (.cons third .nil))))
  | .note _ => .pure (.of_parts nofun nofun rfl rfl (.cons .note .nil))
  | .name _ | .this _ | .literal _ | .classLiteral _ | .verbatim _ => .pure (.of_parts nofun nofun rfl rfl .nil)

theorem lowers_expressions (returned : Option JavaType) : (es : List Expression) →
    SatisfiesM (fun es' => LowersAll span returned (es.map .expression) (es'.map .expression))
      ((lowering span name).onExpressions returned es)
  | [] => .pure .nil
  | e :: rest =>
    (lowers_expression returned e).bind fun _ first => (lowers_expressions returned rest).bind fun _ rest =>
      .pure (.cons first rest)

theorem lowers_local (returned : Option JavaType) : (decl : LocalVariable) →
    SatisfiesM (fun decl' => Lowers span returned (.localVariable decl) (.localVariable decl'))
      ((lowering span name).onLocal returned decl)
  | ⟨_, annotations, _, _, none⟩ => by
    refine satisfies_missing.bind ?_
    rintro _ rfl
    exact .pure (.of_parts nofun nofun rfl rfl (.append (.notes annotations) .nil))
  | ⟨_, annotations, _, _, some initial⟩ => by
    refine (satisfies_given (lowers_expression returned initial)).bind ?_
    rintro _ ⟨_, rfl, lowers⟩
    exact .pure (.of_parts nofun nofun rfl rfl (.append (.notes annotations) (.cons lowers .nil)))

theorem lowers_statement (returned : Option JavaType) : (s : Statement) →
    SatisfiesM (fun s' => Lowers span returned (.statement s) (.statement s'))
      ((lowering span name).onStatement returned s)
  | .block body =>
    (lowers_statements returned body).bind fun _ rest => satisfies_revised nofun
      (.of_parts nofun nofun (by simp [Node.shell, Node.shellOfStatement, rest.lengths]) rfl rest)
  | .expression e =>
    (lowers_expression returned e).bind fun _ lowers => satisfies_revised nofun
      (.of_parts nofun nofun rfl rfl (.cons lowers .nil))
  | .declare decl =>
    (lowers_local returned decl).bind fun _ lowers => satisfies_revised nofun
      (.of_parts nofun nofun rfl rfl (.cons lowers .nil))
  | .ifElse condition whenTrue none => by
    refine (lowers_expression returned condition).bind fun _ first => ?_
    refine (lowers_statement returned whenTrue).bind fun _ second => satisfies_missing.bind ?_
    rintro _ rfl
    exact satisfies_revised nofun (.of_parts nofun nofun rfl rfl (.cons first (.cons second .nil)))
  | .ifElse condition whenTrue (some whenFalse) => by
    refine (lowers_expression returned condition).bind fun _ first => ?_
    refine (lowers_statement returned whenTrue).bind fun _ second => ?_
    refine (satisfies_given (lowers_statement returned whenFalse)).bind ?_
    rintro _ ⟨_, rfl, third⟩
    exact satisfies_revised nofun (.of_parts nofun nofun rfl rfl (.cons first (.cons second (.cons third .nil))))
  | .whileLoop condition body =>
    (lowers_expression returned condition).bind fun _ first => (lowers_statement returned body).bind fun _ second =>
      satisfies_revised nofun (.of_parts nofun nofun rfl rfl (.cons first (.cons second .nil)))
  | .doWhile body condition =>
    (lowers_statement returned body).bind fun _ first => (lowers_expression returned condition).bind fun _ second =>
      satisfies_revised nofun (.of_parts nofun nofun rfl rfl (.cons first (.cons second .nil)))
  | .forLoop start none update body => by
    refine (lowers_statements returned start).bind fun _ first => satisfies_missing.bind ?_
    rintro _ rfl
    exact (lowers_expressions returned update).bind fun _ second => (lowers_statement returned body).bind fun _ third =>
      satisfies_revised nofun
        (.of_parts nofun nofun (by simp [Node.shell, Node.shellOfStatement, first.lengths, second.lengths]) rfl
          (((first.append .nil).append second).append (.cons third .nil)))
  | .forLoop start (some condition) update body => by
    refine (lowers_statements returned start).bind fun _ first => ?_
    refine (satisfies_given (lowers_expression returned condition)).bind ?_
    rintro _ ⟨_, rfl, tested⟩
    exact (lowers_expressions returned update).bind fun _ second => (lowers_statement returned body).bind fun _ third =>
      satisfies_revised nofun
        (.of_parts nofun nofun (by simp [Node.shell, Node.shellOfStatement, first.lengths, second.lengths]) rfl
          (((first.append (.cons tested .nil)).append second).append (.cons third .nil)))
  | .forEach item iterable body =>
    (lowers_local returned item).bind fun _ first => (lowers_expression returned iterable).bind fun _ second =>
      (lowers_statement returned body).bind fun _ third => satisfies_revised nofun
        (.of_parts nofun nofun rfl rfl (.cons first (.cons second (.cons third .nil))))
  | .switch selector cases =>
    (lowers_expression returned selector).bind fun _ first => (lowers_cases returned cases).bind fun _ rest =>
      satisfies_revised nofun
        (.of_parts nofun nofun (by simp [Node.shell, Node.shellOfStatement, rest.lengths]) rfl (.cons first rest))
  | .tryCatch body catches none => by
    refine (lowers_statements returned body).bind fun _ first => ?_
    refine (lowers_catches returned catches).bind fun _ second => satisfies_missing.bind ?_
    rintro _ rfl
    exact satisfies_revised nofun
      (.of_parts nofun nofun (by simp [Node.shell, Node.shellOfStatement, second.lengths]) rfl
        (.cons (.block first) (second.append .nil)))
  | .tryCatch body catches (some finalizer) => by
    refine (lowers_statements returned body).bind fun _ first => ?_
    refine (lowers_catches returned catches).bind fun _ second => ?_
    refine (satisfies_given (lowers_statements returned finalizer)).bind ?_
    rintro _ ⟨_, rfl, third⟩
    exact satisfies_revised nofun
      (.of_parts nofun nofun (by simp [Node.shell, Node.shellOfStatement, second.lengths]) rfl
        (.cons (.block first) (second.append (.cons (.block third) .nil))))
  | .synchronized lock body =>
    (lowers_expression returned lock).bind fun _ first => (lowers_statements returned body).bind fun _ second =>
      satisfies_revised nofun (.of_parts nofun nofun rfl rfl (.cons first (.cons (.block second) .nil)))
  | .returns none => by
    refine satisfies_missing.bind ?_
    rintro _ rfl
    exact satisfies_revised nofun (.of_parts nofun nofun rfl rfl .nil)
  | .returns (some value) => by
    refine (satisfies_given (lowers_expression returned value)).bind ?_
    rintro _ ⟨_, rfl, lowers⟩
    exact satisfies_revised nofun (.of_parts nofun nofun rfl rfl (.cons lowers .nil))
  | .throws value =>
    (lowers_expression returned value).bind fun _ lowers => satisfies_revised nofun
      (.of_parts nofun nofun rfl rfl (.cons lowers .nil))
  | .labeled _ body =>
    (lowers_statement returned body).bind fun _ lowers => satisfies_revised nofun
      (.of_parts nofun nofun rfl rfl (.cons lowers .nil))
  | .localType type =>
    (lowers_type returned type).bind fun _ lowers => satisfies_revised nofun
      (.of_parts nofun nofun rfl rfl (.cons lowers .nil))
  | .returnsDefault => satisfies_returnsDefault
  | .breaks _ | .continues _ | .empty | .verbatim _ => satisfies_revised nofun (.of_parts nofun nofun rfl rfl .nil)

theorem lowers_statements (returned : Option JavaType) : (body : List Statement) →
    SatisfiesM (fun body' => LowersAll span returned (body.map .statement) (body'.map .statement))
      ((lowering span name).onStatements returned body)
  | [] => .pure .nil
  | s :: rest =>
    (lowers_statement returned s).bind fun _ first => (lowers_statements returned rest).bind fun _ rest =>
      .pure (.cons first rest)

theorem lowers_cases (returned : Option JavaType) : (cases : List SwitchCase) →
    SatisfiesM (fun cases' => LowersAll span returned (cases.map .switchCase) (cases'.map .switchCase))
      ((lowering span name).onCases returned cases)
  | [] => .pure .nil
  | ⟨none, body⟩ :: rest => by
    refine satisfies_missing.bind ?_
    rintro _ rfl
    exact (lowers_statements returned body).bind fun _ body => (lowers_cases returned rest).bind fun _ rest =>
      .pure (.cons (.of_parts nofun nofun (by simp [Node.shell, body.lengths]) rfl body) rest)
  | ⟨some label, body⟩ :: rest => by
    refine (satisfies_given (lowers_expression returned label)).bind ?_
    rintro _ ⟨_, rfl, label⟩
    exact (lowers_statements returned body).bind fun _ body => (lowers_cases returned rest).bind fun _ rest =>
      .pure (.cons (.of_parts nofun nofun (by simp [Node.shell, body.lengths]) rfl (.cons label body)) rest)

theorem lowers_catches (returned : Option JavaType) : (catches : List CatchClause) →
    SatisfiesM (fun catches' => LowersAll span returned (catches.map .catchClause) (catches'.map .catchClause))
      ((lowering span name).onCatches returned catches)
  | [] => .pure .nil
  | ⟨parameter, body⟩ :: rest =>
    (lowers_statements returned body).bind fun _ body => (lowers_catches returned rest).bind fun _ rest =>
      .pure (.cons
        (.of_parts nofun nofun rfl rfl ((LowersAll.parameters [parameter]).append (.cons (.block body) .nil))) rest)

theorem lowers_type (returned : Option JavaType) : (type : TypeDecl) →
    SatisfiesM (fun type' => Lowers span returned (.type type) (.type type'))
      ((lowering span name).onType returned type)
  | ⟨_, _, annotations, _, _, _, _, _, constants, fields, initializers, constructors, methods, memberTypes, _, _⟩ =>
    (lowers_constants returned constants).bind fun _ constants =>
      (lowers_fields returned fields).bind fun _ fields =>
      (lowers_initializers returned initializers).bind fun _ initializers =>
      (lowers_constructors returned constructors).bind fun _ constructors =>
      (lowers_methods returned methods).bind fun _ methods =>
      (lowers_types returned memberTypes).bind fun _ memberTypes =>
      .pure (.of_parts nofun nofun
        (by simp [Node.shell, constants.lengths, fields.lengths, initializers.lengths, constructors.lengths,
          methods.lengths, memberTypes.lengths])
        rfl
        ((((((LowersAll.notes annotations).append constants).append fields).append initializers).append
          constructors).append methods |>.append memberTypes))

theorem lowers_types (returned : Option JavaType) : (types : List TypeDecl) →
    SatisfiesM (fun types' => LowersAll span returned (types.map .type) (types'.map .type))
      ((lowering span name).onTypes returned types)
  | [] => .pure .nil
  | type :: rest =>
    (lowers_type returned type).bind fun _ first => (lowers_types returned rest).bind fun _ rest =>
      .pure (.cons first rest)

theorem lowers_constants (returned : Option JavaType) : (constants : List EnumConstant) →
    SatisfiesM (fun constants' => LowersAll span returned (constants.map .constant) (constants'.map .constant))
      ((lowering span name).onConstants returned constants)
  | [] => .pure .nil
  | ⟨_, _, arguments⟩ :: rest =>
    (lowers_expressions returned arguments).bind fun _ arguments => (lowers_constants returned rest).bind fun _ rest =>
      .pure (.cons (.of_parts nofun nofun (by simp [Node.shell, arguments.lengths]) rfl arguments) rest)

theorem lowers_field (returned : Option JavaType) : (field : Field) →
    SatisfiesM (fun field' => Lowers span returned (.field field) (.field field'))
      ((lowering span name).onField returned field)
  | ⟨_, _, annotations, _, _, none⟩ => by
    refine satisfies_missing.bind ?_
    rintro _ rfl
    exact .pure (.of_parts nofun nofun rfl rfl (.append (.notes annotations) .nil))
  | ⟨_, _, annotations, _, _, some initial⟩ => by
    refine (satisfies_given (lowers_expression returned initial)).bind ?_
    rintro _ ⟨_, rfl, lowers⟩
    exact .pure (.of_parts nofun nofun rfl rfl (.append (.notes annotations) (.cons lowers .nil)))

theorem lowers_fields (returned : Option JavaType) : (fields : List Field) →
    SatisfiesM (fun fields' => LowersAll span returned (fields.map .field) (fields'.map .field))
      ((lowering span name).onFields returned fields)
  | [] => .pure .nil
  | field :: rest =>
    (lowers_field returned field).bind fun _ first => (lowers_fields returned rest).bind fun _ rest =>
      .pure (.cons first rest)

theorem lowers_initializer (returned : Option JavaType) : (initializer : Initializer) →
    SatisfiesM (fun initializer' => Lowers span returned (.initializer initializer) (.initializer initializer'))
      ((lowering span name).onInitializer returned initializer)
  | ⟨_, _, body⟩ =>
    (lowers_statements none body).bind fun _ body =>
      .pure (.of_parts nofun nofun (by simp [Node.shell, body.lengths]) rfl body)

theorem lowers_initializers (returned : Option JavaType) : (initializers : List Initializer) →
    SatisfiesM (fun initializers' =>
        LowersAll span returned (initializers.map .initializer) (initializers'.map .initializer))
      ((lowering span name).onInitializers returned initializers)
  | [] => .pure .nil
  | initializer :: rest =>
    (lowers_initializer returned initializer).bind fun _ first =>
      (lowers_initializers returned rest).bind fun _ rest => .pure (.cons first rest)

theorem lowers_constructor (returned : Option JavaType) : (constructor : Constructor) →
    SatisfiesM (fun constructor' => Lowers span returned (.constructor constructor) (.constructor constructor'))
      ((lowering span name).onConstructor returned constructor)
  | ⟨_, _, annotations, _, _, parameters, _, body, _⟩ =>
    (lowers_statements (some .void) body).bind fun _ body =>
      .pure (.of_parts nofun nofun (by simp [Node.shell, body.lengths]) rfl
        (((LowersAll.notes annotations).append (.parameters parameters)).append body))

theorem lowers_constructors (returned : Option JavaType) : (constructors : List Constructor) →
    SatisfiesM (fun constructors' =>
        LowersAll span returned (constructors.map .constructor) (constructors'.map .constructor))
      ((lowering span name).onConstructors returned constructors)
  | [] => .pure .nil
  | constructor :: rest =>
    (lowers_constructor returned constructor).bind fun _ first =>
      (lowers_constructors returned rest).bind fun _ rest => .pure (.cons first rest)

theorem lowers_method (returned : Option JavaType) : (method : Method) →
    SatisfiesM (fun method' => Lowers span returned (.method method) (.method method'))
      ((lowering span name).onMethod returned method)
  | ⟨_, _, annotations, _, returnType, _, parameters, _, body, _, _⟩ =>
    (lowers_statements (some returnType) body).bind fun _ body =>
      .pure (.of_parts nofun nofun (by simp [Node.shell, body.lengths]) rfl
        (((LowersAll.notes annotations).append (.parameters parameters)).append body))

theorem lowers_methods (returned : Option JavaType) : (methods : List Method) →
    SatisfiesM (fun methods' => LowersAll span returned (methods.map .method) (methods'.map .method))
      ((lowering span name).onMethods returned methods)
  | [] => .pure .nil
  | method :: rest =>
    (lowers_method returned method).bind fun _ first => (lowers_methods returned rest).bind fun _ rest =>
      .pure (.cons first rest)

end

section

/-- The parts of a part, itself included, that do not lie inside an annotation. -/
def plainParts (node : Node) : List Node := node.met (fun part => part.kind != .note) []

/-- Where the declarations outside annotations come from. -/
def origins (node : Node) : List Origin := (plainParts node).filterMap Node.origin?

theorem plainParts_note (a : Annotation) : plainParts (.note a) = [.note a] := Node.met_root_eq _

theorem plainParts_of_code (node : Node) (code : node.kind ≠ .note) :
    plainParts node = node :: node.children.flatMap plainParts := by
  rw [plainParts, Node.met_root_eq, if_pos (bne_iff_ne.mpr code)]
  rfl

theorem origins_of_code (node : Node) (code : node.kind ≠ .note) :
    origins node = node.origin?.toList ++ node.children.flatMap origins := by
  rw [origins, plainParts_of_code node code, List.filterMap_cons, List.filterMap_flatMap]
  cases node.origin? <;> rfl

theorem plainParts_zeroReturn (type : JavaType) :
    ∀ part ∈ plainParts (.statement (zeroReturn type)), part ≠ .statement .returnsDefault ∧ part.origin? = none := by
  have literal : ∃ value, type.zero = .literal value := by
    unfold JavaType.zero
    split
    · split <;> exact ⟨_, rfl⟩
    · exact ⟨_, rfl⟩
  obtain ⟨value, literal⟩ := literal
  have alone : plainParts (.expression (.literal value)) = [.expression (.literal value)] :=
    plainParts_of_code _ nofun
  rw [plainParts_of_code (.statement _) nofun, zeroReturn, literal]
  split <;> simp [Node.children, Node.ofStatement, Node.origin?, alone]

theorem kind_of_shell (shell : after.shell = before.shell) : after.kind = before.kind := by
  have kind_shell (node : Node) : node.shell.1.kind = node.kind := by cases node <;> rfl
  rw [← kind_shell, shell, kind_shell]

theorem ne_returnsDefault_of_shell (other : before ≠ .statement .returnsDefault) (shell : after.shell = before.shell) :
    after ≠ .statement .returnsDefault := by
  rintro rfl
  cases before with
  | statement s => cases s <;> simp_all [Node.shell, Node.shellOfStatement]
  | _ => simp [Node.shell] at shell

/-- What holds of every part and what lowering makes of it is shown from what holds of their own parts. -/
theorem Lowers.induct {motive : Option JavaType → Node → Node → Prop}
    (note : ∀ returned a, motive returned (.note a) (.note a))
    (default : ∀ type, motive (some type) (.statement .returnsDefault) (.statement (zeroReturn type)))
    (part : ∀ returned before after, before.kind ≠ .note → after.kind ≠ .note →
      before ≠ .statement .returnsDefault → after.shell = before.shell →
      after.origin? = before.origin?.map (·.stamp span) →
      List.Forall₂ (motive (returning returned before)) before.children after.children → motive returned before after)
    (lowers : Lowers span returned before after) : motive returned before after := by
  induction lowers with
  | note => exact note _ _
  | default => exact default _
  | part code other shell origin length _ ih =>
    exact part _ _ _ code (kind_of_shell shell ▸ code) other shell origin (List.forall₂_iff_zip.mpr ⟨length, ih⟩)

private theorem each_of_forall₂ {p : Node → Prop} {l l' : List Node} (all : List.Forall₂ (fun _ node => p node) l l') :
    ∀ node ∈ l', p node := by
  induction all with
  | nil => simp
  | cons first _ ih => exact List.forall_mem_cons.mpr ⟨first, ih⟩

private theorem map_eq_of_forall₂ {α : Type} {f g : Node → α} {l l' : List Node}
    (all : List.Forall₂ (fun node node' => g node' = f node) l l') : l'.map g = l.map f := by
  induction all with
  | nil => rfl
  | cons first _ ih => rw [List.map_cons, List.map_cons, first, ih]

/-- No default return is left outside annotations. -/
theorem Lowers.settled (lowers : Lowers span returned before after) :
    .statement .returnsDefault ∉ plainParts after := by
  refine lowers.induct (motive := fun _ _ after => .statement .returnsDefault ∉ plainParts after) ?_ ?_ ?_
  · intro _ a
    simp [plainParts_note]
  · intro type left
    exact (plainParts_zeroReturn type _ left).1 rfl
  · intro returned before after _ code other shell _ parts left
    rw [plainParts_of_code after code, List.mem_cons, List.mem_flatMap] at left
    obtain rfl | ⟨child, inside, left⟩ := left
    · exact ne_returnsDefault_of_shell other shell rfl
    · exact each_of_forall₂ parts child inside left

/-- Every declaration outside annotations is stamped, and no other is there. -/
theorem Lowers.origins_eq (lowers : Lowers span returned before after) :
    origins after = (origins before).map (·.stamp span) := by
  refine lowers.induct (motive := fun _ before after => origins after = (origins before).map (·.stamp span)) ?_ ?_ ?_
  · intro _ a
    rw [origins, plainParts_note]
    rfl
  · intro type
    have none_there : origins (.statement (zeroReturn type)) = [] :=
      List.filterMap_eq_nil_iff.mpr fun part there => (plainParts_zeroReturn type part there).2
    rw [none_there, origins_of_code (.statement _) nofun]
    rfl
  · intro returned before after code code' _ _ origin parts
    rw [origins_of_code before code, origins_of_code after code', origin, List.map_append, List.map_flatMap]
    congr 1
    · cases before.origin? <;> rfl
    · rw [List.flatMap, List.flatMap, map_eq_of_forall₂ parts]

/-- Nothing is left to be lowered: no default return, and no declaration without its stamp. -/
structure Lowered (span : Option Span) (node : Node) : Prop where
  returns : .statement .returnsDefault ∉ plainParts node
  stamped : ∀ origin ∈ origins node, origin.stamp span = origin

theorem Lowered.child {node child : Node} (settled : Lowered span node) (code : node.kind ≠ .note)
    (inside : child ∈ node.children) : Lowered span child where
  returns left := settled.returns <| by
    rw [plainParts_of_code node code]
    exact List.mem_cons_of_mem _ (List.mem_flatMap.mpr ⟨child, inside, left⟩)
  stamped origin there := settled.stamped origin <| by
    rw [origins_of_code node code]
    exact List.mem_append_right _ (List.mem_flatMap.mpr ⟨child, inside, there⟩)

private theorem eq_of_forall₂ {p : Node → Prop} {l l' : List Node}
    (all : List.Forall₂ (fun node node' => p node → node' = node) l l') (each : ∀ node ∈ l, p node) : l' = l := by
  induction all with
  | nil => rfl
  | cons first _ ih =>
    obtain ⟨here, below⟩ := List.forall_mem_cons.mp each
    rw [first here, ih below]

/-- Lowering leaves a settled part as it is. -/
theorem Lowers.eq_of_lowered (lowers : Lowers span returned before after) : Lowered span before → after = before := by
  refine lowers.induct (motive := fun _ before after => Lowered span before → after = before) ?_ ?_ ?_
  · intro _ a _
    rfl
  · intro type settled
    refine absurd ?_ settled.returns
    rw [plainParts_of_code (.statement _) nofun]
    exact List.mem_cons_self
  · intro returned before after code _ _ shell origin parts settled
    refine Node.ext_shell shell ?_ (eq_of_forall₂ parts fun child inside => settled.child code inside)
    rw [origin]
    cases own : before.origin? with
    | none => rfl
    | some o =>
      have listed : o ∈ origins before := by
        rw [origins_of_code before code, own]
        exact List.mem_cons_self
      exact congrArg some (settled.stamped o listed)

/-- A default return that nothing can be returned for stands outside annotations. -/
theorem mem_plainParts_of_stray {inside : Bool} {node : Node} (stray : Stray.inNode inside node = true) :
    .statement .returnsDefault ∈ plainParts node := by
  by_cases note : node.kind = .note
  · cases node <;> simp_all [Node.kind, Stray.inNode]
  by_cases own : node = .statement .returnsDefault
  · rw [plainParts_of_code node note, own]
    exact List.mem_cons_self
  rw [Stray.inNode_eq inside note own, List.any_eq_true] at stray
  obtain ⟨child, below, stray⟩ := stray
  rw [plainParts_of_code node note]
  exact List.mem_cons_of_mem _ (List.mem_flatMap.mpr ⟨child, below, mem_plainParts_of_stray stray⟩)
termination_by node.size
decreasing_by exact Node.size_lt_of_mem_children below

namespace Fragment

variable {fragment result : Fragment}

theorem lowers_lower (fragment : Fragment) :
    SatisfiesM (fun result => Lowers span none fragment.node result.node) (fragment.lower span) := by
  cases fragment with
  | field f => exact (lowers_field none f).map id
  | method m => exact (lowers_method none m).map id
  | constructor c => exact (lowers_constructor none c).map id
  | initializer i => exact (lowers_initializer none i).map id
  | type t => exact (lowers_type none t).map id

theorem lowers_of_lower (lowered : fragment.lower span = .ok result) : Lowers span none fragment.node result.node :=
  SatisfiesM_Except_eq.mp (lowers_lower fragment) result lowered

/-- A fragment can be lowered exactly if it has no default return that nothing can be returned for. -/
theorem failsIf_lower (span : Option Span) (fragment : Fragment) :
    FailsIf (Stray.inNode false fragment.node) (fragment.lower span) := by
  cases fragment with
  | field f => exact (failsIf_field span _ none f).map
  | method m => exact (failsIf_method span _ none m).map
  | constructor c => exact (failsIf_constructor span _ none c).map
  | initializer i => exact (failsIf_initializer span _ none i).map
  | type t => exact (failsIf_type span _ none t).map

end Fragment

theorem stamp_isSynthesized (origin : Origin) : (origin.stamp span).isSynthesized := by
  have marked (marks mark : UInt8) : (marks ||| mark) &&& mark = mark :=
    UInt8.toBitVec_inj.mp <| BitVec.eq_of_getElem_eq fun i inside => by simp [Bool.and_or_distrib_right]
  exact beq_iff_eq.mpr (marked origin.marks Origin.synthesized)

/-- A stamp that gives a place is given once. -/
theorem stamp_stamp (given : span.isSome) (origin : Origin) (again : Option Span) :
    (origin.stamp span).stamp again = origin.stamp span := by
  obtain ⟨place, rfl⟩ := Option.isSome_iff_exists.mp given
  have marked : origin.marks ||| Origin.synthesized ||| Origin.synthesized = origin.marks ||| Origin.synthesized := by
    rw [UInt8.or_assoc, UInt8.or_self]
  obtain ⟨own, marks⟩ := origin
  cases own <;> exact congrArg₂ Origin.mk rfl marked

theorem Lowers.lowered_again (lowers : Lowers span returned before after) (given : span.isSome)
    (again : Option Span) : Lowered again after where
  returns := lowers.settled
  stamped origin there := by
    rw [lowers.origins_eq] at there
    obtain ⟨first, -, rfl⟩ := List.mem_map.mp there
    exact stamp_stamp given first again

/-- What has been lowered is lowered to the last part. Its code is that of the fragment, with values returned where it
says no more than `return default`; every declaration in it is marked as generated, at its own place or else at the
given one. Lowered again it stays as it is, if a place was given. -/
theorem lower_complete {fragment result : Fragment} (lowered : fragment.lower span = .ok result) :
    Lowers span none fragment.node result.node ∧
    .statement .returnsDefault ∉ plainParts result.node ∧
    (∀ part ∈ plainParts result.node, ∀ origin ∈ part.origin?, origin.isSynthesized) ∧
    (origins result.node).map (·.span) = (origins fragment.node).map (fun origin => origin.span <|> span) ∧
    ∀ again, ∃ relowered, result.lower again = .ok relowered ∧ (span.isSome → relowered = result) := by
  have lowers := Fragment.lowers_of_lower lowered
  refine ⟨lowers, lowers.settled, ?_, ?_, ?_⟩
  · intro part there origin own
    have listed : origin ∈ origins result.node := List.mem_filterMap.mpr ⟨part, there, own⟩
    rw [lowers.origins_eq] at listed
    obtain ⟨first, -, rfl⟩ := List.mem_map.mp listed
    exact stamp_isSynthesized first
  · rw [lowers.origins_eq, List.map_map]
    rfl
  · intro again
    have sound : Stray.inNode false result.node = false :=
      Bool.eq_false_iff.mpr fun stray => lowers.settled (mem_plainParts_of_stray stray)
    obtain ⟨relowered, succeeded⟩ := (Fragment.failsIf_lower again result).mpr sound
    refine ⟨relowered, succeeded, fun given => Fragment.node_injective ?_⟩
    exact (Fragment.lowers_of_lower succeeded).eq_of_lowered (lowers.lowered_again given again)

/-- A place for the fragment below. -/
def hostPlace : Span := ⟨7, 3⟩

/-- An enum with default returns in an anonymous class among a constant's arguments, in one behind a field and in a
local class of a method. Its declarations come from the given places and its bodies end in the given returns. -/
def hostFragment (own made : Origin) (nothing zero : Statement) : Fragment :=
  let runner := { origin := made, name := "", isAnonymous := true, methods := [
    { origin := made, returnType := { name := "int" }, name := "run", body := [zero] }] }
  .type { origin := own, kind := .enum, name := "Host"
          constants := [{ origin := made, name := "ONE"
                          arguments := [.create { name := "Task" } [] (some runner)] }]
          fields := [{ origin := own, type := { name := "Task" }, name := "task"
                       initial := some (.create { name := "Task" } [] (some runner)) }]
          methods := [{ origin := made, returnType := { name := "int" }, name := "count", body := [
            .localType { origin := made, name := "Inner", isLocal := true, constructors := [
              { origin := made, name := "Inner", body := [nothing] }] },
            zero] }] }

/-- The same fragment, lowered at its place. -/
def hostLowered : Fragment :=
  hostFragment { span := some ⟨1, 1⟩, marks := 1 } { span := some hostPlace, marks := 1 } (.returns none)
    (.returns (some (.int 0)))

theorem lower_complete_host :
    (hostFragment { span := some ⟨1, 1⟩ } {} .returnsDefault .returnsDefault).lower (some hostPlace) = .ok hostLowered ∧
    .statement .returnsDefault ∉ plainParts hostLowered.node ∧
    (∀ part ∈ plainParts hostLowered.node, ∀ origin ∈ part.origin?, origin.isSynthesized) ∧
    hostLowered.lower none = .ok hostLowered := by
  have lowered :
      (hostFragment { span := some ⟨1, 1⟩ } {} .returnsDefault .returnsDefault).lower (some hostPlace) =
        .ok hostLowered := rfl
  obtain ⟨-, settled, marked, -, again⟩ := lower_complete lowered
  obtain ⟨relowered, succeeded, same⟩ := again none
  exact ⟨lowered, settled, marked, same rfl ▸ succeeded⟩

end

end JavaWeave.Weave
