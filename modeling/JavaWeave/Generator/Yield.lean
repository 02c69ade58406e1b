import JavaWeave.Syntax.Tree

namespace JavaWeave.Syntax

/-- The name of the call that yields an element. -/
def yieldName : String := "yield"

mutual

/-- Whether an expression yields, annotation values included. -/
def Expression.yields : Expression → Bool
  | .field receiver _ => receiver.yields
  | .element array index => array.yields || index.yields
  | .call receiver name _ arguments =>
    (receiver.isNone && name == yieldName)
      || (match receiver with | some e => e.yields | none => false) || anyYields arguments
  | .create _ arguments _ => anyYields arguments
  | .createArray _ sizes _ elements =>
    anyYields sizes || (match elements with | some es => anyYields es | none => false)
  | .arrayElements elements => anyYields elements
  | .binary _ left right => left.yields || right.yields
  | .unary _ operand => operand.yields
  | .assign _ target value => target.yields || value.yields
  | .instanceOf operand _ => operand.yields
  | .cast _ operand => operand.yields
  | .conditional condition whenTrue whenFalse =>
    condition.yields || whenTrue.yields || whenFalse.yields
  | .note note => note.yields
  | .name _ | .this _ | .literal _ | .classLiteral _ | .verbatim _ => false

def anyYields : List Expression → Bool
  | [] => false
  | e :: rest => e.yields || anyYields rest

def Annotation.yields : Annotation → Bool
  | ⟨_, _, members⟩ => membersYield members

def membersYield : List AnnotationMember → Bool
  | [] => false
  | ⟨_, value⟩ :: rest => value.yields || membersYield rest

def annotationsYield : List Annotation → Bool
  | [] => false
  | a :: rest => a.yields || annotationsYield rest

end

mutual

/-- Whether a statement yields. -/
def Statement.yields : Statement → Bool
  | .block body => bodyYields body
  | .expression e => e.yields
  | .declare ⟨_, annotations, _, _, initial⟩ =>
    annotationsYield annotations || (match initial with | some e => e.yields | none => false)
  | .ifElse condition whenTrue whenFalse =>
    condition.yields || whenTrue.yields || (match whenFalse with | some s => s.yields | none => false)
  | .whileLoop condition body => condition.yields || body.yields
  | .doWhile body condition => body.yields || condition.yields
  | .forLoop start condition update body =>
    bodyYields start || (match condition with | some e => e.yields | none => false)
      || anyYields update || body.yields
  | .forEach ⟨_, annotations, _, _, initial⟩ iterable body =>
    annotationsYield annotations || (match initial with | some e => e.yields | none => false)
      || iterable.yields || body.yields
  | .switch selector cases => selector.yields || casesYield cases
  | .tryCatch body catches finalizer =>
    bodyYields body || catchesYield catches
      || (match finalizer with | some ss => bodyYields ss | none => false)
  | .synchronized lock body => lock.yields || bodyYields body
  | .returns value => match value with | some e => e.yields | none => false
  | .throws value => value.yields
  | .labeled _ body => body.yields
  | .localType _ | .returnsDefault | .breaks _ | .continues _ | .empty | .verbatim _ => false

def bodyYields : List Statement → Bool
  | [] => false
  | s :: rest => s.yields || bodyYields rest

def casesYield : List SwitchCase → Bool
  | [] => false
  | ⟨label, body⟩ :: rest =>
    (match label with | some e => e.yields | none => false) || bodyYields body || casesYield rest

def catchesYield : List CatchClause → Bool
  | [] => false
  | ⟨⟨_, annotations, _, _⟩, body⟩ :: rest =>
    annotationsYield annotations || bodyYields body || catchesYield rest

end

/-- Whether a method is written as a generator. -/
def Method.usesYield (method : Method) : Bool := bodyYields method.body

/-- The arguments of a statement that is a call of `yield`. -/
def Statement.yielded? : Statement → Option (List Expression)
  | .expression (.call none name _ arguments) => if name == yieldName then some arguments else none
  | _ => none

end JavaWeave.Syntax
