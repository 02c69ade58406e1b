import JavaWeave.Syntax.Build
import JavaWeave.Weave.Problem

namespace JavaWeave.Syntax.Annotation

open Weave (MemberProblem)

/-- Reads a member that must have one shape if it is written. -/
def read? (note : Annotation) (member expected : String) (shape : Expression → Option α) :
    Except MemberProblem (Option α) :=
  match note.get? member with
  | none => .ok none
  | some value =>
    match shape value with
    | some read => .ok (some read)
    | none => .error (.shape member expected)

/-- The elements of a member. -/
def elements (note : Annotation) (member : String) : List Expression :=
  match note.get? member with
  | none => []
  | some (.arrayElements elements) => elements
  | some single => [single]

/-- Reads every element of a member. -/
def readAll (note : Annotation) (member expected : String) (shape : Expression → Option α) :
    Except MemberProblem (List α) :=
  (note.elements member).mapM fun element =>
    match shape element with
    | some read => .ok read
    | none => .error (.shape member expected)

private def asString? : Expression → Option String
  | .literal (.string value) => some value
  | _ => none

private def asBool? : Expression → Option Bool
  | .literal (.bool value) => some value
  | _ => none

private def asClass? : Expression → Option JavaType
  | .classLiteral type => some type
  | _ => none

private def asAnnotation? : Expression → Option Annotation
  | .note note => some note
  | _ => none

/-- The simple name of a constant that is referred to. -/
private def asConstant? : Expression → Option String
  | .name text => some (Names.simple text)
  | .field _ name => some name
  | _ => none

def has (note : Annotation) (member : String) : Bool := (note.get? member).isSome

def string? (note : Annotation) (member : String) : Except MemberProblem (Option String) :=
  note.read? member "a string" asString?

def bool? (note : Annotation) (member : String) : Except MemberProblem (Option Bool) :=
  note.read? member "a boolean" asBool?

def strings (note : Annotation) (member : String) : Except MemberProblem (List String) :=
  note.readAll member "a string array" asString?

def classes (note : Annotation) (member : String) : Except MemberProblem (List JavaType) :=
  note.readAll member "a class literal array" asClass?

def class? (note : Annotation) (member : String) : Except MemberProblem (Option JavaType) :=
  note.read? member "a class literal" asClass?

def constant? (note : Annotation) (member : String) : Except MemberProblem (Option String) :=
  note.read? member "an enum constant" asConstant?

def access? (note : Annotation) (member : String) : Except MemberProblem (Option Access) := do
  match ← note.constant? member with
  | none => return none
  | some name =>
    match Access.ofConstant? name with
    | some access => return some access
    | none => throw (.unknownConstant member name)

def annotations (note : Annotation) (member : String) : Except MemberProblem (List Annotation) :=
  note.readAll member "an annotation array" asAnnotation?

end JavaWeave.Syntax.Annotation
