import JavaWeave.Syntax.Build
import JavaWeave.Syntax.Revision
import JavaWeave.Weave.Problem

/-! Making a generated fragment ready for its type: every declaration in it is stamped as generated and placed
at the annotation that asked for it, and every default return becomes the return of a value. -/

namespace JavaWeave.Weave

open Syntax

/-- The return of a type's zero value. -/
def zeroReturn (type : JavaType) : Statement :=
  if type.isVoid then .returns none else .returns (some type.zero)

/-- The reviser that lowers a fragment. What it knows on the way down is the type returned by the innermost
body, if a value can be returned there; `context` names the fragment in problems. -/
def lowering (span : Option Span) (context : String) :
    Reviser (Option JavaType) (Except InternalProblem) where
  expression := fun _ e => .ok e
  statement := fun returnType s => match s, returnType with
    | .returnsDefault, some type => .ok (zeroReturn type)
    | .returnsDefault, none => .error (.noEnclosingMethod context)
    | s, _ => .ok s
  withinMethod := fun _ type => some type
  withinConstructor := fun _ => some .void
  withinInitializer := fun _ => none
  origin := fun _ origin => origin.stamp span

def lowerField (span : Option Span) (field : Field) : Except InternalProblem Field :=
  (lowering span ("field '" ++ field.name ++ "'")).onField none field

def lowerMethod (span : Option Span) (method : Method) : Except InternalProblem Method :=
  (lowering span ("method '" ++ method.name ++ "'")).onMethod none method

def lowerConstructor (span : Option Span) (constructor : Constructor) :
    Except InternalProblem Constructor :=
  (lowering span ("constructor '" ++ constructor.name ++ "'")).onConstructor none constructor

def lowerInitializer (span : Option Span) (initializer : Initializer) :
    Except InternalProblem Initializer :=
  (lowering span "initializer").onInitializer none initializer

def lowerType (span : Option Span) (type : TypeDecl) : Except InternalProblem TypeDecl :=
  (lowering span ("type '" ++ type.name ++ "'")).onType none type

/-- Lowers a new body for a method that returns the given type. -/
def lowerBody (span : Option Span) (returnType : JavaType) (body : List Statement) :
    Except InternalProblem (List Statement) :=
  (lowering span "method body").onStatements (some returnType) body

end JavaWeave.Weave
