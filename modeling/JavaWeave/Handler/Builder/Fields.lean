import JavaWeave.Syntax.Build
import JavaWeave.Types.Table
import JavaWeave.Weave.Edit

namespace JavaWeave.Weave

open Syntax

/-- How a builder offers an optional field. -/
inductive FieldShape where
  /-- A setter. -/
  | plain
  /-- Adding one element or many. -/
  | collection
  /-- Putting one entry or many. -/
  | map
  deriving DecidableEq, Repr

/-- A field that a builder holds. -/
structure BuilderField where
  /-- The place of the field in its class. -/
  index : Nat
  name : String
  type : JavaType
  initial : Option Expression
  shape : FieldShape

inductive FieldRole where
  | required
  | optional
  | excluded
  deriving DecidableEq, Repr

/-- Collections and maps that have a value to begin with are filled bit by bit, if that is wanted. -/
def fieldShape (types : TypeTable) (convenient : Bool) (field : Field) : FieldShape :=
  if convenient && field.initial.isSome then
    if types.isMap field.type then .map
    else if types.isCollection field.type then .collection
    else .plain
  else .plain

/-- The annotations of fields that must not be null. -/
def nonNullAnnotations : List String := ["NonNull", "NotNull", "Nonnull"]

/-- A field without initial value is required if it is final or must not be null. Otherwise it is optional if
it may be assigned or filled bit by bit. -/
def fieldRole (excluded : List String) (shape : FieldShape) (field : Field) : FieldRole :=
  if field.isStatic || Text.startsWith field.name "$" || excluded.contains field.name then .excluded
  else if field.initial.isNone
      && (field.isFinal || nonNullAnnotations.any (annotated field.annotations)) then .required
  else if shape != .plain || !field.isFinal then .optional
  else .excluded

/-- The fields of a class by their role, each group in the order of declaration. -/
structure BuilderFields where
  required : List BuilderField
  optional : List BuilderField
  excluded : List String

namespace BuilderFields

def classify (types : TypeTable) (excluded : List String) (convenient : Bool) (type : TypeDecl) :
    BuilderFields :=
  let role (field : Field) := fieldRole excluded (fieldShape types convenient field) field
  let withRole (wanted : FieldRole) : List BuilderField :=
    (indexed type.fields).filterMap fun (index, field) =>
      if role field = wanted then
        some { index, name := field.name, type := field.type, initial := field.initial,
               shape := fieldShape types convenient field }
      else none
  { required := withRole .required
    optional := withRole .optional
    excluded := (type.fields.filter fun field => role field = .excluded).map (·.name) }

def requiredNames (fields : BuilderFields) : List String := fields.required.map (·.name)

/-- The interfaces that lead through the required fields. -/
def stepNames (fields : BuilderFields) : List String :=
  fields.required.map fun field => Names.capitalize field.name ++ "Def"

/-- The fields that a builder holds. -/
def held (fields : BuilderFields) : List BuilderField := fields.required ++ fields.optional

end BuilderFields

end JavaWeave.Weave
