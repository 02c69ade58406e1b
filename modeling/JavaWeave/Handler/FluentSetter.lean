import JavaWeave.Weave.Handler

namespace JavaWeave.Weave

open Syntax

/-- The fields that a setter annotation of a class is about: instance fields that may be assigned, whose name
does not begin with `$`, and that do not carry the annotation themselves. -/
def settableFields (type : TypeDecl) (note : String) : List Field :=
  type.fields.filter fun field =>
    !field.isStatic && !field.isFinal && !Text.startsWith field.name "$"
      && !annotated field.annotations note

/-- The fields that an occurrence of a setter annotation is about. -/
def setterFields (note : String) : Target → Handling (List Field)
  | .type => return settableFields (← edited) note
  | .field index => do
    let field ← fieldAt index
    if field.isStatic then misuse .staticField [← annotationName, field.name]
    if field.isFinal then misuse .finalField [← annotationName, field.name]
    return [field]
  | .method _ => misuseOfAnnotation .classOrFieldOnly

/-- The access level that an annotation asks for. -/
def wantedAccess (standard : Access) : Handling Access :=
  return (← member (·.access? "value")).getD standard

/-- Assigns the field and returns the object. -/
def fluentSetter (owner : JavaType) (access : Access) (field : Field) : Method where
  modifiers := access.modifiers
  returnType := owner
  name := field.name
  parameters := [.final field.type field.name]
  body := [.set (.ofSelf field.name) (.name field.name), .returns (some .self)]

def fluentSetterHandler : Handler where
  name := "FluentSetter"
  trigger := .annotations ["FluentSetter"]
  handle target := do
    let type ← edited
    if type.isInterface then misuseOfAnnotation .notOnInterfaces
    let access ← wantedAccess .publicAccess
    for field in ← setterFields "FluentSetter" target do
      if ← hasMethod field.name (some 1) then warn .methodExists [field.name]
      else injectMethod (fluentSetter type.selfType access field)
    rebuild

end JavaWeave.Weave
