import JavaWeave.Weave.Handler

namespace JavaWeave.Weave

open Syntax

/-- The name of the map from values of a field to constants. -/
def lookupName (field : Field) : String := "$" ++ Names.constantCase field.name ++ "_LOOKUP"

private def lookupType (raw : String) (owner : JavaType) (field : Field) : JavaType :=
  (JavaType.named raw).apply [field.type.boxed, owner]

def lookupField (owner : JavaType) (field : Field) : Field where
  modifiers := .ofList [.privateAccess, .static, .final]
  type := lookupType "java.util.Map" owner field
  name := lookupName field
  initial := some (.make (lookupType "java.util.HashMap" owner field) [])

/-- Enters every constant under the value of its field. -/
def lookupFilling (owner : JavaType) (field : Field) : Initializer where
  isStatic := true
  body := [.forEach { modifiers := .ofList [.final], type := owner, name := "$value" }
    (.callOn (.name owner.simpleName) "values" [])
    (.callOn (.name (lookupName field)) "put" [.field (.name "$value") field.name, .name "$value"])]

/-- Gives the constant with a value, and throws if there is none. -/
def lookupMethod (owner : JavaType) (field : Field) : Method :=
  let map : Expression := .name (lookupName field)
  let key : Expression := .name field.name
  let message :=
    "Enumeration '" ++ owner.simpleName ++ "' has no value for '" ++ field.name ++ " = %s'"
  { modifiers := .ofList [.publicAccess, .static]
    returnType := owner
    name := "findBy" ++ Names.capitalize field.name
    parameters := [.final field.type field.name]
    body := [
      .whenever (.callOn map "containsKey" [key]) (.returns (some (.callOn map "get" [key]))),
      .throws (.make (.named "java.lang.IllegalArgumentException")
        [.callOn (.name "java.lang.String") "format" [.string message, key]])] }

def idGetter (field : Field) : Method where
  modifiers := .ofList [.publicAccess]
  returnType := field.type
  name := Names.getterName field.name field.type.isBoolean
  body := [.returns (some (.ofSelf field.name))]

def enumIdHandler : Handler where
  name := "EnumId"
  trigger := .annotations ["EnumId"]
  handle target := do
    let type ← edited
    match target with
    | .field index =>
      unless type.isEnum do misuseOfAnnotation .enumFieldOnly
      let field ← fieldAt index
      if field.isStatic then misuseOfAnnotation .instanceFieldOnly
      let owner := type.selfType
      if ← hasField (lookupName field) then warn .fieldExists [lookupName field]
      else
        injectField (lookupField owner field)
        injectInitializer (lookupFilling owner field)
      let finder := lookupMethod owner field
      if ← hasMethod finder.name (some 1) then warn .methodExists [finder.name]
      else injectMethod finder
      let getter := idGetter field
      unless ← hasMethod getter.name (some 0) do injectMethod getter
      rebuild
    | _ => misuseOfAnnotation .enumFieldOnly

end JavaWeave.Weave
