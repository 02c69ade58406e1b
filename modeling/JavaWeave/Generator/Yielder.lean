import JavaWeave.Generator.Compile
import JavaWeave.Generator.Lower
import JavaWeave.Generator.Scope
import JavaWeave.Generator.Shape
import JavaWeave.Weave.Relocate

namespace JavaWeave.Generator

open Syntax

def hasNextName : String := "$hasNext"

/-- The variable that says whether the next element has been looked for. -/
def soughtName : String := "$nextDefined"

/-- Looks for the next element once, however often it is asked for. -/
def hasNextMethod : Method where
  modifiers := .ofList [.publicAccess]
  returnType := .named "boolean"
  name := "hasNext"
  body := [
    .whenever (.not (.name soughtName)) (.block [
      assignName hasNextName (.callOwn "getNext" []),
      assignName soughtName (.bool true)]),
    .returns (some (.name hasNextName))]
  implementing := true

def nextMethod (element : JavaType) : Method where
  modifiers := .ofList [.publicAccess]
  returnType := element
  name := "next"
  body := [
    .whenever (.not (.callOwn "hasNext" []))
      (.block [.throws (.make (.named "java.util.NoSuchElementException") [])]),
    assignName soughtName (.bool false),
    .returns (some (.name elementName))]
  implementing := true

def removeMethod : Method where
  modifiers := .ofList [.publicAccess]
  returnType := .void
  name := "remove"
  body := [.throws (.make (.named "java.lang.UnsupportedOperationException") [])]
  implementing := true

/-- Hands out the object itself the first time and a new one afterwards. -/
def iteratorMethod (yielder : String) (element : JavaType) : Method where
  modifiers := .ofList [.publicAccess]
  returnType := (JavaType.named "java.util.Iterator").apply [element]
  name := "iterator"
  body := [
    .whenever (.binary .eq (.name stateName) (.int 0)) (.block [
      assignName stateName (.int 1),
      .returns (some .self)]),
    .returns (some (.callOn (.make (.named yielder) []) "iterator" []))]
  implementing := true

private def privateField (type : JavaType) (name : String) : Field :=
  { modifiers := .ofList [.privateAccess], type, name }

/-- The machine of a generator. -/
def machineOf (owner : TypeDecl) (optimize : Bool) (method : Method) : Machine :=
  let body := if method.isStatic then method.body else Weave.qualifySelf owner.name method.body
  let parameters := method.parameters.map (·.name)
  let body := renameApart (parameters ++ owner.fields.map (·.name)) body
  let surroundings : Surroundings :=
    { parameters := method.parameters.map fun parameter => (parameter.name, parameter.type)
      fields := owner.fields.map fun field => (field.name, field.type) }
  let machine := compileBody surroundings body
  if optimize then machine.optimize else machine

/-- The class of a generator. The state `0` of an iterable says that it has handed out no iterator yet. -/
def yielderDecl (owner : TypeDecl) (shape : Shape) (optimize : Bool) (method : Method) : TypeDecl :=
  let machine := machineOf owner optimize method
  let numbering : Numbering := { layout := machine.layout, first := if shape.iterable then 1 else 0 }
  let name := "$Yielder" ++ Names.capitalize method.name
  let element := shape.element
  { name
    isLocal := true
    interfaces := (JavaType.named "java.util.Iterator").apply [element]
      :: if shape.iterable then [(JavaType.named "java.lang.Iterable").apply [element]] else []
    fields := machine.lifted.map (fun (variableName, type) => privateField type variableName) ++ [
      privateField (.named "int") stateName,
      privateField (.named "boolean") hasNextName,
      privateField (.named "boolean") soughtName,
      privateField element elementName]
    methods := (if shape.iterable then [iteratorMethod name element] else []) ++ [
      hasNextMethod, nextMethod element, removeMethod,
      advanceMethod machine numbering, handlerMethod machine numbering] }

end JavaWeave.Generator
