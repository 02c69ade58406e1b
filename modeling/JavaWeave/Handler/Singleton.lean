import JavaWeave.Weave.Handler

namespace JavaWeave.Weave

open Syntax

/-- The name of the one instance. -/
def instanceName : String := "INSTANCE"

def instanceGetter : String := "getInstance"

/-- The nested class that makes the instance when it is first used. -/
def instanceHolder (owner : JavaType) (name : String) : TypeDecl where
  modifiers := .ofList [.privateAccess, .static]
  name := name
  fields := [{
    modifiers := .ofList [.privateAccess, .static, .final]
    type := owner
    name := instanceName
    initial := some (.make owner []) }]

/-- The style that the annotation asks for. -/
def wantedStyle : Handling SingletonStyle := do
  match ← member (·.constant? "style") with
  | some constant =>
    match SingletonStyle.ofConstant? constant with
    | some style => pure style
    | none => misuse .invalidValue ["style", constant]
  | none => return (← options).singletonStyle

/-- Closes the constructors and adds the getter of the instance, which the expression gives. -/
def finishSingleton (type : TypeDecl) (holding : Expression) : Handling Outcome := do
  for index in List.range type.constructors.length do
    schedule (.setConstructorAccess index .packageAccess)
  if type.constructors.isEmpty then injectConstructor { name := type.name }
  if ← hasMethod instanceGetter (some 0) then warn .methodExists [instanceGetter]
  else
    injectMethod {
      modifiers := .ofList [.publicAccess, .static]
      returnType := type.selfType
      name := instanceGetter
      body := [.returns (some holding)] }
  rebuild

def singletonHandler : Handler where
  name := "Singleton"
  trigger := .annotations ["Singleton"]
  handle target := do
    let type ← edited
    if target != .type || type.isInterface || type.isEnum then misuseOfAnnotation .classOnly
    if type.isLocal || type.isAnonymous then misuseOfAnnotation .notOnLocalClasses
    let holder := type.name ++ "Holder"
    match ← wantedStyle with
    | .enum =>
      if let some parent := type.superclass then misuse .singletonExtends [parent.name]
      schedule (.convertToEnum [{ name := instanceName }])
      finishSingleton type (.name instanceName)
    | .holder =>
      if ← hasType holder then
        warn .typeExists [holder]
        return .skipped
      injectType (instanceHolder type.selfType holder)
      finishSingleton type (.field (.name holder) instanceName)

end JavaWeave.Weave
