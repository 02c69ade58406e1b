import JavaWeave.Handler.Builder.Steps
import JavaWeave.Handler.FluentSetter

namespace JavaWeave.Weave

open Syntax

/-- Whether a constructor takes nothing but a builder. -/
def adoptsBuilder (constructor : Constructor) : Bool :=
  match constructor.parameters with
  | [parameter] => Text.endsWith parameter.type.simpleName "Builder"
  | _ => false

/-- A constructor for the builder: one that is there is taken, with the type of its parameter mended. -/
def injectBuilderConstructor (plan : BuilderPlan) : Handling Unit := do
  match (indexed plan.owner.constructors).find? fun (_, constructor) => adoptsBuilder constructor with
  | some (index, constructor) =>
    schedule (.replaceConstructor index { constructor with
      parameters := constructor.parameters.map fun parameter =>
        { parameter with type := plan.builderType } })
  | none => injectConstructor plan.builderConstructor

/-- The steps that forward to methods of the object, with a warning for each that cannot. -/
def forwardSteps (plan : BuilderPlan) (names : List String) : Handling (List Step) := do
  let mut steps := []
  for name in names do
    match plan.forwardable? name with
    | some (returns, thrown) => steps := steps ++ [BuilderPlan.forwardStep name returns thrown]
    | none => warn .cannotForward [name]
  return steps

/-- Schedules everything a builder consists of. -/
def injectBuilder (plan : BuilderPlan) (extensions : Extensions) (entry : String)
    (forwarded : List String) : Handling Unit := do
  let forwarding ← forwardSteps plan forwarded
  let interfaces := plan.requiredInterfaces extensions.usable
    ++ [plan.optionalInterface extensions.usable forwarding]
  injectBuilderConstructor plan
  if ← hasMethod entry (some 0) then warn .methodExists [entry]
  else injectMethod (plan.entryMethod entry)
  for field in plan.fields.optional do
    if let some initial := field.initial then
      if plan.allowReset then injectMethod (plan.defaultMethod field initial)
      schedule (.removeFieldInitializer field.index)
  for extension in extensions.usable do schedule (.removeMethod extension.index)
  for index in extensions.rejected do schedule (.removeMethodNote index extensionNote)
  for interface in interfaces do injectType (plan.interfaceDecl interface)
  injectType (plan.builderDecl interfaces)

def builderHandler : Handler where
  name := "Builder"
  trigger := .annotations ["Builder"]
  handle target := do
    let type ← edited
    if target != .type || type.isInterface || type.isEnum then misuseOfAnnotation .classOnly
    let options ← options
    let access ← wantedAccess .publicAccess
    let leading := (← member (·.string? "prefix")).getD options.builderLeading
    let excluded ← member (·.strings "exclude")
    let convenient := (← member (·.bool? "convenientMethods")).getD options.convenientMethods
    let forwarded ← member (·.strings "callMethods")
    let allowReset := (← member (·.bool? "allowReset")).getD options.allowReset
    let fields := BuilderFields.classify (← read).types excluded convenient type
    let plan : BuilderPlan := { owner := type, leading, access, allowReset, fields }
    if ← hasType plan.builderName then
      warn .typeExists [plan.builderName]
      return .skipped
    for name in excluded do
      unless type.hasField name do warn .excludedFieldMissing [name]
    let extensions ← examineExtensions type fields.requiredNames
    injectBuilder plan extensions options.entryMethod forwarded
    rebuild

/-- Extensions that are left when builders are made: their class has no builder, or one that failed and was
reported then. -/
def extensionHandler : Handler where
  name := "Builder.Extension"
  trigger := .annotations [extensionNote]
  handle target := do
    let _ ← methodTarget target
    if annotated (← edited).annotations "Builder" then return .skipped
    misuse .extensionWithoutBuilder []

end JavaWeave.Weave
