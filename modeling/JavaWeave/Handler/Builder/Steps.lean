import JavaWeave.Handler.Builder.Extensions
import JavaWeave.Weave.Relocate

/-! The interfaces of a builder and the class that implements them. Each required field has an interface of
its own, whose setter returns the next one; the last returns the interface of the optional fields, which alone
can build. -/

namespace JavaWeave.Weave

open Syntax

/-- What is known about a builder before it is written. -/
structure BuilderPlan where
  owner : TypeDecl
  /-- What the names of the setters start with. -/
  leading : String
  access : Access
  allowReset : Bool
  fields : BuilderFields

/-- A method of the builder, declared in an interface and implemented in the class. -/
structure Step where
  signature : Method
  body : List Statement

namespace Step

def declaration (step : Step) : Method := { step.signature with bodiless := true }

def implementation (step : Step) : Method :=
  { step.signature with
    modifiers := step.signature.modifiers.withAccess .publicAccess
    implementing := true
    body := step.body }

/-- A step that returns the builder itself at the end. -/
def fluent (signature : Method) (body : List Statement) : Step :=
  ⟨signature, body ++ [.returns (some .self)]⟩

end Step

/-- An interface of the builder. -/
structure StepInterface where
  name : String
  steps : List Step

/-- A type argument as the type of a value: a bound is read as the type itself. -/
def argumentType : Option JavaType → JavaType
  | none => .object
  | some type => if type.wildcard = some .unbound then .object else { type with wildcard := none }

namespace BuilderPlan

def builderName (plan : BuilderPlan) : String := "$" ++ plan.owner.name ++ "Builder"

/-- A type of the builder, applied to the type parameters of the class. -/
def generic (plan : BuilderPlan) (name : String) : JavaType :=
  { plan.owner.selfType with name }

def builderType (plan : BuilderPlan) : JavaType := plan.generic plan.builderName

/-- The interface of the optional fields. -/
def optionalName : String := "OptionalDef"

/-- The interfaces in the order in which they are reached. -/
def stepNames (plan : BuilderPlan) : List String := plan.fields.stepNames ++ [optionalName]

/-- The interface at a place in that order. -/
def stepType (plan : BuilderPlan) (place : Nat) : JavaType :=
  plan.generic (plan.stepNames[place]?.getD optionalName)

/-- The interface that building starts with. -/
def firstStep (plan : BuilderPlan) : JavaType := plan.stepType 0

def optionalType (plan : BuilderPlan) : JavaType := plan.generic optionalName

def setterName (plan : BuilderPlan) (field : String) : String := Names.camelCase plan.leading field

/-- The static method that gives the initial value of a field. -/
def defaultMethodName (field : String) : String := "$" ++ field ++ "Default"

/-- The setters of a field. -/
def setterSteps (plan : BuilderPlan) (field : BuilderField) (returns : JavaType) : List Step :=
  let target : Expression := .ofSelf field.name
  let many := plan.setterName field.name
  let one := Names.singular many
  let argument (place : Nat) := argumentType field.type.arguments[place]?
  let filling (name : String) (types : List JavaType) (operation : String) : Step :=
    let parameters := (indexed types).map fun (index, type) =>
      Parameter.final type ("arg" ++ toString index)
    .fluent { returnType := returns, name, parameters }
      [.callOn target operation (forwarded parameters)]
  match field.shape with
  | .plain =>
    [.fluent { returnType := returns, name := many, parameters := [.final field.type field.name] }
      [.set target (.name field.name)]]
  | .collection =>
    [filling one [argument 0] "add",
     filling many [(JavaType.named "java.util.Collection").apply [.extending (argument 0)]] "addAll"]
  | .map =>
    [filling one [argument 0, argument 1] "put",
     filling many
       [(JavaType.named "java.util.Map").apply [.extending (argument 0), .extending (argument 1)]]
       "putAll"]

/-- An extension as a method of the builder. -/
def extensionStep (plan : BuilderPlan) (extension : Extension) : Step :=
  let method := extension.method
  let body := returnValue .self method.body
  { signature := {
      returnType := plan.optionalType
      name := method.name
      typeParameters := method.typeParameters
      parameters := method.parameters
      thrown := method.thrown }
    body := if completesNormally body then body ++ [.returns (some .self)] else body }

/-- What a field is set back to. -/
def resetValue (plan : BuilderPlan) (field : BuilderField) : Expression :=
  if field.initial.isSome then .callOn (.name plan.owner.name) (defaultMethodName field.name) []
  else field.type.zero

/-- What a field of a new builder holds. -/
def initialValue (plan : BuilderPlan) (field : BuilderField) : Option Expression :=
  if field.initial.isSome && plan.allowReset then some (plan.resetValue field) else field.initial

def buildStep (plan : BuilderPlan) : Step where
  signature := { returnType := plan.owner.selfType, name := "build" }
  body := [.returns (some (.make plan.owner.selfType [.self]))]

/-- Sets all fields back and starts again. -/
def resetStep (plan : BuilderPlan) : Step :=
  .fluent { returnType := plan.firstStep, name := "reset" }
    (plan.fields.held.map fun field => .set (.ofSelf field.name) (plan.resetValue field))

/-- Builds the object and calls a method of it. -/
def forwardStep (name : String) (returns : JavaType) (thrown : List JavaType) : Step :=
  let call : Expression := .callOn (.callOn .self "build" []) name []
  { signature := { returnType := returns, name, thrown }
    body := [if returns.isVoid then .expression call else .returns (some call)] }

/-- What a method that is forwarded to returns and throws; two methods every object has. -/
def forwardable? (plan : BuilderPlan) (name : String) : Option (JavaType × List JavaType) :=
  match plan.owner.method? name (some 0) with
  | some method => some (method.returnType, method.thrown)
  | none =>
    match name with
    | "toString" => some (.string, [])
    | "hashCode" => some (.named "int", [])
    | _ => none

/-- The interfaces of the required fields. The first also has the extensions that give all of them. -/
def requiredInterfaces (plan : BuilderPlan) (extensions : List Extension) : List StepInterface :=
  (indexed (plan.fields.required.zip plan.fields.stepNames)).map fun (index, field, name) =>
    let replacing := if index = 0 then extensions.filter (·.givesRequired) else []
    ⟨name, replacing.map plan.extensionStep ++ plan.setterSteps field (plan.stepType (index + 1))⟩

/-- The interface of the optional fields, which builds. -/
def optionalInterface (plan : BuilderPlan) (extensions : List Extension) (forwarding : List Step) :
    StepInterface where
  name := optionalName
  steps := plan.fields.optional.flatMap (plan.setterSteps · plan.optionalType)
    ++ (extensions.filter fun extension => !extension.givesRequired).map plan.extensionStep
    ++ [plan.buildStep] ++ (if plan.allowReset then [plan.resetStep] else []) ++ forwarding

def interfaceDecl (plan : BuilderPlan) (interface : StepInterface) : TypeDecl where
  modifiers := (Modifiers.withAccess {} plan.access).insert .static
  kind := .interface
  name := interface.name
  typeParameters := plan.owner.typeParameters
  methods := interface.steps.map (·.declaration)

/-- The class that implements all interfaces. -/
def builderDecl (plan : BuilderPlan) (interfaces : List StepInterface) : TypeDecl where
  modifiers := .ofList [.privateAccess, .static]
  name := plan.builderName
  typeParameters := plan.owner.typeParameters
  interfaces := plan.stepNames.map plan.generic
  fields := plan.fields.held.map fun field =>
    { modifiers := .ofList [.privateAccess], type := field.type, name := field.name,
      initial := plan.initialValue field }
  methods := interfaces.flatMap fun interface => interface.steps.map (·.implementation)

/-- The constructor that takes the fields of a builder. -/
def builderConstructor (plan : BuilderPlan) : Constructor where
  modifiers := .ofList [.privateAccess]
  name := plan.owner.name
  parameters := [.final plan.builderType "builder"]
  body := plan.fields.held.map fun field =>
    .set (.ofSelf field.name) (.field (.name "builder") field.name)

/-- The method that starts building. -/
def entryMethod (plan : BuilderPlan) (name : String) : Method where
  modifiers := (Modifiers.withAccess {} plan.access).insert .static
  typeParameters := plan.owner.typeParameters
  returnType := plan.firstStep
  name := name
  body := [.returns (some (.make plan.builderType []))]

/-- The method that gives the initial value of a field. -/
def defaultMethod (plan : BuilderPlan) (field : BuilderField) (initial : Expression) : Method where
  modifiers := .ofList [.privateAccess, .static]
  typeParameters := plan.owner.typeParameters
  returnType := field.type
  name := defaultMethodName field.name
  body := [.returns (some initial)]

end BuilderPlan

end JavaWeave.Weave
