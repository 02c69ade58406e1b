import JavaWeave.Weave.Handler
import JavaWeave.Weave.Relocate

namespace JavaWeave.Weave

open Syntax

/-- The type that a name is bound to; of several bindings the last counts. -/
def boundType? (bindings : List (String × JavaType)) (name : String) : Option JavaType :=
  bindings.reverse.lookup name

mutual

/-- Puts types for the type parameters in a type. A parameter that is an element type or has arguments of its
own stays. -/
def substitute (bindings : List (String × JavaType)) : JavaType → JavaType
  | ⟨name, arguments, dimensions, wildcard⟩ =>
    match boundType? bindings name, arguments, dimensions with
    | some bound, [], 0 => { bound with wildcard }
    | _, _, _ => ⟨name, substituteAll bindings arguments, dimensions, wildcard⟩

def substituteAll (bindings : List (String × JavaType)) : List JavaType → List JavaType
  | [] => []
  | type :: rest => substitute bindings type :: substituteAll bindings rest

end

/-- A signature with types put for type parameters. Declared exceptions stay. -/
def Signature.substitute (bindings : List (String × JavaType)) (signature : Signature) : Signature :=
  { signature with
    returnType := Weave.substitute bindings signature.returnType
    parameters := signature.parameters.map (Weave.substitute bindings) }

/-- Adds a signature unless there is one of its name and parameters. -/
def addSignature (collected : List Signature) (signature : Signature) : List Signature :=
  if collected.any fun other => other.name == signature.name && other.parameters == signature.parameters then
    collected
  else collected ++ [signature]

/-- Collects the methods of the types in `pending` and of their supertypes, each type once. The types that
`pending` gives type arguments have them put for their parameters. The fuel bounds the steps. -/
def collectMethods (types : TypeTable) :
    Nat → List (String × List JavaType) → List String → List Signature → List Signature
  | 0, _, _, collected => collected
  | _, [], _, collected => collected
  | fuel + 1, (current, arguments) :: pending, seen, collected =>
    match types.resolve? current with
    | none => collectMethods types fuel pending seen collected
    | some info =>
      if info.qualifiedName == "java.util.EventListener" || seen.contains info.qualifiedName then
        collectMethods types fuel pending seen collected
      else
        let bindings := info.typeParameters.zip arguments
        let collected := (info.methods.map (Signature.substitute bindings)).foldl addSignature collected
        let supertypes := info.supertypes.reverse.map fun supertype => (supertype, [])
        collectMethods types fuel (supertypes ++ pending) (info.qualifiedName :: seen) collected

/-- The methods that a listener declares or inherits. Every step takes one name, and a type adds its
supertypes once. -/
def listenerMethods (types : TypeTable) (listener : JavaType) : List Signature :=
  collectMethods types (types.edges + 2) [(listener.name, listener.arguments)] [] []

/-- The field that keeps the listeners of a type. -/
def registryField (listener : JavaType) : Field where
  modifiers := .ofList [.privateAccess, .final]
  type := (JavaType.named "java.util.List").apply [listener]
  name := "$registered" ++ listener.simpleName
  initial := some
    (.make ((JavaType.named "java.util.concurrent.CopyOnWriteArrayList").apply [listener]) [])

private def registry (listener : JavaType) : Expression := .ofSelf (registryField listener).name

/-- Registers a listener that is not registered yet. -/
def addListenerMethod (listener : JavaType) : Method where
  modifiers := .ofList [.publicAccess]
  returnType := .void
  name := "add" ++ listener.simpleName
  parameters := [.final listener "l"]
  body := [.whenever (.not (.callOn (registry listener) "contains" [.name "l"]))
    (.callOn (registry listener) "add" [.name "l"])]

def removeListenerMethod (listener : JavaType) : Method where
  modifiers := .ofList [.publicAccess]
  returnType := .void
  name := "remove" ++ listener.simpleName
  parameters := [.final listener "l"]
  body := [.callOn (registry listener) "remove" [.name "l"]]

/-- Calls one method on all listeners. -/
def fireListenerMethod (listener : JavaType) (signature : Signature) : Method :=
  let parameters := (indexed signature.parameters).map fun (index, type) =>
    Parameter.final type ("arg" ++ toString index)
  { modifiers := .ofList [.protectedAccess]
    returnType := .void
    name := "fire" ++ Names.capitalize signature.name
    parameters
    body := [.forEach { type := listener, name := "l", modifiers := .ofList [.final] } (registry listener)
      (.callOn (.name "l") signature.name (forwarded parameters))] }

/-- Adds what a class does not have of the support for a listener. -/
def injectListenerSupport (listener : JavaType) (methods : List Signature) : Handling Unit := do
  let field := registryField listener
  if ← hasField field.name then warn .fieldExists [field.name] else injectField field
  for method in addListenerMethod listener :: removeListenerMethod listener
      :: methods.map (fireListenerMethod listener) do
    if ← hasMethod method.name (some method.arity) then warn .methodExists [method.name]
    else injectMethod method

def listenerSupportHandler : Handler where
  name := "ListenerSupport"
  trigger := .annotations ["ListenerSupport"]
  handle target := do
    if target != .type then misuseOfAnnotation .classOnly
    if (← edited).isInterface then misuseOfAnnotation .notOnInterfaces
    let listeners ← member (·.classes "value")
    if listeners.isEmpty then misuse .listenerTypeMissing []
    let types := (← read).types
    for listener in listeners do
      match types.resolve? listener.name with
      | none => misuse .listenerUnresolved [listener.name]
      | some info => unless info.isInterface do misuse .listenerNotInterface [listener.name]
    for listener in listeners do injectListenerSupport listener (listenerMethods types listener)
    rebuild

end JavaWeave.Weave
