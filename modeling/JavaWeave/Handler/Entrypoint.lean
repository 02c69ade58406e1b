import JavaWeave.Weave.Handler

namespace JavaWeave.Weave

open Syntax

/-- A method that the virtual machine starts with, and what it hands on. -/
structure EntryPoint where
  name : String
  parameters : List Parameter
  arguments : List Expression

/-- The instance method that an annotation asks for, and the entry points it gives. -/
structure EntryFamily where
  delegate : String
  signature : String
  arity : Nat
  entries : List EntryPoint

def applicationFamily : EntryFamily where
  delegate := "runApp"
  signature := "runApp(String[])"
  arity := 1
  entries := [⟨"main", [.final JavaType.string.arrayOf "args"], [.name "args"]⟩]

def agentFamily : EntryFamily :=
  let parameters : List Parameter :=
    [.final .string "params", .final (.named "java.lang.instrument.Instrumentation") "instrumentation"]
  let entry (name : String) (attached : Bool) : EntryPoint :=
    ⟨name, parameters, [.name "params", .name "instrumentation", .bool attached]⟩
  { delegate := "runAgent"
    signature := "runAgent(String, Instrumentation, boolean)"
    arity := 3
    entries := [entry "agentmain" true, entry "premain" false] }

def entryMethod (owner : JavaType) (delegate : String) (entry : EntryPoint) : Method where
  modifiers := .ofList [.publicAccess, .static]
  returnType := .void
  name := entry.name
  parameters := entry.parameters
  thrown := [.named "java.lang.Throwable"]
  body := [.callOn (.make owner []) delegate entry.arguments]

def entrypointHandler : Handler where
  name := "Entrypoint"
  trigger := .annotations ["Application", "JvmAgent"]
  handle target := do
    let type ← edited
    if target != .type || type.isInterface || type.isEnum then misuseOfAnnotation .classOnly
    let name ← annotationName
    let family := if name == "JvmAgent" then agentFamily else applicationFamily
    unless type.methods.any fun m => m.name == family.delegate && m.arity == family.arity && !m.isStatic do
      misuse .requiresMethod [name, family.signature]
    for entry in family.entries do
      if ← hasMethod entry.name (some entry.parameters.length) then warn .methodExists [entry.name]
      else injectMethod (entryMethod type.selfType family.delegate entry)
    rebuild

end JavaWeave.Weave
