import JavaWeave.Weave.Handler
import JavaWeave.Weave.Relocate

namespace JavaWeave.Weave

open Syntax

/-- What the action returns; one that returns nothing returns null. -/
def actionResult (method : Method) : JavaType :=
  if method.returnType.isVoid then .named "java.lang.Void" else method.returnType.boxed

/-- The body of the action. -/
def actionBody (owner : String) (method : Method) : List Statement :=
  let body := if method.isStatic then method.body else qualifySelf owner method.body
  if method.returnType.isVoid then
    let body := returnValue .null body
    if completesNormally body then body ++ [.returns (some .null)] else body
  else body

/-- The new body: the old one as an action, and the exceptions it wraps taken out again. -/
def privilegedBody (owner : String) (method : Method) : List Statement :=
  let result := actionResult method
  let run : Method := {
    modifiers := .ofList [.publicAccess]
    returnType := result
    name := "run"
    thrown := [.named "java.lang.Exception"]
    body := actionBody owner method
    implementing := true }
  let actionType := (JavaType.named "java.security.PrivilegedExceptionAction").apply [result]
  let action : Expression := .makeAnonymous actionType [] { name := "", methods := [run] }
  let privileged : Expression := .callOn (.name "java.security.AccessController") "doPrivileged" [action]
  let failure : List Statement :=
    .declare (.final (.named "java.lang.Throwable") "$cause" (.callOn (.name "$ex") "getException" []))
      :: (rethrowChain "$cause" method.thrown
        ++ [.throws (.make (.named "java.lang.RuntimeException") [.name "$cause"])])
  [.tryCatch
    [if method.returnType.isVoid then .expression privileged else .returns (some privileged)]
    [⟨.final (.named "java.security.PrivilegedActionException") "$ex", failure⟩]
    none]

def doPrivilegedHandler : Handler where
  name := "DoPrivileged"
  trigger := .annotations ["DoPrivileged"]
  handle target := do
    let index ← methodTarget target
    let method ← methodAt index
    if method.isAbstract then misuseOfAnnotation .concreteMethodOnly
    schedule (.finalizeParameters index)
    schedule (.replaceBody index (privilegedBody (← edited).name method))
    rebuild

end JavaWeave.Weave
