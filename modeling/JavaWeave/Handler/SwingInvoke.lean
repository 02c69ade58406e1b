import JavaWeave.Weave.Handler
import JavaWeave.Weave.Relocate

namespace JavaWeave.Weave

open Syntax

/-- Whether the caller waits for the body to be run. -/
inductive DispatchMode where
  | later
  | andWait
  deriving DecidableEq, Repr

def eventQueue : Expression := .name "java.awt.EventQueue"

private def runtimeException : JavaType := .named "java.lang.RuntimeException"

/-- Hands a task to the dispatch thread. An exception of the task that may be thrown anywhere is thrown
again, any other is wrapped. -/
def dispatchStatement (mode : DispatchMode) (task : String) : Statement :=
  match mode with
  | .later => .callOn eventQueue "invokeLater" [.name task]
  | .andWait =>
    let unwrapping : List Statement :=
      .declare (.final (.named "java.lang.Throwable") "$cause" (.callOn (.name "$ex2") "getCause" []))
        :: (rethrowChain "$cause" [runtimeException, .named "java.lang.Error"]
          ++ [.throws (.make runtimeException [.name "$cause"])])
    .tryCatch [.callOn eventQueue "invokeAndWait" [.name task]]
      [⟨.final (.named "java.lang.InterruptedException") "$ex1",
          [.callOn (.callOn (.name "java.lang.Thread") "currentThread" []) "interrupt" []]⟩,
       ⟨.final (.named "java.lang.reflect.InvocationTargetException") "$ex2", unwrapping⟩]
      none

/-- The new body: the old one as a task, run at once on the dispatch thread and handed over otherwise. -/
def dispatchedBody (mode : DispatchMode) (owner : String) (method : Method) : List Statement :=
  let task := "$" ++ method.name ++ "Runnable"
  let runnable : JavaType := .named "java.lang.Runnable"
  let run : Method := {
    modifiers := .ofList [.publicAccess]
    returnType := .void
    name := "run"
    body := if method.isStatic then method.body else qualifySelf owner method.body
    implementing := true }
  [.declare (.final runnable task (.makeAnonymous runnable [] { name := "", methods := [run] })),
   .ifElse (.callOn eventQueue "isDispatchThread" [])
     (.block [.callOn (.name task) "run" []])
     (some (.block [dispatchStatement mode task]))]

def swingInvokeHandler : Handler where
  name := "SwingInvoke"
  trigger := .annotations ["SwingInvokeLater", "SwingInvokeAndWait"]
  handle target := do
    let index ← methodTarget target
    let method ← methodAt index
    if method.isAbstract then misuseOfAnnotation .concreteMethodOnly
    unless method.returnType.isVoid do misuseOfAnnotation .voidMethodOnly
    let mode : DispatchMode :=
      if (← annotationName) == "SwingInvokeAndWait" then .andWait else .later
    schedule (.finalizeParameters index)
    schedule (.replaceBody index (dispatchedBody mode (← edited).name method))
    rebuild

end JavaWeave.Weave
