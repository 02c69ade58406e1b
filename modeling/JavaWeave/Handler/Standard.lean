import JavaWeave.Generator.Yielder
import JavaWeave.Handler.BoundSetter
import JavaWeave.Handler.Builder
import JavaWeave.Handler.ConditionLock
import JavaWeave.Handler.DoPrivileged
import JavaWeave.Handler.Entrypoint
import JavaWeave.Handler.EnumId
import JavaWeave.Handler.FluentSetter
import JavaWeave.Handler.FunctionObject
import JavaWeave.Handler.ListenerSupport
import JavaWeave.Handler.Rethrow
import JavaWeave.Handler.Singleton
import JavaWeave.Handler.SwingInvoke

namespace JavaWeave.Weave

open Syntax

/-- Methods that yield: the body becomes a class of its own, and the method returns an instance of it. -/
def generatorHandler : Handler where
  name := "Yield"
  trigger := .yieldCall
  handle target := do
    let index ← methodTarget target
    let method ← methodAt index
    match Generator.check method with
    | .error (message, arguments) => misuse message arguments
    | .ok shape =>
      let yielder := Generator.yielderDecl (← edited) shape (← options).optimizeStates method
      schedule (.replaceBody index [.localType yielder, .returns (some (.make yielder.selfType []))])
      rebuild

def standardHandlers : List Handler :=
  [builderHandler, extensionHandler, boundSetterHandler, fluentSetterHandler, conditionLockHandler,
   doPrivilegedHandler, entrypointHandler, enumIdHandler, listenerSupportHandler, rethrowHandler,
   singletonHandler, swingInvokeHandler, functionObjectHandler, generatorHandler]

/-- The handlers that are not switched off. -/
def enabledHandlers (options : Options) : List Handler :=
  standardHandlers.filter fun handler => !options.isDisabled handler.name

end JavaWeave.Weave
