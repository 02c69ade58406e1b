import JavaWeave.Text.Runs
import JavaWeave.Weave.Handler

/-! `@ReadLock`, `@WriteLock`, `@Await`, `@Signal` and `@AwaitBeforeAndSignalAfter`: the body of a method runs
while a lock is held. It may wait for a condition first and signal one afterwards. The fields that hold locks
and conditions are made when they are first needed. -/

namespace JavaWeave.Weave

open Syntax

inductive LockKind where
  | read
  | write
  | exclusive
  deriving DecidableEq, Repr

namespace LockKind

/-- The type of a field that holds such a lock. -/
def fieldType : LockKind → String
  | .read | .write => "java.util.concurrent.locks.ReadWriteLock"
  | .exclusive => "java.util.concurrent.locks.Lock"

/-- The class of a new lock. -/
def implementation : LockKind → String
  | .read | .write => "java.util.concurrent.locks.ReentrantReadWriteLock"
  | .exclusive => "java.util.concurrent.locks.ReentrantLock"

/-- Whether a field of the type may hold such a lock. -/
def accepts (kind : LockKind) (type : JavaType) : Bool :=
  type.isNamed (Names.simple kind.fieldType) || type.isNamed (Names.simple kind.implementation)

end LockKind

/-- A condition to wait on until a method says so. -/
structure AwaitPlan where
  condition : String
  method : String
  deriving DecidableEq, Repr

/-- What a lock annotation asks for. -/
structure LockPlan where
  kind : LockKind
  lock : String
  await : Option AwaitPlan := none
  signal : Option String := none
  deriving DecidableEq, Repr

/-- A name that must not be blank. -/
def notBlank (complaint : Diagnostic.Message) (name : String) : Handling String := do
  if (Text.strip name).isEmpty then misuseOfAnnotation complaint
  return name

/-- The value of a member that has been read. -/
def reading (result : Except MemberProblem α) : Handling α := member fun _ => result

/-- The name of the lock, which has a standard. -/
def lockNameMember (note : Annotation) (name standard : String) : Handling String := do
  match ← reading (note.string? name) with
  | some lock => notBlank .emptyLockName lock
  | none => return standard

def signalMember (note : Annotation) : Handling String := do
  notBlank .emptyConditionName ((← reading (note.string? "value")).getD "")

def awaitMember (note : Annotation) : Handling AwaitPlan := do
  let condition ← signalMember note
  let method := (← reading (note.string? "conditionMethod")).getD ""
  return { condition, method }

/-- Reads the annotation being carried out. -/
def LockPlan.read : Handling LockPlan := do
  let note ← occurrence
  let options ← options
  let exclusive : Handling String := lockNameMember note "lockName" options.lockName
  match ← annotationName with
  | "ReadLock" =>
    return { kind := .read, lock := ← lockNameMember note "value" options.readWriteLockName }
  | "WriteLock" =>
    return { kind := .write, lock := ← lockNameMember note "value" options.readWriteLockName }
  | "Await" =>
    let lock ← exclusive
    return { kind := .exclusive, lock, await := some (← awaitMember note) }
  | "Signal" =>
    let lock ← exclusive
    return { kind := .exclusive, lock, signal := some (← signalMember note) }
  | _ =>
    let awaits ← reading (note.annotations "await")
    let signals ← reading (note.annotations "signal")
    let lock ← exclusive
    let await ← awaits.head?.mapM awaitMember
    let signal ← signals.head?.mapM signalMember
    return { kind := .exclusive, lock, await, signal }

namespace LockPlan

/-- A field as seen from a method; a static method names the class. -/
def memberField (owner : String) (isStatic : Bool) (field : String) : Expression :=
  .field (if isStatic then .name owner else .self) field

/-- The lock that is taken. -/
def lockExpression (plan : LockPlan) (owner : String) (isStatic : Bool) : Expression :=
  let field := memberField owner isStatic plan.lock
  match plan.kind with
  | .read => .callOn field "readLock" []
  | .write => .callOn field "writeLock" []
  | .exclusive => field

/-- Waits until the condition holds. -/
def awaitStatement (owner : String) (isStatic : Bool) (await : AwaitPlan) : Statement :=
  let receiver : Expression := if isStatic then .name owner else .self
  .tryCatch
    [.whileLoop (.not (.callOn receiver await.method []))
      (.callOn (memberField owner isStatic await.condition) "await" [])]
    [⟨.final (.named "java.lang.InterruptedException") "$ex",
      [.throws (.make (.named "java.lang.RuntimeException") [.name "$ex"])]⟩]
    none

/-- The body between taking and giving back the lock. -/
def guardedBody (plan : LockPlan) (owner : String) (isStatic : Bool) (body : List Statement) :
    List Statement :=
  let lock := plan.lockExpression owner isStatic
  let guarded := plan.await.toList.map (awaitStatement owner isStatic) ++ body
  let signals := plan.signal.toList.map fun signal =>
    Statement.callOn (memberField owner isStatic signal) "signal" []
  [.callOn lock "lock" [], .tryCatch guarded [] (some (signals ++ [.callOn lock "unlock" []]))]

private def heldField (isStatic : Bool) (type name : String) (initial : Expression) : Field where
  modifiers := .ofList (if isStatic then [.privateAccess, .static, .final] else [.privateAccess, .final])
  type := .named type
  name := name
  initial := some initial

/-- The field of a new lock. -/
def lockField (plan : LockPlan) (isStatic : Bool) : Field :=
  heldField isStatic plan.kind.fieldType plan.lock (.make (.named plan.kind.implementation) [])

/-- The field of a new condition of the lock. -/
def conditionField (plan : LockPlan) (owner : String) (isStatic : Bool) (condition : String) : Field :=
  heldField isStatic "java.util.concurrent.locks.Condition" condition
    (.callOn (memberField owner isStatic plan.lock) "newCondition" [])

/-- The conditions that are used, in the order of their use. -/
def conditions (plan : LockPlan) : List String := plan.await.toList.map (·.condition) ++ plan.signal.toList

end LockPlan

def conditionLockHandler : Handler where
  name := "ConditionAndLock"
  trigger := .annotations ["ReadLock", "WriteLock", "Await", "Signal", "AwaitBeforeAndSignalAfter"]
  handle target := do
    let index ← methodTarget target
    let method ← methodAt index
    if method.isAbstract then misuseOfAnnotation .concreteMethodOnly
    let plan ← LockPlan.read
    if let some await := plan.await then
      unless ← hasMethod await.method (some 0) do misuse .conditionMethodMissing [await.method]
    let type ← edited
    if let some field := type.field? plan.lock then
      unless plan.kind.accepts field.type do misuse .lockFieldType [plan.lock, plan.kind.fieldType]
    unless ← hasField plan.lock do injectField (plan.lockField method.isStatic)
    for condition in plan.conditions do
      unless ← hasField condition do
        injectField (plan.conditionField type.name method.isStatic condition)
    schedule (.replaceBody index (plan.guardedBody type.name method.isStatic method.body))
    rebuild

end JavaWeave.Weave
