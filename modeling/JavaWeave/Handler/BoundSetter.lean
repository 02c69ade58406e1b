import JavaWeave.Handler.FluentSetter

/-! `@BoundSetter`: setters that announce each change under the name of the property. The objects that keep the
listeners are made when they are first needed, under a lock, and serve all properties of a class. -/

namespace JavaWeave.Weave

open Syntax

/-- The members of one kind of change support. -/
structure ChangeSupport where
  field : String
  lock : String
  getter : String
  type : String
  listener : String
  add : String
  remove : String
  fire : String
  thrown : List String := []

def vetoException : JavaType := .named "java.beans.PropertyVetoException"

def propertySupport : ChangeSupport where
  field := "$propertyChangeSupport"
  lock := "$propertyChangeSupportLock"
  getter := "getPropertyChangeSupport"
  type := "java.beans.PropertyChangeSupport"
  listener := "java.beans.PropertyChangeListener"
  add := "addPropertyChangeListener"
  remove := "removePropertyChangeListener"
  fire := "firePropertyChange"

def vetoableSupport : ChangeSupport where
  field := "$vetoableChangeSupport"
  lock := "$vetoableChangeSupportLock"
  getter := "getVetoableChangeSupport"
  type := "java.beans.VetoableChangeSupport"
  listener := "java.beans.VetoableChangeListener"
  add := "addVetoableChangeListener"
  remove := "removeVetoableChangeListener"
  fire := "fireVetoableChange"
  thrown := [vetoException.name]

namespace ChangeSupport

/-- The field that holds the support object. -/
def supportField (support : ChangeSupport) : Field where
  modifiers := .ofList [.privateAccess, .transient, .volatile]
  type := .named support.type
  name := support.field

/-- The field that guards the making of the support object. -/
def lockField (support : ChangeSupport) : Field where
  modifiers := .ofList [.privateAccess, .final]
  type := JavaType.object.arrayOf
  name := support.lock
  initial := some (.createArray .object [.int 0] 0 none)

/-- Makes the support object at the first call and gives it back. -/
def getterMethod (support : ChangeSupport) : Method :=
  let missing : Expression := .binary .eq (.ofSelf support.field) .null
  { modifiers := .ofList [.privateAccess]
    returnType := .named support.type
    name := support.getter
    body := [
      .whenever missing (.synchronized (.ofSelf support.lock) [
        .whenever missing
          (.set (.ofSelf support.field) (.make (.named support.type) [.self]))]),
      .returns (some (.ofSelf support.field))] }

/-- Hands a listener on to the support object. -/
def registration (support : ChangeSupport) (name : String) : Method where
  modifiers := .ofList [.publicAccess]
  returnType := .void
  name := name
  parameters := [.final (.named support.listener) "listener"]
  body := [.callOn (.callOn .self support.getter []) name [.name "listener"]]

/-- Announces a change through the support object. -/
def fireMethod (support : ChangeSupport) : Method where
  modifiers := .ofList [.protectedAccess]
  returnType := .void
  name := support.fire
  parameters := [.final .string "propertyName", .final .object "oldValue", .final .object "newValue"]
  thrown := support.thrown.map .named
  body := [.callOn (.callOn .self support.getter []) support.fire
    [.name "propertyName", .name "oldValue", .name "newValue"]]

/-- Adds what a class does not have of the support. -/
def inject (support : ChangeSupport) : Handling Unit := do
  unless ← hasField support.field do injectField support.supportField
  unless ← hasField support.lock do injectField support.lockField
  unless ← hasMethod support.getter (some 0) do injectMethod support.getterMethod
  for name in [support.add, support.remove] do
    unless ← hasMethod name (some 1) do injectMethod (support.registration name)
  unless ← hasMethod support.fire (some 3) do injectMethod support.fireMethod

end ChangeSupport

/-- What a setter does about listeners that object to a change. -/
inductive Veto where
  | none
  /-- The setter passes the objection on. -/
  | throws
  /-- The setter leaves the field as it is. -/
  | ignores
  deriving DecidableEq, Repr

/-- The constant that holds the name of a field's property. -/
def propertyConstant (field : Field) : String := "PROP_" ++ Names.constantCase field.name

def boundSetter (access : Access) (veto : Veto) (field : Field) : Method :=
  let constant := propertyConstant field
  let announce (support : ChangeSupport) : Statement :=
    .callOn .self support.fire [.name constant, .name "$old", .name field.name]
  let ask : List Statement := match veto with
    | .none => []
    | .throws => [announce vetoableSupport]
    | .ignores =>
      [.tryCatch [announce vetoableSupport] [⟨.final vetoException "$e", [.returns none]⟩] none]
  { modifiers := access.modifiers
    returnType := .void
    name := Names.setterName field.name field.type.isBoolean
    parameters := [.final field.type field.name]
    thrown := if veto == .throws then [vetoException] else []
    body := .declare (.final field.type "$old" (.ofSelf field.name))
      :: (ask ++ [.set (.ofSelf field.name) (.name field.name), announce propertySupport]) }

def boundSetterHandler : Handler where
  name := "BoundSetter"
  trigger := .annotations ["BoundSetter"]
  handle target := do
    if (← edited).isInterface then misuseOfAnnotation .notOnInterfaces
    let access ← wantedAccess .publicAccess
    let vetoable := (← member (·.bool? "vetoable")).getD false
    let throwing := (← member (·.bool? "throwVetoException")).getD false
    let veto : Veto := if throwing then .throws else if vetoable then .ignores else .none
    let fields ← setterFields "BoundSetter" target
    propertySupport.inject
    if veto != .none then vetoableSupport.inject
    for field in fields do
      let constant := propertyConstant field
      unless ← hasField constant do
        injectField {
          modifiers := .ofList [.publicAccess, .static, .final]
          type := .string
          name := constant
          initial := some (.string field.name) }
      let setter := boundSetter access veto field
      if ← hasMethod setter.name (some 1) then warn .methodExists [setter.name]
      else injectMethod setter
    rebuild

end JavaWeave.Weave
