import JavaWeave.Weave.Session

namespace JavaWeave.Weave

/-- What a handler reacts to. -/
inductive Trigger where
  /-- Annotations of these simple or qualified names. -/
  | annotations (names : List String)
  /-- Methods whose body yields. -/
  | yieldCall
  deriving DecidableEq, Repr

def Trigger.matches (note : Syntax.Annotation) : Trigger → Bool
  | .annotations names => names.any note.denotes
  | .yieldCall => false

structure Handler where
  /-- The name by which a handler can be switched off. -/
  name : String
  trigger : Trigger
  handle : Target → Handling Outcome

/-- The first handler that reacts to an annotation. -/
def handlerFor? (handlers : List Handler) (note : Syntax.Annotation) : Option Handler :=
  handlers.find? (·.trigger.matches note)

/-- The handler of methods that yield. -/
def yieldHandler? (handlers : List Handler) : Option Handler :=
  handlers.find? (·.trigger == .yieldCall)

end JavaWeave.Weave
