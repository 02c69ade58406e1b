import JavaWeave.Diagnostic.Report

namespace JavaWeave.Weave

/-- A member of an annotation that cannot be read. -/
inductive MemberProblem where
  | shape (member expected : String)
  | unknownConstant (member value : String)
  deriving DecidableEq, Repr

namespace MemberProblem

def member : MemberProblem → String
  | .shape member _ => member
  | .unknownConstant member _ => member

def message : MemberProblem → String
  | .shape member expected => "member '" ++ member ++ "' must be " ++ expected
  | .unknownConstant member value =>
    "member '" ++ member ++ "' has unknown constant '" ++ value ++ "'"

end MemberProblem

/-- A request that the weaver itself cannot carry out. -/
inductive InternalProblem where
  /-- A default return outside every method. -/
  | noEnclosingMethod (context : String)
  | outOfRange (what : String) (index : Nat)
  | unsupportedTarget
  | unknownState (state : Int)
  deriving DecidableEq, Repr

def InternalProblem.message : InternalProblem → String
  | .noEnclosingMethod context => "'return default' in " ++ context ++ " has no enclosing method"
  | .outOfRange what index => what ++ " index " ++ toString index ++ " is out of range"
  | .unsupportedTarget => "handler invoked on an unsupported target"
  | .unknownState state => "state " ++ toString state ++ " has no case in the state machine"

inductive Problem where
  /-- The annotation is used where or how it must not be. -/
  | usage (message : Diagnostic.Message) (arguments : List String)
  | member (problem : MemberProblem)
  | internal (problem : InternalProblem)
  deriving DecidableEq, Repr

namespace Problem

def message : Problem → String
  | .usage message arguments => message.text arguments
  | .member problem => problem.message
  | .internal problem => problem.message

/-- The report of a problem with the annotation of the given name. -/
def diagnostic (annotationName : String) : Problem → Diagnostic
  | .usage message arguments => .of message arguments
  | .member problem => .of .invalidValue [problem.member, problem.message]
  | .internal problem => .of .internalFailure [annotationName, problem.message]

end Problem

end JavaWeave.Weave
