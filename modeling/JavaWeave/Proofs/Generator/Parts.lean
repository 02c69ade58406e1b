import JavaWeave.Generator.Lower
import Mathlib.Logic.Basic

namespace JavaWeave.Generator

open Syntax

namespace Nesting

def inLoop (nesting : Nesting) : Nesting := { nesting with loops := true }

def inSwitch (nesting : Nesting) : Nesting := { nesting with switches := true }

def inLabel (nesting : Nesting) (label : String) : Nesting := { nesting with labels := label :: nesting.labels }

end Nesting

/-- A statement without parts that ends what it stands in, or declares a type. -/
inductive Leaf where
  | throws (value : Expression)
  | returns (value : Option Expression)
  | returnsDefault
  | breaks (label : Option String)
  | continues (label : Option String)
  | localType (type : TypeDecl)
  | verbatim (text : String)

def Leaf.statement : Leaf → Statement
  | .throws value => .throws value
  | .returns value => .returns value
  | .returnsDefault => .returnsDefault
  | .breaks label => .breaks label
  | .continues label => .continues label
  | .localType type => .localType type
  | .verbatim text => .verbatim text

mutual

/-- The expressions that a statement evaluates, those of its parts included. -/
def expressionsIn : Statement → List Expression
  | .block body => expressionsInAll body
  | .expression e | .throws e | .returns (some e) => [e]
  | .declare ⟨_, _, _, _, initial⟩ => initial.toList
  | .ifElse condition whenTrue whenFalse =>
    condition :: expressionsIn whenTrue ++ (match whenFalse with | some s => expressionsIn s | none => [])
  | .whileLoop condition body => condition :: expressionsIn body
  | .doWhile body condition => condition :: expressionsIn body
  | .forLoop start condition update body =>
    expressionsInAll start ++ condition.toList ++ update ++ expressionsIn body
  | .forEach _ iterable body => iterable :: expressionsIn body
  | .switch selector cases => selector :: expressionsInCases cases
  | .tryCatch body catches finalizer =>
    expressionsInAll body ++ expressionsInCatches catches
      ++ (match finalizer with | some ss => expressionsInAll ss | none => [])
  | .synchronized lock body => lock :: expressionsInAll body
  | .labeled _ body => expressionsIn body
  | .returns none | .returnsDefault | .breaks _ | .continues _ | .localType _ | .empty | .verbatim _ => []

def expressionsInAll : List Statement → List Expression
  | [] => []
  | s :: rest => expressionsIn s ++ expressionsInAll rest

def expressionsInCases : List SwitchCase → List Expression
  | [] => []
  | ⟨label, body⟩ :: rest => label.toList ++ expressionsInAll body ++ expressionsInCases rest

def expressionsInCatches : List CatchClause → List Expression
  | [] => []
  | ⟨_, body⟩ :: rest => expressionsInAll body ++ expressionsInCatches rest

end

mutual

/-- The variables that a statement declares, with their types. -/
def localsIn : Statement → List (String × JavaType)
  | .block body | .synchronized _ body => localsInAll body
  | .declare ⟨_, _, type, name, _⟩ => [(name, type)]
  | .ifElse _ whenTrue whenFalse =>
    localsIn whenTrue ++ (match whenFalse with | some s => localsIn s | none => [])
  | .whileLoop _ body | .doWhile body _ | .labeled _ body => localsIn body
  | .forLoop start _ _ body => localsInAll start ++ localsIn body
  | .forEach ⟨_, _, type, name, _⟩ _ body => (name, type) :: localsIn body
  | .switch _ cases => localsInCases cases
  | .tryCatch body catches finalizer =>
    localsInAll body ++ localsInCatches catches
      ++ (match finalizer with | some ss => localsInAll ss | none => [])
  | .expression _ | .throws _ | .returns _ | .returnsDefault | .breaks _ | .continues _ | .localType _
  | .empty | .verbatim _ => []

def localsInAll : List Statement → List (String × JavaType)
  | [] => []
  | s :: rest => localsIn s ++ localsInAll rest

def localsInCases : List SwitchCase → List (String × JavaType)
  | [] => []
  | ⟨_, body⟩ :: rest => localsInAll body ++ localsInCases rest

def localsInCatches : List CatchClause → List (String × JavaType)
  | [] => []
  | ⟨⟨_, _, type, name⟩, body⟩ :: rest => (name, type) :: localsInAll body ++ localsInCatches rest

end

mutual

/-- The leaves of a statement, with what stands around each. -/
def leavesIn (nesting : Nesting) : Statement → List (Nesting × Leaf)
  | .block body | .synchronized _ body => leavesInAll nesting body
  | .ifElse _ whenTrue whenFalse =>
    leavesIn nesting whenTrue ++ (match whenFalse with | some s => leavesIn nesting s | none => [])
  | .whileLoop _ body | .doWhile body _ | .forEach _ _ body => leavesIn nesting.inLoop body
  | .forLoop start _ _ body => leavesInAll nesting.inLoop start ++ leavesIn nesting.inLoop body
  | .switch _ cases => leavesInCases nesting.inSwitch cases
  | .tryCatch body catches finalizer =>
    leavesInAll nesting body ++ leavesInCatches nesting catches
      ++ (match finalizer with | some ss => leavesInAll nesting ss | none => [])
  | .labeled label body => leavesIn (nesting.inLabel label) body
  | .expression _ | .declare _ | .empty => []
  | .throws e => [(nesting, .throws e)]
  | .returns value => [(nesting, .returns value)]
  | .returnsDefault => [(nesting, .returnsDefault)]
  | .breaks label => [(nesting, .breaks label)]
  | .continues label => [(nesting, .continues label)]
  | .localType type => [(nesting, .localType type)]
  | .verbatim text => [(nesting, .verbatim text)]

def leavesInAll (nesting : Nesting) : List Statement → List (Nesting × Leaf)
  | [] => []
  | s :: rest => leavesIn nesting s ++ leavesInAll nesting rest

def leavesInCases (nesting : Nesting) : List SwitchCase → List (Nesting × Leaf)
  | [] => []
  | ⟨_, body⟩ :: rest => leavesInAll nesting body ++ leavesInCases nesting rest

def leavesInCatches (nesting : Nesting) : List CatchClause → List (Nesting × Leaf)
  | [] => []
  | ⟨_, body⟩ :: rest => leavesInAll nesting body ++ leavesInCatches nesting rest

end

/-- Whether a statement declares a variable. -/
def isDeclaration : Statement → Bool
  | .declare _ => true
  | _ => false

mutual

/-- The statement with other leaves. -/
def revise (leaf : Nesting → Leaf → Statement) (nesting : Nesting) : Statement → Statement
  | .block body => .block (reviseAll leaf nesting body)
  | .ifElse condition whenTrue whenFalse =>
    .ifElse condition (revise leaf nesting whenTrue)
      (match whenFalse with | some s => some (revise leaf nesting s) | none => none)
  | .whileLoop condition body => .whileLoop condition (revise leaf nesting.inLoop body)
  | .doWhile body condition => .doWhile (revise leaf nesting.inLoop body) condition
  | .forLoop start condition update body =>
    .forLoop (reviseAll leaf nesting.inLoop start) condition update (revise leaf nesting.inLoop body)
  | .forEach item iterable body => .forEach item iterable (revise leaf nesting.inLoop body)
  | .switch selector cases => .switch selector (reviseCases leaf nesting.inSwitch cases)
  | .tryCatch body catches finalizer =>
    .tryCatch (reviseAll leaf nesting body) (reviseCatches leaf nesting catches)
      (match finalizer with | some ss => some (reviseAll leaf nesting ss) | none => none)
  | .synchronized lock body => .synchronized lock (reviseAll leaf nesting body)
  | .labeled label body => .labeled label (revise leaf (nesting.inLabel label) body)
  | .expression e => .expression e
  | .declare decl => .declare decl
  | .empty => .empty
  | .throws e => leaf nesting (.throws e)
  | .returns value => leaf nesting (.returns value)
  | .returnsDefault => leaf nesting .returnsDefault
  | .breaks label => leaf nesting (.breaks label)
  | .continues label => leaf nesting (.continues label)
  | .localType type => leaf nesting (.localType type)
  | .verbatim text => leaf nesting (.verbatim text)

def reviseAll (leaf : Nesting → Leaf → Statement) (nesting : Nesting) : List Statement → List Statement
  | [] => []
  | s :: rest => revise leaf nesting s :: reviseAll leaf nesting rest

def reviseCases (leaf : Nesting → Leaf → Statement) (nesting : Nesting) :
    List SwitchCase → List SwitchCase
  | [] => []
  | ⟨label, body⟩ :: rest => ⟨label, reviseAll leaf nesting body⟩ :: reviseCases leaf nesting rest

def reviseCatches (leaf : Nesting → Leaf → Statement) (nesting : Nesting) :
    List CatchClause → List CatchClause
  | [] => []
  | ⟨parameter, body⟩ :: rest => ⟨parameter, reviseAll leaf nesting body⟩ :: reviseCatches leaf nesting rest

end

end JavaWeave.Generator
