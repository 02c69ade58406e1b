import JavaWeave.Syntax.Tree

namespace JavaWeave.Generator

open Syntax

mutual

/-- Whether a statement holds a `break`, `continue` or `return` outside nested types. -/
def hasJumps : Statement → Bool
  | .breaks _ | .continues _ | .returns _ => true
  | .block body | .synchronized _ body => anyHasJumps body
  | .ifElse _ whenTrue whenFalse =>
    hasJumps whenTrue || (match whenFalse with | some s => hasJumps s | none => false)
  | .whileLoop _ body | .doWhile body _ | .forEach _ _ body | .labeled _ body => hasJumps body
  | .forLoop start _ _ body => anyHasJumps start || hasJumps body
  | .switch _ cases => casesHaveJumps cases
  | .tryCatch body catches finalizer =>
    anyHasJumps body || catchesHaveJumps catches
      || (match finalizer with | some ss => anyHasJumps ss | none => false)
  | .expression _ | .declare _ | .returnsDefault | .throws _ | .localType _ | .empty | .verbatim _ => false

def anyHasJumps : List Statement → Bool
  | [] => false
  | s :: rest => hasJumps s || anyHasJumps rest

def casesHaveJumps : List SwitchCase → Bool
  | [] => false
  | ⟨_, body⟩ :: rest => anyHasJumps body || casesHaveJumps rest

def catchesHaveJumps : List CatchClause → Bool
  | [] => false
  | ⟨_, body⟩ :: rest => anyHasJumps body || catchesHaveJumps rest

end

mutual

/-- Whether a statement holds a `break` with the label or, if there is none, a plain `break` that no loop or
switch inside it takes. The flag says whether such a one stands around the statement already. -/
def breaksOut (label : Option String) (taken : Bool) : Statement → Bool
  | .breaks target =>
    match target, label with
    | none, none => !taken
    | some target, some label => target == label
    | _, _ => false
  | .whileLoop _ body | .doWhile body _ | .forEach _ _ body => breaksOut label true body
  | .forLoop start _ _ body => anyBreaksOut label true start || breaksOut label true body
  | .switch _ cases => casesBreakOut label true cases
  | .block body | .synchronized _ body => anyBreaksOut label taken body
  | .ifElse _ whenTrue whenFalse =>
    breaksOut label taken whenTrue
      || (match whenFalse with | some s => breaksOut label taken s | none => false)
  | .labeled _ body => breaksOut label taken body
  | .tryCatch body catches finalizer =>
    anyBreaksOut label taken body || catchesBreakOut label taken catches
      || (match finalizer with | some ss => anyBreaksOut label taken ss | none => false)
  | .expression _ | .declare _ | .returns _ | .returnsDefault | .throws _ | .continues _ | .localType _
  | .empty | .verbatim _ => false

def anyBreaksOut (label : Option String) (taken : Bool) : List Statement → Bool
  | [] => false
  | s :: rest => breaksOut label taken s || anyBreaksOut label taken rest

def casesBreakOut (label : Option String) (taken : Bool) : List SwitchCase → Bool
  | [] => false
  | ⟨_, body⟩ :: rest => anyBreaksOut label taken body || casesBreakOut label taken rest

def catchesBreakOut (label : Option String) (taken : Bool) : List CatchClause → Bool
  | [] => false
  | ⟨_, body⟩ :: rest => anyBreaksOut label taken body || catchesBreakOut label taken rest

end

/-- The condition of a loop that is never left through it. -/
def isTrue : Expression → Bool
  | .literal (.bool true) => true
  | _ => false

mutual

/-- Whether a statement may run to its end. `true` may be too cautious. Of a `do` loop only the body
is asked: a `continue` that reaches its condition does not count. -/
def canComplete : Statement → Bool
  | .returns _ | .returnsDefault | .throws _ | .breaks _ | .continues _ => false
  | .block body | .synchronized _ body => allComplete body
  | .ifElse _ whenTrue whenFalse =>
    match whenFalse with
    | some s => canComplete whenTrue || canComplete s
    | none => true
  | .whileLoop condition body => !isTrue condition || breaksOut none false body
  | .doWhile body condition => (canComplete body && !isTrue condition) || breaksOut none false body
  | .forLoop _ condition _ body =>
    (match condition with | some e => !isTrue e | none => false) || breaksOut none false body
  | .labeled label body => canComplete body || breaksOut (some label) false body
  | .switch _ cases =>
    !cases.any (·.label.isNone) || lastCompletes cases || endsWithoutBody cases
      || casesBreakOut none false cases
  | .tryCatch body catches finalizer =>
    (match finalizer with | some ss => allComplete ss | none => true)
      && (allComplete body || anyCatchCompletes catches)
  | .expression _ | .declare _ | .forEach .. | .localType _ | .empty | .verbatim _ => true
where
  /-- Whether the last label of a switch has no statements. -/
  endsWithoutBody (cases : List SwitchCase) : Bool :=
    match cases.getLast? with
    | some group => group.body.isEmpty
    | none => false

def allComplete : List Statement → Bool
  | [] => true
  | s :: rest => canComplete s && allComplete rest

/-- Whether the last group that has statements may run to its end. -/
def lastCompletes : List SwitchCase → Bool
  | [] => true
  | ⟨_, body⟩ :: rest => if rest.all (·.body.isEmpty) then allComplete body else lastCompletes rest

def anyCatchCompletes : List CatchClause → Bool
  | [] => false
  | ⟨_, body⟩ :: rest => allComplete body || anyCatchCompletes rest

end

end JavaWeave.Generator
