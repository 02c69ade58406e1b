import JavaWeave.Weave.Handler

/-! `@Rethrow` and `@Rethrows`: exceptions that leave the body of a method are wrapped in others. The message
of the new exception may refer to parameters as `$name`; it is put together when the exception is thrown. -/

namespace JavaWeave.Weave

open Syntax

/-- A part of a message: one plain character, or a reference to a parameter. -/
inductive MessagePart where
  | plain (character : Char)
  | reference (name : String)
  deriving DecidableEq, Repr

/-- Whether a reference may begin with the character. -/
def startsReference (c : Char) : Bool := c.isAlpha || c == '_'

def continuesReference (c : Char) : Bool := c.isAlphanum || c == '_'

/-- The parts of a message. A reference is `$` and the longest name behind it. -/
def messageParts : List Char → List MessagePart
  | [] => []
  | '$' :: first :: rest =>
    if startsReference first then
      .reference (String.ofList (first :: rest.takeWhile continuesReference))
        :: messageParts (rest.dropWhile continuesReference)
    else .plain '$' :: messageParts (first :: rest)
  | c :: rest => .plain c :: messageParts rest
termination_by text => text.length
decreasing_by
  · have := (List.dropWhile_sublist continuesReference (l := rest)).length_le
    simp only [List.length_cons]
    omega
  · simp
  · simp

/-- A message that is formatted at run time. -/
structure FormatMessage where
  format : String
  /-- The parameters that the format refers to, in the order of its slots. -/
  arguments : List String
  /-- References that name no parameter; the format keeps them as they are. -/
  unknown : List String
  deriving DecidableEq, Repr

/-- The text of a part in a format. -/
def MessagePart.format (parameters : List String) : MessagePart → List Char
  | .plain c => if c = '%' then ['%', '%'] else [c]
  | .reference name => if parameters.contains name then ['%', 's'] else '$' :: name.toList

/-- Reads a message, given the names of the parameters. -/
def FormatMessage.parse (parameters : List String) (text : String) : FormatMessage :=
  let parts := messageParts text.toList
  let references := parts.filterMap fun
    | .plain _ => none
    | .reference name => some name
  { format := String.ofList (parts.flatMap (MessagePart.format parameters))
    arguments := references.filter parameters.contains
    unknown := references.filter fun name => !parameters.contains name }

/-- Exceptions to catch and what to throw in their place. -/
structure RethrowGroup where
  /-- The caught types; none stands for every checked exception. -/
  caught : List JavaType
  wrapper : JavaType
  message : Option String

def RethrowGroup.read (note : Annotation) : Except MemberProblem RethrowGroup := do
  let caught ← note.classes "value"
  let wrapper := (← note.class? "as").getD (.named "java.lang.RuntimeException")
  let message := (← note.string? "message").filter fun text => !text.isEmpty
  return { caught, wrapper, message }

/-- Throws the wrapper of a caught exception. -/
def wrapCaught (wrapper : JavaType) (message : Option FormatMessage) (caught : String) : Statement :=
  let text := message.toList.map fun message =>
    .callOn (.name "java.lang.String") "format"
      (.string message.format :: message.arguments.map .name)
  .throws (.make wrapper (text ++ [.name caught]))

/-- What a group catches and what it does then. Where no types are given, unchecked exceptions pass. -/
def RethrowGroup.responses (group : RethrowGroup) (message : Option FormatMessage) :
    List (JavaType × (String → Statement)) :=
  if group.caught.isEmpty then
    [(.named "java.lang.RuntimeException", fun caught => .throws (.name caught)),
     (.named "java.lang.Exception", wrapCaught group.wrapper message)]
  else group.caught.map fun type => (type, wrapCaught group.wrapper message)

/-- The body with a clause for each response; caught exceptions are called `$e1`, `$e2` and so on. -/
def rethrowBody (body : List Statement) (groups : List (RethrowGroup × Option FormatMessage)) :
    List Statement :=
  let responses := groups.flatMap fun (group, message) => group.responses message
  let clauses := (indexed responses).map fun (index, type, respond) =>
    let caught := "$e" ++ toString (index + 1)
    CatchClause.mk (.final type caught) [respond caught]
  [.tryCatch body clauses none]

def rethrowHandler : Handler where
  name := "Rethrow"
  trigger := .annotations ["Rethrow", "Rethrows"]
  handle target := do
    let index ← methodTarget target
    let method ← methodAt index
    if method.isAbstract then misuseOfAnnotation .concreteMethodOnly
    let groups ←
      if (← annotationName) == "Rethrows" then
        member fun note => do (← note.annotations "value").mapM RethrowGroup.read
      else member fun note => return [← RethrowGroup.read note]
    let parameters := method.parameters.map (·.name)
    let prepared := groups.map fun group => (group, group.message.map (FormatMessage.parse parameters))
    for (_, message) in prepared do
      for name in (message.map (·.unknown)).getD [] do warn .rethrowUnknownParameter [name]
    schedule (.replaceBody index (rethrowBody method.body prepared))
    rebuild

end JavaWeave.Weave
