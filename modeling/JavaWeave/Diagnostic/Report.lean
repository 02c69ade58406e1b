import JavaWeave.Diagnostic.Message
import JavaWeave.Span

namespace JavaWeave

/-- A message with its text filled in and the place it is about. -/
structure Diagnostic where
  file : Option String := none
  span : Option Span := none
  text : String
  code : Nat
  severity : Diagnostic.Severity
  deriving DecidableEq, Repr

namespace Diagnostic

/-- A diagnostic that names no place. -/
def of (message : Message) (arguments : List String) : Diagnostic where
  text := message.text arguments
  code := message.code
  severity := message.severity

/-- The diagnostic placed in a file. -/
def located (diagnostic : Diagnostic) (file : String) (span : Option Span) : Diagnostic :=
  { diagnostic with file := some file, span }

def isError (diagnostic : Diagnostic) : Bool := diagnostic.severity == .error

def isWarning (diagnostic : Diagnostic) : Bool := diagnostic.severity == .warning

/-- The reported line: `File(12): error LPG1001: text`, without the place if there is none. -/
def line (diagnostic : Diagnostic) : String :=
  let place := match diagnostic.file, diagnostic.span with
    | some file, some span => file ++ "(" ++ toString span.start ++ "): "
    | some file, none => file ++ ": "
    | none, _ => ""
  place ++ diagnostic.severity.word ++ " LPG" ++ toString diagnostic.code ++ ": " ++ diagnostic.text

/-- Whether one file name comes no later than another; no file comes first. -/
def fileLe : Option String → Option String → Bool
  | none, _ => true
  | some _, none => false
  | some a, some b => a ≤ b

/-- The order of reports: by file, then by the first position, which is zero if unknown. -/
def precedes (a b : Diagnostic) : Bool :=
  if a.file == b.file then
    (a.span.map (·.start)).getD 0 ≤ (b.span.map (·.start)).getD 0
  else fileLe a.file b.file

/-- Sorts for a report; diagnostics at the same place keep their order. -/
def sort (diagnostics : List Diagnostic) : List Diagnostic :=
  diagnostics.mergeSort precedes

def hasErrors (diagnostics : List Diagnostic) : Bool := diagnostics.any isError

end Diagnostic

end JavaWeave
