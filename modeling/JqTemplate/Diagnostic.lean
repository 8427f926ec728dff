import JqTemplate.Span

namespace JqTemplate

inductive Severity where
  | error
  | warning
  | note
  deriving DecidableEq, Repr

namespace Severity

def all : List Severity := [.error, .warning, .note]

def text : Severity → String
  | .error => "error"
  | .warning => "warning"
  | .note => "note"

def ofText? (s : String) : Option Severity := all.find? (fun v => v.text = s)

end Severity

inductive Code where
  | unknownDirective
  | missingExpression
  | unmatchedCloseIf
  | unmatchedCloseEach
  | unclosedIf
  | unclosedEach
  | strayElse
  | mismatchedClose
  | unreachableElse
  | other (text : String)
  deriving DecidableEq, Repr

def Code.text : Code → String
  | .unknownDirective => "E100"
  | .missingExpression => "E101"
  | .unmatchedCloseIf => "E200"
  | .unmatchedCloseEach => "E201"
  | .unclosedIf => "E202"
  | .unclosedEach => "E203"
  | .strayElse => "E204"
  | .mismatchedClose => "E205"
  | .unreachableElse => "W300"
  | .other text => text

inductive LabelStyle where
  | primary
  | secondary
  deriving DecidableEq, Repr

structure Label where
  span : Span
  message : String
  style : LabelStyle := .primary
  deriving DecidableEq, Repr

structure Suggestion where
  message : String
  replacement : String
  deriving DecidableEq, Repr

structure Diagnostic where
  severity : Severity
  code : Code
  message : String
  labels : List Label := []
  suggestions : List Suggestion := []
  notes : List String := []
  deriving DecidableEq, Repr

namespace Diagnostic

def span? (d : Diagnostic) : Option Span := d.labels.head?.map (fun l => l.span)

/-- The key by which diagnostics are ordered. A diagnostic without a place counts as
standing at the start of the text, and so does one whose place is empty. -/
def sortKey (d : Diagnostic) : Int :=
  match d.span? with
  | some span => if span.size = 0 then 0 else span.start
  | none => 0

def lengthFault? (d : Diagnostic) : Option Span.LengthFault :=
  match d.span?.map Span.length? with
  | some (.error fault) => some fault
  | _ => none

end Diagnostic

end JqTemplate
