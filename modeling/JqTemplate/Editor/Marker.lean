import JqTemplate.Diagnostic
import JqTemplate.Editor.Range

namespace JqTemplate.Editor

/-- A marker has a code unless it reports a failure of the analysis itself. -/
structure Marker where
  range : Range
  severity : Severity
  code : Option String
  message : String
  deriving DecidableEq, Repr

def Marker.origin : String := "jqtpl"

/-- The message carries the code, and the first suggestion in parentheses. -/
def markerMessage (d : Diagnostic) : String :=
  let base := "[" ++ d.code.text ++ "] " ++ d.message
  match d.suggestions with
  | [] => base
  | s :: _ => base ++ " (" ++ s.message ++ ")"

def Marker.ofDiagnostic (text : List Char) (d : Diagnostic) : Marker :=
  { range := match d.span? with
      | some span => Range.ofSpan text span
      | none => Range.origin
    severity := d.severity
    code := some d.code.text
    message := markerMessage d }

def Marker.ofDiagnostic? (text : List Text.CodePoint) (d : Diagnostic) :
    Except PlaceFault Marker :=
  let marker := Marker.ofDiagnostic (Text.shown text) d
  match d.span? with
  | some span => (checkPlace text span).map fun _ => marker
  | none => .ok marker

def Marker.internal (what cause : String) : Marker :=
  { range := Range.origin
    severity := .error
    code := none
    message := "[internal] " ++ what ++ ": " ++ cause }

def severityGrade : Severity → Nat
  | .error => 1
  | .warning => 2
  | .note => 3

end JqTemplate.Editor
