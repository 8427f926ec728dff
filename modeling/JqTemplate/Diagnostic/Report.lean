import JqTemplate.Diagnostic
import JqTemplate.Position

/-! The report of a diagnostic: a header, then for each label its place, the source line
and a row of carets under the marked code, then notes and replacements. Colors are escape
sequences around the parts; without colors the parts are the same. -/
namespace JqTemplate

structure Source where
  name : String
  text : List Char
  deriving DecidableEq, Repr

namespace Report

inductive Style where
  | severity (s : Severity)
  | bold
  | frame
  | plain
  deriving DecidableEq, Repr

def Style.sequence : Style → String
  | .severity .error => "\x1b[1;31m"
  | .severity .warning => "\x1b[1;33m"
  | .severity .note => "\x1b[1;36m"
  | .bold => "\x1b[1m"
  | .frame => "\x1b[1;34m"
  | .plain => "\x1b[0m"

def paint (color : Bool) (style : Style) (part : String) : String :=
  if color then style.sequence ++ part ++ Style.plain.sequence else part

def repeated (n : Nat) (c : Char) : String := String.ofList (List.replicate n c)

def gutter (line : Nat) : String :=
  let digits := toString (line + 1)
  repeated (4 - digits.length) ' ' ++ digits

def header (color : Bool) (d : Diagnostic) : String :=
  paint color (.severity d.severity) (d.severity.text ++ "[" ++ d.code.text ++ "]") ++
    paint color .bold (": " ++ d.message)

/-- How many carets mark a label. Those of a label that ends on a later line stop at the end
of its first line. -/
def caretCount (start stop : Position) (line : List Char) : Nat :=
  if stop.line = start.line then max 1 (stop.column - start.column)
  else max 1 (line.length - start.column)

def labelLines (color : Bool) (severity : Severity) (source : Source) (label : Label) :
    List String :=
  let start := Position.ofOffset .codePoint source.text label.span.start
  let stop := Position.ofOffset .codePoint source.text label.span.stop
  let line := lineAt source.text start.line
  let bar := paint color .frame "   |"
  let place := s!"{source.name}:{start.line + 1}:{start.column + 1}"
  let carets := repeated (caretCount start stop line) '^'
  let rows :=
    ["  " ++ paint color .frame "-->" ++ " " ++ place,
     "  " ++ bar,
     "  " ++ paint color .frame (gutter start.line ++ " |") ++ " " ++ String.ofList line,
     "  " ++ bar ++ " " ++ repeated start.column ' ' ++ paint color (.severity severity) carets]
  if label.message.isEmpty then rows
  else rows ++ ["  " ++ bar ++ "   " ++ paint color (.severity severity) label.message]

def lines (color : Bool) (source : Source) (d : Diagnostic) : List String :=
  header color d :: d.labels.flatMap (labelLines color d.severity source) ++
    d.notes.map (fun note => "  " ++ paint color .frame "=" ++ " note: " ++ note) ++
    d.suggestions.map (fun s => "  " ++ paint color .frame "try:" ++ " " ++ s.replacement)

def render (color : Bool) (source : Source) (d : Diagnostic) : String :=
  String.intercalate "\n" (lines color source d)

end Report

end JqTemplate
