import JqTemplate.Keyword
import JqTemplate.Span
import JqTemplate.Text.Quoted

namespace JqTemplate

inductive Form where
  | content
  | directive (keyword : Keyword)
  | unknown (body : List Char)
  deriving DecidableEq, Repr

namespace Form

def ofBody (body : List Char) : Form :=
  match recognize body with
  | some k => .directive k
  | none => .unknown body

def name : Form → String
  | .content => "CONTENT"
  | .directive k => k.name
  | .unknown _ => "UNKNOWN"

def names : List String :=
  ["CONTENT", "COMMENT", "EACH", "EACH_END", "ELSE", "HTML", "IF", "IF_END", "PRINT", "TMPL",
   "VAR", "UNKNOWN"]

def body? : Form → Option (List Char)
  | .unknown body => some body
  | _ => none

/-- One line: the name, and for an unknown directive its body in quotes. -/
def describe : Form → List Char
  | .unknown body => "UNKNOWN(".toList ++ Text.quoted body ++ [')']
  | form => form.name.toList

end Form

structure Statement where
  form : Form
  span : Span
  deriving DecidableEq, Repr

namespace Statement

def keyword? (s : Statement) : Option Keyword :=
  match s.form with
  | .directive k => some k
  | _ => none

def isContent (s : Statement) : Bool := s.form = .content

def shift (s : Statement) (distance : Int) : Statement := { s with span := s.span.shift distance }

def describe (s : Statement) : List Char := s.form.describe ++ ' ' :: s.span.toString.toList

end Statement

end JqTemplate
