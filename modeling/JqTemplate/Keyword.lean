import JqTemplate.Text.Alphanumeric

/-! The ten directives of the template language and the rule by which the text between
the marks is recognized as one of them. -/
namespace JqTemplate

inductive Keyword where
  | closeEach
  | closeIf
  | openEach
  | elseBranch
  | html
  | openIf
  | template
  | binding
  | print
  | comment
  deriving DecidableEq, Repr

namespace Keyword

/-- Closing keywords stand before the opening ones. No body fits two entries, so the order
of the table decides nothing. -/
def table : List Keyword :=
  [.closeEach, .closeIf, .openEach, .elseBranch, .html, .openIf, .template, .binding, .print,
   .comment]

def letters : Keyword → List Char
  | .closeEach => ['/', 'e', 'a', 'c', 'h']
  | .closeIf => ['/', 'i', 'f']
  | .openEach => ['e', 'a', 'c', 'h']
  | .elseBranch => ['e', 'l', 's', 'e']
  | .html => ['h', 't', 'm', 'l']
  | .openIf => ['i', 'f']
  | .template => ['t', 'm', 'p', 'l']
  | .binding => ['v', 'a', 'r']
  | .print => ['=']
  | .comment => ['!']

def spelling (k : Keyword) : String := String.ofList k.letters

def name : Keyword → String
  | .closeEach => "EACH_END"
  | .closeIf => "IF_END"
  | .openEach => "EACH"
  | .elseBranch => "ELSE"
  | .html => "HTML"
  | .openIf => "IF"
  | .template => "TMPL"
  | .binding => "VAR"
  | .print => "PRINT"
  | .comment => "COMMENT"

def needsBody : Keyword → Bool
  | .openEach | .html | .openIf | .template | .binding | .print => true
  | .closeEach | .closeIf | .elseBranch | .comment => false

/-- A keyword that ends in a word character must not run into another one. -/
def needsBoundary (k : Keyword) : Bool := k.letters.getLast?.any Text.isWordChar

def rest? (k : Keyword) (body : List Char) : Option (List Char) :=
  if k.letters.isPrefixOf body then some (body.drop k.letters.length) else none

def acceptsRest (k : Keyword) (rest : List Char) : Bool :=
  !(k.needsBoundary && rest.head?.any Text.isWordChar) && !(k.needsBody && rest.isEmpty)

def fits (k : Keyword) (body : List Char) : Bool := (k.rest? body).any k.acceptsRest

end Keyword

def recognizeIn (entries : List Keyword) (body : List Char) : Option Keyword :=
  entries.find? (fun k => k.fits body)

def recognize (body : List Char) : Option Keyword := recognizeIn Keyword.table body

end JqTemplate
