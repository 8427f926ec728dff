import JqTemplate.Block.Nesting
import JqTemplate.Order
import JqTemplate.Statement.Stream
import JqTemplate.Text.Similarity

namespace JqTemplate

structure CheckConfig where
  structural : Bool := true
  unknown : Severity := .error
  deriving DecidableEq, Repr

structure CheckResult where
  diagnostics : List Diagnostic := []
  blocks : List Block := []

def CheckResult.hasErrors (r : CheckResult) : Bool :=
  r.diagnostics.any (fun d => d.severity = .error)

namespace Unknown

def isNameStart (c : Char) : Bool := c.isAlpha || c = '_'

/-- The word at the head of a body, after blanks: a symbol keyword, or a name that may have
a slash in front. -/
def headOf : List Char → Option (List Char)
  | [] => none
  | c :: rest =>
    if c = '=' ∨ c = '!' then some [c]
    else if c = '/' then
      match rest with
      | d :: more => if isNameStart d then some (c :: d :: more.takeWhile Text.isWordChar) else none
      | [] => none
    else if isNameStart c then some (c :: rest.takeWhile Text.isWordChar)
    else none

def head? (body : List Char) : Option (List Char) := headOf (Text.trimStart body)

def isKeyword (word : List Char) : Bool := Keyword.table.any (fun k => k.letters = word)

def isBodyKeyword (word : List Char) : Bool :=
  Keyword.table.any (fun k => k.needsBody && decide (k.letters = word))

def wordKeywords : List (List Char) :=
  (Keyword.table.filter (fun k => k.needsBoundary)).map (fun k => k.letters)

def replaceHead (body word replacement : List Char) : List Char :=
  Text.leadingBlanks body ++ replacement ++ (Text.trimStart body).drop word.length

def withoutHead (severity : Severity) (span : Span) (body : List Char) : Diagnostic :=
  { severity := severity
    code := .unknownDirective
    message := "unknown directive " ++ cited (String.ofList body)
    labels :=
      [{ span := span,
         message := if body.all Text.isBlank then "empty directive"
           else "not a directive keyword" }] }

def withoutExpression (severity : Severity) (span : Span) (word : String) : Diagnostic :=
  { severity := severity
    code := .missingExpression
    message := "'" ++ word ++ "' requires an expression"
    labels := [{ span := span, message := "missing expression" }]
    suggestions := [⟨"add an expression", marked (word ++ " ...")⟩] }

def withHead (severity : Severity) (span : Span) (word : String) (suggestions : List Suggestion)
    (notes : List String) : Diagnostic :=
  { severity := severity
    code := .unknownDirective
    message := "unknown directive '" ++ word ++ "'"
    labels := [{ span := span, message := "not a directive keyword" }]
    suggestions := suggestions
    notes := notes }

def diagnose (severity : Severity) (span : Span) (body : List Char) : Diagnostic :=
  match head? body with
  | none => withoutHead severity span body
  | some word =>
    let spelt := String.ofList word
    if isBodyKeyword word && decide (body = word) then withoutExpression severity span spelt
    else if isKeyword word && body.head?.any Text.isBlank then
      withHead severity span spelt
        [⟨"remove the leading whitespace", marked (String.ofList (Text.trimStart body))⟩]
        ["directive keywords must directly follow '" ++ openMark ++ "'"]
    else
      match Text.closest word wordKeywords with
      | some near =>
        withHead severity span spelt
          [⟨"did you mean '" ++ String.ofList near ++ "'?",
            marked (String.ofList (replaceHead body word near))⟩] []
      | none => withHead severity span spelt [] []

end Unknown

def unknownFinding? (config : CheckConfig) (s : Statement) : Option Diagnostic :=
  match s.form with
  | .unknown body => some (Unknown.diagnose config.unknown s.span body)
  | _ => none

/-- One statement: unknown directives are reported always, block structure only on demand.
The blocks themselves are built in either case. -/
def checkStep (config : CheckConfig) (source : List Char) (n : Nesting) (s : Statement) :
    Nesting :=
  match unknownFinding? config s with
  | some d => n.report d
  | none =>
    let next := n.step source s
    if config.structural then next else { next with found := n.found }

def checkNesting (config : CheckConfig) (source : List Char) (statements : List Statement) :
    Nesting :=
  statements.foldl (checkStep config source) Nesting.empty

def findings (config : CheckConfig) (source : List Char) (statements : List Statement) :
    List Diagnostic :=
  let n := checkNesting config source statements
  if config.structural then n.findings else n.found

def checkStatements (config : CheckConfig) (source : List Char) (statements : List Statement) :
    CheckResult :=
  { diagnostics := sortByKey Diagnostic.sortKey (findings config source statements)
    blocks := (checkNesting config source statements).forest }

/-- The result, unless a finding has a place without a length: then it cannot be ordered. -/
def checkStatements? (config : CheckConfig) (source : List Char) (statements : List Statement) :
    Except Span.LengthFault CheckResult :=
  match (findings config source statements).findSome? Diagnostic.lengthFault? with
  | some fault => .error fault
  | none => .ok (checkStatements config source statements)

def check (config : CheckConfig) (text : List Char) : CheckResult :=
  checkStatements config text (parse text)

/-- A checker that can be used for one text after the other. Its findings and its source are those of
the last one. -/
structure Checker where
  config : CheckConfig
  diagnostics : List Diagnostic := []
  source : List Char := []
  deriving DecidableEq

namespace Checker

def takingUp (c : Checker) (source : List Char) : Checker :=
  { c with diagnostics := [], source := source }

def goOver (c : Checker) (statements : List Statement) : CheckResult × Checker :=
  let n := statements.foldl (checkStep c.config c.source)
    { Nesting.empty with found := c.diagnostics }
  let found := if c.config.structural then n.findings else n.found
  let sorted := sortByKey Diagnostic.sortKey found
  (⟨sorted, n.forest⟩, { c with diagnostics := sorted })

def check (c : Checker) (statements : List Statement) (source : List Char) :
    CheckResult × Checker :=
  (c.takingUp source).goOver statements

/-- What the checker found in other texts is no part of the result. -/
theorem check_eq (c : Checker) (statements : List Statement) (source : List Char) :
    c.check statements source = (checkStatements c.config source statements,
      ⟨c.config, (checkStatements c.config source statements).diagnostics, source⟩) := rfl

end Checker

end JqTemplate
