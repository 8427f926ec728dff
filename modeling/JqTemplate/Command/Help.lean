import JqTemplate.Command.Spec

namespace JqTemplate.Command

def Scope.operands : Scope → List String
  | .program => ["COMMAND", "[ARGS]..."]
  | .command c => c.operand?.toList.map Operand.shown

def Scope.usage (s : Scope) : String :=
  "Usage: " ++ String.intercalate " " (s.path :: "[OPTIONS]" :: s.operands)

def Scope.summary : Scope → String
  | .program => "Tooling for jQuery template (jqtpl) files."
  | .command c => c.summary

def Accepts.shown : Accepts → List String
  | .nothing => []
  | .choice _ names => ["[" ++ String.intercalate "|" names ++ "]"]
  | .file => ["FILE"]

def Opt.shown (o : Opt) : String := String.intercalate " " (o.name :: o.accepts.shown)

structure Entry where
  term : String
  summary : String
  deriving DecidableEq, Repr

def spaces (n : Nat) : String := String.ofList (List.replicate n ' ')

def widestTerm : Nat := 30

def explanationColumn (entries : List Entry) : Nat :=
  min widestTerm ((entries.map fun e => e.term.length).foldl max 0) + 2

def entryLines (column : Nat) (e : Entry) : List String :=
  if e.term.length + 2 ≤ column then
    ["  " ++ e.term ++ spaces (column - e.term.length) ++ e.summary]
  else ["  " ++ e.term, "  " ++ spaces column ++ e.summary]

def helpBlock (title : String) (entries : List Entry) : List String :=
  (title ++ ":") :: entries.flatMap (entryLines (explanationColumn entries))

def Scope.optionEntries (s : Scope) : List Entry := s.options.map fun o => ⟨o.shown, o.summary⟩

def commandEntries : List Entry := all.map fun c => ⟨c.name, c.summary⟩

def Scope.helpLines (s : Scope) : List String :=
  let commands := match s with
    | .program => "" :: helpBlock "Commands" commandEntries
    | .command _ => []
  [s.usage, "", "  " ++ s.summary, ""] ++ helpBlock "Options" s.optionEntries ++ commands

def ended (lines : List String) : String := String.join (lines.map fun line => line ++ "\n")

def Scope.help (s : Scope) : String := ended s.helpLines

def versionLine : String := programName ++ ", version " ++ Server.version

end JqTemplate.Command
