import JqTemplate.Server.Session

namespace JqTemplate

inductive Command where
  | check
  | highlight
  | lsp
  | parse
  deriving DecidableEq, Repr

namespace Command

inductive Opt where
  | format
  | help
  | json
  | logFile
  | logLevel
  | noColor
  | plain
  | version
  deriving DecidableEq, Repr

inductive Accepts where
  | nothing
  | choice (foldsCase : Bool) (names : List String)
  | file
  deriving DecidableEq, Repr

inductive PathKind where
  | file
  | any
  deriving DecidableEq, Repr

structure Operand where
  name : String
  kind : PathKind
  default : Option String
  deriving DecidableEq, Repr

inductive Scope where
  | program
  | command (c : Command)
  deriving DecidableEq, Repr

def programName : String := "jqtpl"

def all : List Command := [.check, .highlight, .lsp, .parse]

def name : Command → String
  | .check => "check"
  | .highlight => "highlight"
  | .lsp => "lsp"
  | .parse => "parse"

def ofName? (s : String) : Option Command := all.find? fun c => c.name = s

def summary : Command → String
  | .check => "Report unknown directives and unbalanced blocks."
  | .highlight => "Print a template with syntax highlighting."
  | .lsp => "Start the jqtpl language server."
  | .parse => "Print the statements of a template."

def options : Command → List Opt
  | .check => [.noColor, .help]
  | .highlight => [.format, .plain, .help]
  | .lsp => [.logLevel, .logFile, .help]
  | .parse => [.json, .help]

def operand? : Command → Option Operand
  | .check => some ⟨"PATH", .any, some "."⟩
  | .highlight | .parse => some ⟨"FILE", .file, none⟩
  | .lsp => none

def Opt.name : Opt → String
  | .format => "--format"
  | .help => "--help"
  | .json => "--json"
  | .logFile => "--log-file"
  | .logLevel => "--log-level"
  | .noColor => "--no-color"
  | .plain => "--plain"
  | .version => "--version"

def Opt.accepts : Opt → Accepts
  | .format => .choice false ["terminal", "html"]
  | .logLevel => .choice true (Server.Level.all.map Server.Level.name)
  | .logFile => .file
  | .help | .json | .noColor | .plain | .version => .nothing

def Opt.summary : Opt → String
  | .format => "Output format."
  | .help => "Show this message and exit."
  | .json => "Print statements as JSON."
  | .logFile => "Write logs to this file instead of stderr."
  | .logLevel => "Server log level."
  | .noColor => "Disable colored output."
  | .plain => "Highlight directives only, not HTML."
  | .version => "Show the version and exit."

def Opt.takesValue (o : Opt) : Bool := o.accepts ≠ .nothing

def Opt.isImmediate (o : Opt) : Bool := o = .help || o = .version

def Operand.shown (o : Operand) : String :=
  if o.default.isSome then "[" ++ o.name ++ "]" else o.name

def Scope.options : Scope → List Opt
  | .program => [.version, .help]
  | .command c => c.options

def Scope.path : Scope → String
  | .program => programName
  | .command c => programName ++ " " ++ c.name

end Command

end JqTemplate
