import JqTemplate.Command.Inspection
import JqTemplate.Highlight.Embedding
import JqTemplate.Highlight.Markup
import JqTemplate.Highlight.Page
import JqTemplate.Highlight.Terminal
import JqTemplate.Json.Printer

namespace JqTemplate.Command

open Files (Tree System Place Path)

def statementJson (s : Statement) : Json :=
  .object
    [("kind", .string s.form.name), ("start", .number s.span.start), ("end", .number s.span.stop),
     ("body", match s.form.body? with
      | some body => .string (String.ofList body)
      | none => .null)]

def listing (statements : List Statement) : List String :=
  statements.map fun s => String.ofList s.describe

def listingJson (statements : List Statement) : List String :=
  [(Json.array (statements.map statementJson)).indented]

def highlighted (format : Format) (plain : Bool) (text : List Char) : List Char :=
  let prepared := Highlight.prepare {} text
  let tokens :=
    if plain then Highlight.templateTokens prepared
    else Highlight.embed Highlight.markupTokens prepared
  let pieces := tokens.map Highlight.Token.piece
  match format with
  | .terminal => Highlight.terminal pieces
  | .html => Highlight.page pieces

def withSource (sys : System) (file : String) (use : Source → Output) : Output :=
  let path := Path.ofString file
  match readSource sys path with
  | .error fault => Output.failed (unreadable path fault)
  | .ok source => use source

def printStatements (asJson : Bool) (source : Source) : Output :=
  let statements := JqTemplate.parse source.text
  Output.printed (if asJson then listingJson statements else listing statements)

def printHighlighted (format : Format) (plain : Bool) (source : Source) : Output :=
  { stdout := String.ofList (highlighted format plain source.text) }

/-- What keeps the server's records from being written to a file. An empty name is no file. -/
def logFault? (sys : System) (file : String) : Option Files.AccessFault :=
  let path := (Path.ofString file).absolute sys.folder
  if file.isEmpty then none
  else (sys.append? path).map fun obstacle => ⟨obstacle, path.text⟩

def prepareServer (sys : System) (logFile : Option String) : Except Abort Output :=
  match logFile.bind (logFault? sys) with
  | some fault => .error (.log fault)
  | none => .ok {}

/-- The server speaks on its own; a request for it prints nothing here. -/
def Request.perform (sys : System) : Request → Except Abort Output
  | .help scope => .ok { stdout := scope.help }
  | .version => .ok (Output.printed [versionLine])
  | .parse file asJson => .ok (withSource sys file (printStatements asJson))
  | .check path color => inspect sys color (Path.ofString path)
  | .highlight file format plain =>
    .ok (withSource sys file (printHighlighted format plain))
  | .serve _ logFile => prepareServer sys logFile

/-- A run of the program among some files, in a folder. Output keeps its colors only where they are wanted. -/
def run (t : Tree) (folder : Place) (color : Bool) (args : List String) : Except Abort Output :=
  let outcome := match Request.ofArguments t folder args with
    | .error refusal => refusal.output
    | .ok request => request.perform (t.system folder)
  outcome.map (Output.colored color)

end JqTemplate.Command
