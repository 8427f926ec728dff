import JqTemplate.Json
import JqTemplate.Server.Workspace

namespace JqTemplate.Server

open Editor (Range Marker Symbol Fold CompletionItem)

namespace Message

def position (p : Position) : Json :=
  .object [("line", .number p.line), ("character", .number p.column)]

def range (r : Range) : Json := .object [("start", position r.start), ("end", position r.stop)]

def marker (m : Marker) : Json :=
  .object
    ([("range", range m.range), ("severity", .number (Editor.severityGrade m.severity))] ++
      Json.optional "code" (m.code.map Json.string) ++
      [("source", .string Marker.origin), ("message", .string m.message)])

def snippetKind : Int := 15

def snippetFormat : Int := 2

def completionItem (c : CompletionItem) : Json :=
  .object
    [("label", .string c.snippet.label), ("kind", .number snippetKind),
     ("detail", .string c.snippet.detail), ("documentation", .string c.snippet.documentation),
     ("sortText", .string c.sortText), ("filterText", .string c.filterText),
     ("insertTextFormat", .number snippetFormat),
     ("textEdit", .object [("range", range c.range), ("newText", .string c.snippet.body)])]

def completionList (items : List CompletionItem) : Json :=
  .object [("isIncomplete", .bool false), ("items", .array (items.map completionItem))]

def symbolEntries (s : Symbol) : List (String × Json) :=
  [("name", .string (String.ofList s.name)), ("kind", .number s.kind.number),
   ("detail", .string s.kind.detail), ("range", range s.range),
   ("selectionRange", range s.selection)]

mutual

def symbol : Symbol → Json
  | ⟨name, kind, range, selection, children⟩ =>
    let entries := symbolEntries ⟨name, kind, range, selection, children⟩
    match children with
    | [] => .object entries
    | child :: rest => .object (entries ++ [("children", .array (symbol child :: symbols rest))])

def symbols : List Symbol → List Json
  | [] => []
  | s :: rest => symbol s :: symbols rest

end

def fold (f : Fold) : Json :=
  .object
    [("startLine", .number f.startLine), ("endLine", .number f.stopLine), ("kind", .string "region")]

def notification (method : String) (params : Json) : Json :=
  .object [("jsonrpc", .string "2.0"), ("method", .string method), ("params", params)]

def response (id result : Json) : Json :=
  .object [("jsonrpc", .string "2.0"), ("id", id), ("result", result)]

inductive Denial where
  | unknownMethod (name : String)
  | unknownCommand (name : String)
  deriving DecidableEq, Repr

def Denial.number : Denial → Int
  | .unknownMethod _ => -32601
  | .unknownCommand _ => -32602

def Denial.text : Denial → String
  | .unknownMethod name => "Method Not Found: " ++ name
  | .unknownCommand name =>
    "Invalid Params: Command name " ++ Text.quotedString name ++ " is not defined"

/-- An identity that is null is left out. -/
def denial (id : Json) (d : Denial) : Json :=
  let identity := match id with
    | .null => []
    | id => [("id", id)]
  .object
    ([("jsonrpc", .string "2.0")] ++ identity ++
      [("error", .object [("code", .number d.number), ("message", .string d.text)])])

/-- What goes wrong with a message and has no question to be the answer to. Containers cannot
serve as keys, neither as identities nor as tokens of work in progress, and what is no text cannot
serve as a method. -/
inductive Trouble where
  | notAMessage (kind : String)
  | malformed
  | unreadable
  | notIntroduced
  | workspace (fault : WorkspaceFault)
  | escaped (fault : Escape)
  | unfitIdentity (kind : String)
  | unfitToken (kind : String)
  | unfitMethod (kind : String)
  deriving DecidableEq, Repr

def unfitKey (kind : String) : String := "unhashable type: '" ++ kind ++ "'"

def Trouble.text : Trouble → String
  | .notAMessage kind => "'" ++ kind ++ "' object has no attribute 'jsonrpc'"
  | .malformed => "Invalid Params"
  | .unreadable => "Internal Error"
  | .notIntroduced =>
    "RuntimeError: The workspace is not available - has the server been initialized?"
  | .workspace (.name fault) => "ValueError: " ++ fault.message
  | .workspace (.notOpen name) => "KeyError: " ++ Text.quotedString name
  | .escaped (.place (.unpaired fault)) => "UnicodeEncodeError: " ++ fault.message
  | .escaped fault => "ValueError: " ++ fault.message
  | .unfitIdentity kind => unfitKey kind
  | .unfitToken kind => "TypeError: " ++ unfitKey kind
  | .unfitMethod kind => "can only concatenate str (not \"" ++ kind ++ "\") to str"

def errorGrade : Int := 1

def trouble (t : Trouble) : Json :=
  notification "window/showMessage"
    (.object [("type", .number errorGrade), ("message", .string ("Error in server: " ++ t.text))])

def infoGrade : Int := 3

def published (uri : String) (version : Option Int) (markers : List Marker) : Json :=
  .object
    ([("uri", .string uri)] ++ Json.optional "version" (version.map Json.number) ++
      [("diagnostics", .array (markers.map marker))])

/-- Records are for the log; the client never sees them. -/
def ofEvent? : Event → Option Json
  | .publish uri version markers =>
    some (notification "textDocument/publishDiagnostics" (published uri version markers))
  | .log message =>
    some (notification "window/logMessage"
      (.object [("type", .number infoGrade), ("message", .string message)]))
  | .record _ _ => none

def wholeDocuments : Int := 1

/-- What an editor tells about itself, as far as it shows in the answer: the units in which it
can count columns, the best first, and whether it has heard of notices before saving. -/
structure Client where
  encodings : List String := []
  knowsWillSave : Bool := false
  knowsWillSaveWaitUntil : Bool := false
  deriving DecidableEq, Repr

/-- The first unit that is known; by default columns are counted in sixteen bits. -/
def Client.encoding (c : Client) : String :=
  (c.encodings.find? fun e => ["utf-8", "utf-16", "utf-32"].contains e).getD "utf-16"

/-- A notice that an editor knows of is declined, any other is not mentioned. -/
def declined (key : String) (known : Bool) : List (String × Json) :=
  Json.optional key (if known then some (.bool false) else none)

def synchronization (c : Client) : Json :=
  .object
    ([("openClose", .bool true), ("change", .number wholeDocuments)] ++
      declined "willSave" c.knowsWillSave ++
      declined "willSaveWaitUntil" c.knowsWillSaveWaitUntil ++ [("save", .bool false)])

def capabilities (c : Client) : Json :=
  .object
    [("positionEncoding", .string c.encoding), ("textDocumentSync", synchronization c),
     ("completionProvider", .object
       [("triggerCharacters", .array [.string "\x7b"]), ("resolveProvider", .bool false)]),
     ("documentSymbolProvider", .bool true), ("foldingRangeProvider", .bool true),
     ("executeCommandProvider", .object [("commands", .array [])]),
     ("workspace", .object
       [("workspaceFolders", .object
          [("supported", .bool true), ("changeNotifications", .bool true)]),
        ("fileOperations", .object [])])]

def introduction (c : Client) : Json :=
  .object
    [("capabilities", capabilities c),
     ("serverInfo", .object [("name", .string name), ("version", .string version)])]

end Message

end JqTemplate.Server
