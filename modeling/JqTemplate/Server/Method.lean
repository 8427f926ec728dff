import JqTemplate.Server.Shape.Answer
import JqTemplate.Server.Shape.Capabilities
import JqTemplate.Server.Shape.Notebook

namespace JqTemplate.Server

namespace Shape

def inDocument (fields : List Field) : Shape := .record (required "textDocument" document :: fields)

def atPosition (fields : List Field) : Shape := inDocument (required "position" position :: fields)

def inRange (fields : List Field) : Shape := inDocument (required "range" range :: fields)

def formatting : Shape := .record [required "tabSize" count, required "insertSpaces" .anything]

def color : Shape :=
  .record (["red", "green", "blue", "alpha"].map fun key => required key .real)

def shownMessage (fields : List Field) : Shape :=
  .record (required "type" (.grade 1 5) :: required "message" .anything :: fields)

end Shape

/-- A method that asks gets an answer, and its messages have an identity. `params` is missing
where anything or nothing may come with the message. -/
structure Method where
  name : String
  asks : Bool
  params : Option Shape

namespace Method

open Shape

def question (name : String) (params : Shape) : Method := ⟨name, true, some params⟩

def notice (name : String) (params : Shape) : Method := ⟨name, false, some params⟩

def lifecycle : List Method :=
  [question "initialize" introduction, ⟨"shutdown", true, none⟩, ⟨"exit", false, none⟩,
   notice "initialized" (.record []), notice "$/setTrace" (holding "value" trace),
   notice "$/logTrace" (naming ["message"]), notice "$/cancelRequest" (naming ["id"]),
   notice "$/progress" (naming ["token", "value"]),
   notice "window/workDoneProgress/cancel" (naming ["token"])]

def synchronization : List Method :=
  [notice "textDocument/didOpen" (holding "textDocument" documentItem),
   notice "textDocument/didChange" (.record
     [required "textDocument" versionedDocument, required "contentChanges" (.list change)]),
   notice "textDocument/didClose" (inDocument []),
   notice "textDocument/didSave" (inDocument []),
   notice "textDocument/willSave" (inDocument [required "reason" (.grade 1 3)]),
   question "textDocument/willSaveWaitUntil" (inDocument [required "reason" (.grade 1 3)]),
   notice "notebookDocument/didOpen" (.record
     [required "notebookDocument" notebook, required "cellTextDocuments" (.list documentItem)]),
   notice "notebookDocument/didChange" (.record
     [required "notebookDocument" versionedDocument, required "change" notebookChange]),
   notice "notebookDocument/didSave" (holding "notebookDocument" document),
   notice "notebookDocument/didClose" (.record
     [required "notebookDocument" document, required "cellTextDocuments" (.list document)])]

def atPositions : List Method :=
  [question "textDocument/completion" (atPosition
     [optional "context" (holding "triggerKind" (.grade 1 3))]),
   question "textDocument/signatureHelp" (atPosition [optional "context" (.record
     [required "triggerKind" (.grade 1 3), required "isRetrigger" .anything,
      optional "activeSignatureHelp" signatureHelp])]),
   question "textDocument/references" (atPosition
     [required "context" (naming ["includeDeclaration"])]),
   question "textDocument/rename" (atPosition [required "newName" .anything]),
   question "textDocument/onTypeFormatting" (atPosition
     [required "ch" .anything, required "options" formatting]),
   question "textDocument/inlineCompletion" (atPosition
     [required "context" (.record
       [required "triggerKind" (.grade 1 2), optional "selectedCompletionInfo" (.record
         [required "range" range, required "text" .anything])])])] ++
  (["hover", "definition", "declaration", "typeDefinition", "implementation", "documentHighlight",
    "prepareRename", "moniker", "linkedEditingRange", "prepareCallHierarchy",
    "prepareTypeHierarchy"].map fun name => question ("textDocument/" ++ name) (atPosition []))

def inDocuments : List Method :=
  [question "textDocument/codeAction" (inRange [required "context" (.record
     [required "diagnostics" (.list diagnostic), optional "only" (.list openWord),
      optional "triggerKind" (.grade 1 2)])]),
   question "textDocument/colorPresentation" (inRange [required "color" color]),
   question "textDocument/formatting" (inDocument [required "options" formatting]),
   question "textDocument/rangeFormatting" (inRange [required "options" formatting]),
   question "textDocument/rangesFormatting" (inDocument
     [required "ranges" (.list range), required "options" formatting]),
   question "textDocument/inlayHint" (inRange []),
   question "textDocument/inlineValue" (inRange [required "context" (.record
     [required "frameId" integer, required "stoppedLocation" range])]),
   question "textDocument/selectionRange" (inDocument [required "positions" (.list position)]),
   question "textDocument/semanticTokens/range" (inRange []),
   question "textDocument/semanticTokens/full/delta" (inDocument
     [required "previousResultId" .anything])] ++
  (["documentSymbol", "foldingRange", "codeLens", "documentLink", "documentColor", "diagnostic",
    "semanticTokens/full"].map fun name => question ("textDocument/" ++ name) (inDocument []))

def resolutions : List Method :=
  [question "completionItem/resolve" completionItem, question "codeAction/resolve" codeAction,
   question "codeLens/resolve" codeLens,
   question "documentLink/resolve" (holding "range" range),
   question "inlayHint/resolve" inlayHint, question "workspaceSymbol/resolve" workspaceSymbol,
   question "callHierarchy/incomingCalls" (holding "item" hierarchyItem),
   question "callHierarchy/outgoingCalls" (holding "item" hierarchyItem),
   question "typeHierarchy/supertypes" (holding "item" hierarchyItem),
   question "typeHierarchy/subtypes" (holding "item" hierarchyItem)]

def workspace : List Method :=
  [question "workspace/executeCommand" (.record
     [required "command" .anything, optional "arguments" (.list .anything)]),
   question "workspace/symbol" (naming ["query"]),
   question "workspace/diagnostic" (holding "previousResultIds" (.list (naming ["uri", "value"]))),
   question "workspace/textDocumentContent" (naming ["uri"]),
   notice "workspace/didChangeConfiguration" (naming ["settings"]),
   notice "workspace/didChangeWatchedFiles" (holding "changes" (.list (.record
     [required "uri" .anything, required "type" (.grade 1 3)]))),
   notice "workspace/didChangeWorkspaceFolders" (holding "event" (.record
     [required "added" (.list folder), required "removed" (.list folder)]))] ++
  (["Create", "Delete"].flatMap fun verb =>
    [question ("workspace/will" ++ verb ++ "Files") (holding "files" (.list (naming ["uri"]))),
     notice ("workspace/did" ++ verb ++ "Files") (holding "files" (.list (naming ["uri"])))]) ++
  [question "workspace/willRenameFiles" (holding "files" (.list (naming ["oldUri", "newUri"]))),
   notice "workspace/didRenameFiles" (holding "files" (.list (naming ["oldUri", "newUri"])))]

def fromServers : List Method :=
  [question "workspace/configuration" (holding "items" (.list (mentioning ["scopeUri", "section"]))),
   question "workspace/applyEdit" (.record
     [required "edit" workspaceEdit, optional "metadata" (mentioning ["isRefactoring"])]),
   question "workspace/textDocumentContent/refresh" (naming ["uri"]),
   question "window/showDocument" (.record
     [required "uri" .anything, optional "selection" range]),
   question "window/workDoneProgress/create" (naming ["token"]),
   question "window/showMessageRequest" (shownMessage
     [optional "actions" (.list (naming ["title"]))]),
   question "client/registerCapability" (holding "registrations"
     (.list (naming ["id", "method"]))),
   question "client/unregisterCapability" (holding "unregisterations"
     (.list (naming ["id", "method"]))),
   notice "window/showMessage" (shownMessage []), notice "window/logMessage" (shownMessage []),
   notice "textDocument/publishDiagnostics" (.record
     [required "uri" .anything, required "diagnostics" (.list diagnostic),
      optional "version" integer]),
   notice "telemetry/event" .anything, ⟨"workspace/workspaceFolders", true, none⟩] ++
  (["codeLens", "semanticTokens", "inlayHint", "inlineValue", "diagnostic", "foldingRange"].map
    fun name => ⟨"workspace/" ++ name ++ "/refresh", true, none⟩)

def all : List Method :=
  lifecycle ++ synchronization ++ atPositions ++ inDocuments ++ resolutions ++ workspace ++
    fromServers

def ofName? (name : String) : Option Method := all.find? fun m => m.name = name

def fits (m : Method) (message : Json) : Bool :=
  (!m.asks || message.has "id") &&
    match m.params with
    | none => true
    | some shape => (message.field? "params").any fun params => shape.fits params

end Method

end JqTemplate.Server
