import JqTemplate.Server.Shape.Document

namespace JqTemplate.Server.Shape

def completionEdit : Shape :=
  .either "insert"
    (.record
      [required "newText" .anything, required "insert" range, required "replace" range])
    textEdit

def completionItem : Shape :=
  .record
    [required "label" .anything, optional "labelDetails" (mentioning ["detail", "description"]),
     optional "kind" openWord, optional "tags" (.list (.grade 1 1)),
     optional "documentation" prose, optional "insertTextFormat" (.grade 1 2),
     optional "insertTextMode" (.grade 1 2), optional "textEdit" completionEdit,
     optional "additionalTextEdits" (.list textEdit),
     optional "commitCharacters" (.list .anything), optional "command" command]

/-- A parameter is named by its text or by where its text stands in the signature. -/
def parameter : Shape :=
  .record
    [required "label" (.except .text (.pair .offset .offset)), optional "documentation" prose]

def signature : Shape :=
  .record
    [required "label" .anything, optional "documentation" prose,
     optional "parameters" (.list parameter), optional "activeParameter" count]

def signatureHelp : Shape :=
  .record
    [required "signatures" (.list signature), optional "activeSignature" count,
     optional "activeParameter" count]

def codeAction : Shape :=
  .record
    [required "title" .anything, optional "kind" openWord,
     optional "diagnostics" (.list diagnostic), optional "disabled" (naming ["reason"]),
     optional "edit" workspaceEdit, optional "command" command,
     optional "tags" (.list (.grade 1 1))]

def codeLens : Shape := .record [required "range" range, optional "command" command]

def hintPart : Shape :=
  .record
    [required "value" .anything, optional "tooltip" prose, optional "location" location,
     optional "command" command]

def inlayHint : Shape :=
  .record
    [required "position" position, required "label" (.except .text (.list hintPart)),
     optional "kind" (.grade 1 2), optional "textEdits" (.list textEdit),
     optional "tooltip" prose]

def workspaceSymbol : Shape :=
  .record
    [required "name" .anything, required "kind" symbolKind, optional "tags" symbolTags,
     required "location" (.either "range" location document)]

def hierarchyItem : Shape :=
  .record
    [required "name" .anything, required "kind" symbolKind, required "uri" .anything,
     required "range" range, required "selectionRange" range, optional "tags" symbolTags]

end JqTemplate.Server.Shape
