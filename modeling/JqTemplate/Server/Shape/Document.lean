import JqTemplate.Server.Shape

namespace JqTemplate.Server.Shape

def position : Shape := .record [required "line" count, required "character" count]

def range : Shape := .record [required "start" position, required "end" position]

def location : Shape := .record [required "uri" .anything, required "range" range]

def document : Shape := naming ["uri"]

def versionedDocument : Shape := .record [required "uri" .anything, required "version" integer]

def documentItem : Shape :=
  .record
    [required "uri" .anything, required "languageId" openWord, required "version" integer,
     required "text" .anything]

def change : Shape :=
  .either "range"
    (.record [required "range" range, required "text" .anything, optional "rangeLength" count])
    (naming ["text"])

def folder : Shape := naming ["uri", "name"]

def command : Shape :=
  .record
    [required "title" .anything, required "command" .anything,
     optional "arguments" (.list .anything)]

def markupKind : Shape := .word ["plaintext", "markdown"]

/-- A text for the user, plain or with markup. The kind of markup tells its newer form from the
older one, which names a language and may come in a list. -/
def prose : Shape :=
  let quoted := naming ["language", "value"]
  let marked := .record [required "kind" markupKind, required "value" .anything]
  .except .scalar (.items (.except .scalar quoted) (.either "kind" marked quoted))

def textEdit : Shape := .record [required "range" range, required "newText" .anything]

def documentEdit : Shape :=
  .either "snippet"
    (.record
      [required "range" range, required "snippet" (.record
        [optional "kind" (.word ["snippet"]), required "value" .anything])])
    textEdit

def editedDocument : Shape := .record [required "uri" .anything, optional "version" integer]

def workspaceStep : Shape :=
  let overwriting := mentioning ["overwrite", "ignoreIfExists"]
  .except .null (.tagged "kind"
    [("create", .record [required "uri" .anything, optional "options" overwriting]),
     ("delete", .record
       [required "uri" .anything,
        optional "options" (mentioning ["recursive", "ignoreIfNotExists"])]),
     ("rename", .record
       [required "oldUri" .anything, required "newUri" .anything,
        optional "options" overwriting])]
    (.record
      [required "textDocument" editedDocument, required "edits" (.list documentEdit)]))

def workspaceEdit : Shape :=
  .record
    [optional "changes" (.table (.list textEdit)),
     optional "documentChanges" (.list workspaceStep),
     optional "changeAnnotations" (.table (naming ["label"]))]

def symbolKind : Shape := .grade 1 26

def symbolTags : Shape := .list (.grade 1 1)

def diagnosticTags : Shape := .list (.grade 1 2)

def diagnostic : Shape :=
  .record
    [required "range" range, required "message" .anything, optional "severity" (.grade 1 4),
     optional "codeDescription" (naming ["href"]), optional "tags" diagnosticTags,
     optional "relatedInformation"
       (.list (.record [required "location" location, required "message" .anything]))]

end JqTemplate.Server.Shape
