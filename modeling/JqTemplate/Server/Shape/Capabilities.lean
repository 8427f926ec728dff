import JqTemplate.Server.Shape.Document

namespace JqTemplate.Server.Shape

def flags (keys : List String) : List Field := keys.map fun key => optional key .anything

def feature (keys : List String) (fields : List Field) : Shape :=
  .record (flags ("dynamicRegistration" :: keys) ++ fields)

def features (names : List String) (shape : Shape) : List Field :=
  names.map fun name => optional name shape

def values (value : Shape) : Shape := holding "valueSet" (.list value)

def perhapsValues (value : Shape) : Shape := .record [optional "valueSet" (.list value)]

def properties : Shape := holding "properties" (.list .anything)

def workspaceEditSupport : Shape :=
  .record
    (flags ["documentChanges", "normalizesLineEndings", "metadataSupport", "snippetEditSupport"] ++
     [optional "resourceOperations" (.list (.word ["create", "rename", "delete"])),
      optional "failureHandling"
        (.word ["abort", "transactional", "textOnlyTransactional", "undo"]),
      optional "changeAnnotationSupport" (mentioning ["groupsOnLabel"])])

def symbolSupport : List Field :=
  [optional "symbolKind" (perhapsValues symbolKind),
   optional "tagSupport" (values (.grade 1 1))]

def workspaceSupport : Shape :=
  .record
    (flags ["applyEdit", "workspaceFolders", "configuration"] ++
     [optional "workspaceEdit" workspaceEditSupport,
      optional "symbol" (feature [] (optional "resolveSupport" properties :: symbolSupport)),
      optional "didChangeWatchedFiles" (feature ["relativePatternSupport"] []),
      optional "fileOperations" (feature
        ["didCreate", "willCreate", "didRename", "willRename", "didDelete", "willDelete"] [])] ++
     features ["didChangeConfiguration", "executeCommand", "textDocumentContent"] (feature [] []) ++
     features
       ["semanticTokens", "codeLens", "inlineValue", "inlayHint", "diagnostics", "foldingRange"]
       (mentioning ["refreshSupport"]))

def completionItemSupport : Shape :=
  .record
    (flags
       ["snippetSupport", "commitCharactersSupport", "deprecatedSupport", "preselectSupport",
        "insertReplaceSupport", "labelDetailsSupport"] ++
     [optional "documentationFormat" (.list markupKind),
      optional "tagSupport" (values (.grade 1 1)), optional "resolveSupport" properties,
      optional "insertTextModeSupport" (values (.grade 1 2))])

def completionSupport : Shape :=
  feature ["contextSupport"]
    [optional "completionItem" completionItemSupport,
     optional "completionItemKind" (perhapsValues openWord),
     optional "insertTextMode" (.grade 1 2),
     optional "completionList" (.record
       [optional "itemDefaults" (.list .anything), optional "applyKindSupport" .anything])]

def signatureSupport : Shape :=
  feature ["contextSupport"]
    [optional "signatureInformation" (.record
       (flags ["activeParameterSupport", "noActiveParameterSupport"] ++
        [optional "documentationFormat" (.list markupKind),
         optional "parameterInformation" (mentioning ["labelOffsetSupport"])]))]

def codeActionSupport : Shape :=
  feature
    ["isPreferredSupport", "disabledSupport", "dataSupport", "honorsChangeAnnotations",
     "documentationSupport"]
    [optional "codeActionLiteralSupport" (holding "codeActionKind" (values openWord)),
     optional "resolveSupport" properties, optional "tagSupport" (values (.grade 1 1))]

def renameSupport : Shape :=
  feature ["prepareSupport", "honorsChangeAnnotations"]
    [optional "prepareSupportDefaultBehavior" (.grade 1 1)]

def foldingSupport : Shape :=
  feature ["lineFoldingOnly"]
    [optional "rangeLimit" count, optional "foldingRangeKind" (perhapsValues openWord),
     optional "foldingRange" (mentioning ["collapsedText"])]

def diagnosticSupport : List Field :=
  flags ["relatedInformation", "codeDescriptionSupport", "dataSupport"] ++
    [optional "tagSupport" (values (.grade 1 2))]

/-- Tokens can be asked for by range, and all of them with or without their differences to an
earlier answer. -/
def semanticSupport : Shape :=
  let requests := .record
    [optional "range" .anything, optional "full" (.except .scalar (mentioning ["delta"]))]
  feature []
    [required "requests" requests, required "tokenTypes" (.list .anything),
     required "tokenModifiers" (.list .anything),
     required "formats" (.list (.word ["relative"]))]

def documentSupport : Shape :=
  .record
    ([optional "synchronization" (feature ["willSave", "willSaveWaitUntil", "didSave"] []),
      optional "filters" (mentioning ["relativePatternSupport"]),
      optional "completion" completionSupport,
      optional "hover" (feature [] [optional "contentFormat" (.list markupKind)]),
      optional "signatureHelp" signatureSupport,
      optional "documentSymbol" (feature ["hierarchicalDocumentSymbolSupport", "labelSupport"]
        symbolSupport),
      optional "codeAction" codeActionSupport,
      optional "codeLens" (feature [] [optional "resolveSupport" properties]),
      optional "documentLink" (feature ["tooltipSupport"] []),
      optional "rangeFormatting" (feature ["rangesSupport"] []),
      optional "rename" renameSupport, optional "foldingRange" foldingSupport,
      optional "publishDiagnostics" (.record (flags ["versionSupport"] ++ diagnosticSupport)),
      optional "semanticTokens" semanticSupport,
      optional "inlayHint" (feature [] [optional "resolveSupport" properties]),
      optional "diagnostic" (feature ["relatedDocumentSupport"] diagnosticSupport)] ++
     features ["declaration", "definition", "typeDefinition", "implementation"]
       (feature ["linkSupport"] []) ++
     features
       ["references", "documentHighlight", "colorProvider", "formatting", "onTypeFormatting",
        "selectionRange", "callHierarchy", "linkedEditingRange", "moniker", "typeHierarchy",
        "inlineValue", "inlineCompletion"]
       (feature [] []))

def notebookSupport : Shape := holding "synchronization" (feature ["executionSummarySupport"] [])

def windowSupport : Shape :=
  .record
    [optional "workDoneProgress" .anything,
     optional "showMessage" (.record
       [optional "messageActionItem" (mentioning ["additionalPropertiesSupport"])]),
     optional "showDocument" (naming ["support"])]

def generalSupport : Shape :=
  .record
    [optional "staleRequestSupport" (.record
       [required "cancel" .anything, required "retryOnContentModified" (.list .anything)]),
     optional "regularExpressions" (naming ["engine"]),
     optional "markdown" (.record
       [required "parser" .anything, optional "allowedTags" (.list .anything)]),
     optional "positionEncodings" (.list openWord)]

def capabilities : Shape :=
  .record
    [optional "workspace" workspaceSupport, optional "textDocument" documentSupport,
     optional "notebookDocument" notebookSupport, optional "window" windowSupport,
     optional "general" generalSupport, optional "experimental" .anything]

def trace : Shape := .word ["off", "messages", "verbose"]

def introduction : Shape :=
  .record
    [required "capabilities" capabilities, optional "processId" integer,
     optional "clientInfo" (naming ["name"]), optional "trace" trace,
     optional "workspaceFolders" (.list folder)]

end JqTemplate.Server.Shape
