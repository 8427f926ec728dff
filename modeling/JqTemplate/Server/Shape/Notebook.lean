import JqTemplate.Server.Shape.Document

namespace JqTemplate.Server.Shape

def cell : Shape :=
  .record
    [required "kind" (.grade 1 2), required "document" .anything,
     optional "executionSummary" (holding "executionOrder" count)]

def notebook : Shape :=
  .record
    [required "uri" .anything, required "notebookType" .anything, required "version" integer,
     required "cells" (.list cell)]

def cellStructure : Shape :=
  .record
    [required "array" (.record
       [required "start" count, required "deleteCount" count, optional "cells" (.list cell)]),
     optional "didOpen" (.list documentItem), optional "didClose" (.list document)]

def cellChanges : Shape :=
  .record
    [optional "structure" cellStructure, optional "data" (.list cell),
     optional "textContent" (.list (.record
       [required "document" versionedDocument, required "changes" (.list change)]))]

def notebookChange : Shape :=
  .record [optional "metadata" .anything, optional "cells" cellChanges]

end JqTemplate.Server.Shape
