import JqTemplate.Json.Lenient
import JqTemplate.Server.Message

namespace JqTemplate.Server

open Message (Client Denial Trouble)

inductive Query where
  | introduction (client : Client)
  | shutdown
  | completion (uri : String) (line column : Int)
  | symbols (uri : String)
  | folds (uri : String)
  | command (name : String)
  | unknown (method : String)
  deriving DecidableEq, Repr

/-- A message from the client. Those that concern no document and ask nothing are either the
greeting, the farewell, work on notebooks and folders, or of no interest. A failing one shows its
trouble only when it is acted upon. -/
inductive Incoming where
  | query (id : Json) (q : Query)
  | notification (n : Notification)
  | upkeep (tasks : List Upkeep)
  | ready
  | exit
  | ignored
  | failing (t : Trouble)

namespace Incoming

def textAt (j : Json) (keys : List String) : String := ((j.at? keys).map Json.asText).getD ""

def wholeAt (j : Json) (keys : List String) : Int := ((j.at? keys).bind Json.asWhole?).getD 0

def elementsAt (j : Json) (keys : List String) : List Json :=
  ((j.at? keys).bind Json.elements?).getD []

def uri (params : Json) : String := textAt params ["textDocument", "uri"]

def part? (change : Json) : Option Part :=
  if change.has "range" then
    some
      ⟨wholeAt change ["range", "start", "line"], wholeAt change ["range", "start", "character"],
       wholeAt change ["range", "end", "line"], wholeAt change ["range", "end", "character"]⟩
  else none

def change (j : Json) : Change := ⟨Text.ofChars (textAt j ["text"]).toList, part? j⟩

def opened (params : Json) : Notification :=
  .opened (uri params) (Text.ofChars (textAt params ["textDocument", "text"]).toList)
    (wholeAt params ["textDocument", "version"])

def changed (params : Json) : Notification :=
  .changed (uri params) (wholeAt params ["textDocument", "version"])
    ((elementsAt params ["contentChanges"]).map change)

def isPresent (j : Json) (keys : List String) : Bool :=
  match j.at? keys with
  | none | some .null => false
  | _ => true

def client (params : Json) : Client :=
  let saving (key : String) :=
    isPresent params ["capabilities", "textDocument", "synchronization", key]
  let encodings := elementsAt params ["capabilities", "general", "positionEncodings"]
  { encodings := encodings.filterMap Json.string?
    knowsWillSave := saving "willSave"
    knowsWillSaveWaitUntil := saving "willSaveWaitUntil" }

def cellTasks (cells : Json) : List Upkeep :=
  let changed := (elementsAt cells ["textContent"]).filter fun j =>
    !(elementsAt j ["changes"]).isEmpty
  ((elementsAt cells ["structure", "didOpen"]).map fun j => .openDocument (textAt j ["uri"])) ++
    ((elementsAt cells ["structure", "didClose"]).map fun j => .closeDocument (textAt j ["uri"])) ++
    (changed.map fun j => .findDocument (textAt j ["document", "uri"]))

def notebookTasks (method : String) (params : Json) : List Upkeep :=
  let notebook := textAt params ["notebookDocument", "uri"]
  let cells := (elementsAt params ["cellTextDocuments"]).map fun j => textAt j ["uri"]
  match method with
  | "notebookDocument/didOpen" => .openNotebook notebook :: cells.map .openDocument
  | "notebookDocument/didClose" => .closeNotebook notebook :: cells.map .closeDocument
  | _ => .findNotebook notebook :: cellTasks ((params.at? ["change", "cells"]).getD .null)

def folderTasks (params : Json) : List Upkeep :=
  let folders := elementsAt params ["event", "added"] ++ elementsAt params ["event", "removed"]
  if folders.isEmpty then [] else [.folders]

/-- Nothing is in progress that could be stopped, but what is to be stopped must have a fit
name. -/
def stopped (key : String) (trouble : String → Trouble) (params : Json) : Incoming :=
  match params.field? key with
  | some name => if name.isContainer then .failing (trouble name.kindName) else .ignored
  | none => .ignored

def ofNotice (method : String) (params : Json) : Incoming :=
  match method with
  | "initialized" => .ready
  | "exit" => .exit
  | "textDocument/didOpen" => .notification (opened params)
  | "textDocument/didChange" => .notification (changed params)
  | "textDocument/didClose" => .notification (.closed (uri params))
  | "notebookDocument/didOpen" | "notebookDocument/didChange" | "notebookDocument/didClose" =>
    .upkeep (notebookTasks method params)
  | "workspace/didChangeWorkspaceFolders" => .upkeep (folderTasks params)
  | "window/workDoneProgress/cancel" => stopped "token" .unfitToken params
  | "$/cancelRequest" => stopped "id" .unfitIdentity params
  | _ => .ignored

def queryOf (method : String) (params : Json) : Query :=
  match method with
  | "initialize" => .introduction (client params)
  | "shutdown" => .shutdown
  | "textDocument/completion" =>
    .completion (uri params) (wholeAt params ["position", "line"])
      (wholeAt params ["position", "character"])
  | "textDocument/documentSymbol" => .symbols (uri params)
  | "textDocument/foldingRange" => .folds (uri params)
  | "workspace/executeCommand" => .command (textAt params ["command"])
  | _ => .unknown method

end Incoming

end JqTemplate.Server
