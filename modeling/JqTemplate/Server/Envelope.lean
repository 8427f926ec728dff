import JqTemplate.Server.Incoming
import JqTemplate.Server.Method
import JqTemplate.Server.Record

namespace JqTemplate.Server

open Message (Trouble)

namespace Incoming

def exchangeVersion : String := "2.0"

/-- A message of a method that is known. Whether it is a question, the method decides. -/
def ofMethod (m : Method) (message : Json) : Except Trouble Incoming :=
  let params := (message.field? "params").getD .null
  let id := (message.field? "id").getD .null
  if !m.fits message then .error .malformed
  else if textAt message ["jsonrpc"] ≠ exchangeVersion then .ok .ignored
  else if m.asks then .ok (.query id (queryOf m.name params))
  else .ok (ofNotice m.name params)

def plainKeys (message : Json) : List String :=
  ["jsonrpc", "method", "params"] ++ if message.has "id" then ["id"] else []

def hasExactly (keys : List String) (message : Json) : Bool :=
  keys.all message.has && message.keys.all keys.contains

def isOfVersion (message : Json) : Bool :=
  (message.field? "jsonrpc").bind Json.string? = some exchangeVersion

/-- A message of a method that is not known is good when it has no key too few or too many. -/
def ofUnknown (method message : Json) : Except Trouble Incoming :=
  let params := (message.field? "params").getD .null
  if !hasExactly (plainKeys message) message || !Record.canKeep params then .error .unreadable
  else if !isOfVersion message then .ok .ignored
  else
    match method, message.field? "id" with
    | .string name, some id => .ok (.query id (.unknown name))
    | .string _, none => .ok .ignored
    | _, _ => .ok (.failing (.unfitMethod method.kindName))

def ofAnswer (id message : Json) : Except Trouble Incoming :=
  let result := (message.field? "result").getD .null
  let isGood := hasExactly ["jsonrpc", "id", "result"] message && Record.canKeep result
  if isGood && !id.isContainer then .ok .ignored else .error .unreadable

def ofErrorAnswer (id message : Json) : Except Trouble Incoming :=
  let shape := Shape.record [required "code" Shape.integer, required "message" .anything]
  let error := (message.field? "error").getD .null
  if !(isNull error || shape.fits error) then .error .malformed
  else if textAt message ["jsonrpc"] ≠ exchangeVersion then .ok .ignored
  else if id.isContainer then .ok (.failing (.unfitIdentity id.kindName))
  else .ok .ignored

def ofCall (method message : Json) : Except Trouble Incoming :=
  match method with
  | .string name =>
    match Method.ofName? name with
    | some m => ofMethod m message
    | none => ofUnknown method message
  | _ => if method.isContainer then .error .unreadable else ofUnknown method message

def ofMarked (message : Json) : Except Trouble Incoming :=
  match message.field? "id", message.has "error", message.field? "method" with
  | some id, true, _ => ofErrorAnswer id message
  | some id, false, none => ofAnswer id message
  | none, _, none => .error .unreadable
  | _, _, some method => ofCall method message

def judge? (j : Json) : Option Trouble :=
  if j.has "jsonrpc" then
    match ofMarked j with
    | .error t => some t
    | .ok _ => none
  else none

mutual

/-- The first trouble with a message inside a value. Values are judged from the inside out. -/
def inner? : Json → Option Trouble
  | .array items => innerOfItems? items
  | .object entries => innerOfEntries? entries
  | _ => none

def innerOfItems? : List Json → Option Trouble
  | [] => none
  | j :: rest => (inner? j).or ((judge? j).or (innerOfItems? rest))

def innerOfEntries? : List (String × Json) → Option Trouble
  | [] => none
  | (_, j) :: rest => (inner? j).or ((judge? j).or (innerOfEntries? rest))

end

def ofJson (message : Json) : Except Trouble Incoming :=
  match inner? message with
  | some t => .error t
  | none =>
    if message.has "jsonrpc" then ofMarked message else .error (.notAMessage message.kindName)

end Incoming

end JqTemplate.Server
