import JqTemplate.Server.Envelope

namespace JqTemplate.Server

open Message (Denial Trouble)

/-- The documents, and how far the session has come. There is no workspace before the
introduction. -/
structure Session where
  state : State
  workspace : Option Workspace := none
  closing : Bool := false

def Session.start : Session := { state := State.start }

structure Reaction where
  session : Session
  events : List Event := []
  replies : List Json := []
  ends : Bool := false

def Reaction.messages (r : Reaction) : List Json :=
  r.events.filterMap Message.ofEvent? ++ r.replies

namespace Session

def troubled (s : Session) (t : Trouble) : Reaction :=
  { session := s, replies := [Message.trouble t] }

def answer (s : Session) (id : Json) (q : Query) : Reaction :=
  let reply (result : Json) : Reaction := { session := s, replies := [Message.response id result] }
  let deny (d : Denial) : Reaction := { session := s, replies := [Message.denial id d] }
  match q with
  | .introduction client =>
    { session := { s with workspace := some {} }
      replies := [Message.response id (Message.introduction client)] }
  | .shutdown =>
    { session := { s with closing := true }
      events := farewell
      replies := [Message.response id .null] }
  | .completion uri line column =>
    reply (Message.completionList (s.state.completion uri line column))
  | .symbols uri => reply (.array (Message.symbols (s.state.symbols uri)))
  | .folds uri => reply (.array ((s.state.folds uri).map Message.fold))
  | .command name => deny (.unknownCommand name)
  | .unknown method => deny (.unknownMethod method)

/-- The workspace is looked after first. Where there is nothing to do, it is not needed. -/
def keepUp (s : Session) (tasks : List Upkeep) : Session × Option Trouble :=
  match s.workspace, tasks with
  | _, [] => (s, none)
  | none, _ :: _ => (s, some .notIntroduced)
  | some w, tasks =>
    let (w', fault?) := w.keepUp tasks
    ({ s with workspace := some w' }, fault?.map Trouble.workspace)

def notify (names : NameReader) (load : Loader) (s : Session) (n : Notification) : Reaction :=
  match s.keepUp n.upkeep with
  | (s, some t) => s.troubled t
  | (s, none) =>
    let handled := s.state.notify names load n
    { session := { s with state := handled.state }
      events := handled.events
      replies := handled.escape.toList.map fun fault => Message.trouble (.escaped fault) }

def tend (s : Session) (tasks : List Upkeep) : Reaction :=
  match s.keepUp tasks with
  | (s, some t) => s.troubled t
  | (s, none) => { session := s }

def receive (names : NameReader) (load : Loader) (s : Session) : Incoming → Reaction
  | .query id q => s.answer id q
  | .notification n => s.notify names load n
  | .ready => { session := s, events := greeting }
  | .exit => { session := s, ends := true }
  | .upkeep tasks => s.tend tasks
  | .ignored => { session := s }
  | .failing t => s.troubled t

/-- Once the session is closing, only its end is waited for; trouble is still told. -/
def react (names : NameReader) (load : Loader) (s : Session)
    (incoming : Except Trouble Incoming) : Reaction :=
  match incoming with
  | .error t => s.troubled t
  | .ok .exit => { session := s, ends := true }
  | .ok message => if s.closing then { session := s } else s.receive names load message

end Session

def conversation (names : NameReader) (load : Loader) : Session → List Json → List Json
  | _, [] => []
  | s, message :: rest =>
    let reaction := s.react names load (Incoming.ofJson message)
    if reaction.ends then reaction.messages
    else reaction.messages ++ conversation names load reaction.session rest

end JqTemplate.Server
