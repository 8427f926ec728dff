import JqTemplate.Server.Uri

/-! What a client has open. Documents and notebooks are known by their names without escapes,
so that two spellings of one name mean the same document. -/
namespace JqTemplate.Server

structure Workspace where
  documents : List String := []
  notebooks : List String := []
  deriving DecidableEq, Repr

def spelledOut (uri : String) : String := String.ofList (decoded uri.toList)

inductive WorkspaceFault where
  | name (fault : HostFault)
  | notOpen (name : String)
  deriving DecidableEq, Repr

/-- What a message does to the workspace. A change finds its document or notebook there, and
folders are not looked at. -/
inductive Upkeep where
  | openDocument (uri : String)
  | findDocument (uri : String)
  | closeDocument (uri : String)
  | openNotebook (uri : String)
  | findNotebook (uri : String)
  | closeNotebook (uri : String)
  | folders
  deriving DecidableEq, Repr

namespace Workspace

def found (names : List String) (uri : String) : Except WorkspaceFault Unit :=
  if names.contains (spelledOut uri) then .ok () else .error (.notOpen (spelledOut uri))

def without (names : List String) (uri : String) : List String :=
  names.filter fun name => name ≠ spelledOut uri

def step (w : Workspace) : Upkeep → Except WorkspaceFault Workspace
  | .openDocument uri =>
    match checkName uri with
    | .error fault => .error (.name fault)
    | .ok () => .ok { w with documents := spelledOut uri :: w.documents }
  | .findDocument uri => (found w.documents uri).map fun () => w
  | .closeDocument uri => .ok { w with documents := without w.documents uri }
  | .openNotebook uri => .ok { w with notebooks := spelledOut uri :: w.notebooks }
  | .findNotebook uri => (found w.notebooks uri).map fun () => w
  | .closeNotebook uri => .ok { w with notebooks := without w.notebooks uri }
  | .folders => .ok w

/-- The first fault ends the work; what was done before it stays. -/
def keepUp (w : Workspace) : List Upkeep → Workspace × Option WorkspaceFault
  | [] => (w, none)
  | task :: rest =>
    match w.step task with
    | .error fault => (w, some fault)
    | .ok w' => w'.keepUp rest

end Workspace

/-- A change without content touches no document. -/
def Notification.upkeep : Notification → List Upkeep
  | .opened uri _ _ => [.openDocument uri]
  | .changed uri _ changes => if changes.isEmpty then [] else [.findDocument uri]
  | .closed uri => [.closeDocument uri]

end JqTemplate.Server
