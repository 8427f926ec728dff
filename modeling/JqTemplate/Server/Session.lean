import JqTemplate.Config.Locate
import JqTemplate.Editor.Completion
import JqTemplate.Editor.Folding
import JqTemplate.Editor.Limits
import JqTemplate.Editor.Marker
import JqTemplate.Editor.Outline
import JqTemplate.Files.Path
import JqTemplate.Store

/-! The language server as a step function: a state and a notification give the next state
and what the client and the log get to see. Reading the name of a document and loading a
configuration may fail. What they give is a parameter, so that nothing here depends on the form of
names or on files. -/
namespace JqTemplate.Server

open Files (Path)
open Editor (Marker)
open Text (CodePoint)

def name : String := "jqtpl-language-server"
def version : String := "0.1.0"

structure Part where
  startLine : Int
  startColumn : Int
  stopLine : Int
  stopColumn : Int
  deriving DecidableEq, Repr

/-- A new text for a document or for a part of it. The text of a changed part is taken for the
whole document. -/
structure Change where
  text : List CodePoint
  part : Option Part := none
  deriving DecidableEq, Repr

inductive Notification where
  | opened (uri : String) (text : List CodePoint) (version : Int)
  | changed (uri : String) (version : Int) (changes : List Change)
  | closed (uri : String)
  deriving DecidableEq, Repr

def Notification.uri : Notification → String
  | .opened uri _ _ | .changed uri _ _ | .closed uri => uri

def Part.check (p : Part) : Except Editor.OutOfBounds Unit := do
  Editor.checkPosition p.startLine p.startColumn
  Editor.checkPosition p.stopLine p.stopColumn

/-- Whether the numbers of a notification can be exchanged at all. Those inside changes are
judged before the version. -/
def Notification.check : Notification → Except Editor.OutOfBounds Unit
  | .opened _ _ version => Editor.integers.check "TextDocumentItem.version" version
  | .changed _ version changes => do
    (changes.filterMap Change.part).forM Part.check
    Editor.integers.check "VersionedTextDocumentIdentifier.version" version
  | .closed _ => .ok ()

inductive Level where
  | debug
  | info
  | warning
  | error
  deriving DecidableEq, Repr

namespace Level

def all : List Level := [.debug, .info, .warning, .error]

def name : Level → String
  | .debug => "debug"
  | .info => "info"
  | .warning => "warning"
  | .error => "error"

def ofName? (s : String) : Option Level := all.find? fun level => level.name = s

def rank : Level → Nat
  | .debug => 0
  | .info => 1
  | .warning => 2
  | .error => 3

def reaches (level threshold : Level) : Bool := threshold.rank ≤ level.rank

end Level

inductive Event where
  | publish (uri : String) (version : Option Int) (markers : List Marker)
  | log (message : String)
  | record (level : Level) (message : String)
  deriving DecidableEq, Repr

def greeting : List Event := [.log (name ++ " reports for duty!")]

def farewell : List Event := [.log (name ++ " says bye, bye!")]

structure State where
  store : Store
  configs : List (Path × Config)

def State.start : State := ⟨Store.empty, []⟩

/-- Reads the name of a document: the path of the file that it stands for, if it stands for one.
The fault of a name that cannot be read is told by its text. -/
abbrev NameReader := String → Except String (Option String)

def NameReader.folder? (names : NameReader) (uri : String) : Except String (Option Path) :=
  (names uri).map fun found => found.map fun path => (Path.ofString path).parent

abbrev Loader := Path → Except Config.Fault Config

inductive Fault where
  | name (text : String)
  | config (fault : Config.Fault)

def Fault.message : Fault → String
  | .name text => text
  | .config fault => fault.message

/-- Why a notification is not dealt with to its end: the name of a document to open is faulty, or
the place of a finding cannot be told. -/
inductive Escape where
  | name (text : String)
  | place (fault : Editor.PlaceFault)
  deriving DecidableEq, Repr

def Escape.message : Escape → String
  | .name text => text
  | .place fault => fault.message

/-- The state after a notification, what the client and the log got to see by then, and the fault
that was left to the caller. -/
structure Handled where
  state : State
  events : List Event := []
  escape : Option Escape := none

def Handled.recorded (h : Handled) (level : Level) (message : String) : Handled :=
  { h with events := .record level message :: h.events }

namespace State

variable (names : NameReader) (load : Loader)

/-- The configuration for a document. A folder that was asked for before is not looked at
again; a failure is not kept. -/
def configFor (s : State) (uri : String) : State × Except Fault Config :=
  match names.folder? uri with
  | .error fault => (s, .error (.name fault))
  | .ok none => (s, .ok {})
  | .ok (some folder) =>
    match s.configs.lookup folder with
    | some config => (s, .ok config)
    | none =>
      match load folder with
      | .ok config => ({ s with configs := (folder, config) :: s.configs }, .ok config)
      | .error fault => (s, .error (.config fault))

def forgetConfig (s : State) (uri : String) : State :=
  match names.folder? uri with
  | .ok (some folder) => { s with configs := s.configs.filter fun e => e.1 ≠ folder }
  | _ => s

def markersOf (d : Document) : Except Editor.PlaceFault (List Marker) :=
  d.result.diagnostics.mapM (Marker.ofDiagnostic? d.text)

/-- The document is stored before its diagnostics are put in their exchange format. -/
def accept (s : State) (store : Store) (d : Document) : Handled :=
  let s := { s with store := store }
  match markersOf d with
  | .ok markers => { state := s, events := [.publish d.uri (some d.version) markers] }
  | .error fault => { state := s, escape := some (.place fault) }

/-- Analyzes a text under the configuration of its folder. When that cannot be loaded, the
documents stay as they are and the client learns of the failure. -/
def update (s : State) (uri : String) (text : List CodePoint) (version : Int) (isOpening : Bool) :
    Handled :=
  match s.configFor names load uri with
  | (s, .error fault) =>
    { state := s
      events := [.record .error ("analysis of " ++ uri ++ " failed"),
        .publish uri (some version) [Marker.internal "analysis failed" fault.message]] }
  | (s, .ok config) =>
    if isOpening then
      let (store, d) := s.store.openDocument config.check uri text version
      s.accept store d
    else
      match s.store.change config.check uri text version with
      | (store, some d) => s.accept store d
      | (_, none) =>
        { state := s, events := [.record .debug s!"dropping stale version {version} of {uri}"] }

def changedText (changes : List Change) : List CodePoint :=
  (changes.getLast?.map Change.text).getD []

/-- Opening a document is the time to look again for its configuration. Under a faulty name
nothing is opened. -/
def notify (s : State) : Notification → Handled
  | .opened uri text version =>
    let handled : Handled := match names uri with
      | .error fault => { state := s, escape := some (.name fault) }
      | .ok _ => (s.forgetConfig names uri).update names load uri text version true
    handled.recorded .info ("did open " ++ uri)
  | .changed uri version changes =>
    (s.update names load uri (changedText changes) version false).recorded .info
      ("did change " ++ uri)
  | .closed uri =>
    { state := { s with store := (s.store.close uri).1 }
      events := [.record .info ("did close " ++ uri), .publish uri none []] }

/-- The text of a document; one that is not open counts as empty. -/
def textOf (s : State) (uri : String) : List Char :=
  ((s.store.get? uri).map Document.source).getD []

def completion (s : State) (uri : String) (line column : Int) : List Editor.CompletionItem :=
  Editor.completionItems (s.textOf uri) line column

def symbols (s : State) (uri : String) : List Editor.Symbol :=
  match s.store.get? uri with
  | some d => Editor.outline d.source d.statements d.result.blocks
  | none => []

def folds (s : State) (uri : String) : List Editor.Fold :=
  match s.store.get? uri with
  | some d => Editor.folds d.source d.result.blocks
  | none => []

end State

end JqTemplate.Server
