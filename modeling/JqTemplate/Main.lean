import JqTemplate.Command.Run
import JqTemplate.Json.Printer
import JqTemplate.Json.Reader
import JqTemplate.Server.Protocol

namespace JqTemplate.Program

open Files (Tree Place Path Entry)
open Command (Request)

def octetsOf (bytes : ByteArray) : List Nat := bytes.toList.map UInt8.toNat

def placeText (place : Place) : String := "/" ++ String.intercalate "/" place

def currentPlace : IO Place := do
  return (Path.ofString (← IO.currentDir).toString).parts

/-- Adds what stands at a place. The octets of a file are read only where they are wanted. -/
def addEntry (octets : Bool) (t : Tree) (place : Place) : IO Tree := do
  let path := (← IO.currentDir) / placeText place
  if ← path.isDir then return t.set place .folder
  if !(← path.pathExists) then return t
  if octets then return t.set place (.file (octetsOf (← IO.FS.readBinFile path)))
  return t.set place (.file [])

def addPath (octets : Bool) (folder : Place) (t : Tree) (p : Path) : IO Tree := do
  let stops := (List.range (p.parts.length + 1)).map fun n =>
    (Path.absolute folder { p with parts := p.parts.take n }).parts
  let t ← stops.foldlM (addEntry false) t
  addEntry octets t (p.absolute folder).parts

def addConfigs (t : Tree) (place : Place) : IO Tree :=
  (Config.ancestors place).foldlM (fun t p => addEntry true t (p ++ [Config.fileName])) t

/-- Adds all that is in a folder. Links to folders are not followed. -/
partial def addBelow (t : Tree) (place : Place) : IO Tree := do
  let path := (← IO.currentDir) / placeText place
  if !(← path.isDir) then return t
  (← path.readDir).foldlM (fun t child => do
    let inner := place ++ [child.fileName]
    let t ← addEntry false t inner
    match (← child.path.symlinkMetadata).type with
    | .dir => addBelow t inner
    | _ => pure t) t

def hasNull (arg : String) : Bool := arg.toList.contains '\x00'

def base (folder : Place) : Tree := Tree.empty.makeFolders folder

def namesIn (arg : String) : List String :=
  match arg.toList.dropWhile fun c => c ≠ '=' with
  | _ :: value => [arg, String.ofList value]
  | [] => [arg]

/-- The arguments as far as they name something, without the contents of files. -/
def glance (folder : Place) (args : List String) : IO Tree :=
  ((args.flatMap namesIn).filter fun name => !hasNull name).foldlM
    (fun t name => addPath false folder t (Path.ofString name)) (base folder)

def sources (t : Tree) (folder : Place) : Request → List Path
  | .parse file _ | .highlight file _ _ => [Path.ofString file]
  | .check path _ =>
    match Config.for? (t.system folder) (Path.ofString path) with
    | .ok config =>
      (Command.templates (t.system folder) config.patterns (Path.ofString path)).toOption.getD []
    | .error _ => []
  | _ => []

def addTarget (folder : Place) (t : Tree) : Request → IO Tree
  | .check path _ => do
    let target := Path.ofString path
    let t ← addPath false folder t target
    let place := (target.absolute folder).parts
    addConfigs (← addBelow t place) place
  | _ => pure t

def snapshot (folder : Place) (t : Tree) (request : Request) : IO Tree := do
  let t ← addTarget folder t request
  (sources t folder request).foldlM (addPath true folder) t

def finish (outcome : Except Command.Abort Command.Output) : IO UInt32 := do
  match outcome with
  | .ok output =>
    (← IO.getStdout).putStr output.stdout
    (← IO.getStderr).putStr output.stderr
    return UInt32.ofNat output.status
  | .error abort =>
    (← IO.getStderr).putStr (abort.message ++ "\n")
    return 1

def announced? (header : String) : Option Nat :=
  let text := header.toList.map Char.toLower
  let name := "content-length:".toList
  if name.isPrefixOf text then
    ((Json.read? (text.drop name.length)).bind Json.number?).map Int.toNat
  else none

/-- The headers end with an empty line. The last length counts; the input may end instead. -/
partial def readLength? (input : IO.FS.Stream) (found : Option Nat) : IO (Option Nat) := do
  let line ← input.getLine
  if line.isEmpty then return none
  if line.toList.all fun c => c = '\r' || c = '\n' then return found
  readLength? input ((announced? line).or found)

partial def readOctets (input : IO.FS.Stream) (missing : Nat) : IO (List Nat) := do
  if missing = 0 then return []
  let bytes ← input.read (USize.ofNat missing)
  if bytes.isEmpty then return []
  return octetsOf bytes ++ (← readOctets input (missing - bytes.size))

def incomingOf (octets : List Nat) : Except Server.Message.Trouble Server.Incoming :=
  match Text.Utf8.decode octets with
  | .error _ => .error .unreadable
  | .ok text =>
    match Json.read? text with
    | none => .error .unreadable
    | some message => Server.Incoming.ofJson message

def readIncoming? (input : IO.FS.Stream) :
    IO (Option (Except Server.Message.Trouble Server.Incoming)) := do
  match ← readLength? input none with
  | none => return none
  | some length => return some (incomingOf (← readOctets input length))

def writeMessage (output : IO.FS.Stream) (message : Json) : IO Unit := do
  let text := message.compact
  output.putStr s!"Content-Length: {text.utf8ByteSize}\r\n\r\n"
  output.putStr text
  output.flush

def recordLine? (threshold : Server.Level) : Server.Event → Option String
  | .record level message =>
    if level.reaches threshold then some (level.name ++ ": " ++ message ++ "\n") else none
  | _ => none

def logStream (logFile : Option String) : IO IO.FS.Stream := do
  match logFile with
  | some path => return IO.FS.Stream.ofHandle (← IO.FS.Handle.mk path .append)
  | none => IO.getStderr

def surroundings (folder : Place)
    (incoming : Except Server.Message.Trouble Server.Incoming) : IO Tree :=
  match incoming with
  | .ok (.notification n) => do
    match Server.readName.folder? n.uri with
    | .ok (some path) =>
      if path.hasNull then return base folder
      addConfigs (← addPath false folder (base folder) path) (path.absolute folder).parts
    | _ => return base folder
  | _ => pure (base folder)

structure Channels where
  input : IO.FS.Stream
  output : IO.FS.Stream
  log : IO.FS.Stream
  threshold : Server.Level

partial def serve (c : Channels) (folder : Place) (s : Server.Session) : IO UInt32 := do
  match ← readIncoming? c.input with
  | none => return 0
  | some incoming =>
    let tree ← surroundings folder incoming
    let reaction := s.react Server.readName (Config.for? (tree.system folder)) incoming
    (reaction.events.filterMap (recordLine? c.threshold)).forM c.log.putStr
    reaction.messages.forM (writeMessage c.output)
    if reaction.ends then return 0 else serve c folder reaction.session

end JqTemplate.Program

open JqTemplate in
def main (args : List String) : IO UInt32 := do
  let folder ← Program.currentPlace
  let tree ← Program.glance folder args
  match Command.Request.ofArguments tree folder args with
  | .ok (.serve threshold logFile) =>
    match Command.prepareServer (tree.system folder) logFile with
    | .error abort => Program.finish (.error abort)
    | .ok _ =>
      let channels := ⟨← IO.getStdin, ← IO.getStdout, ← Program.logStream logFile, threshold⟩
      Program.serve channels folder Server.Session.start
  | .ok request =>
    let tree ← Program.snapshot folder tree request
    let color := (← (← IO.getStdout).isTty) && (← (← IO.getStderr).isTty)
    Program.finish (Command.run tree folder color args)
  | .error refusal => Program.finish refusal.output
