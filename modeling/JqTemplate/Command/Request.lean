import JqTemplate.Command.Arguments
import JqTemplate.Files.Tree
import JqTemplate.Text.Alphanumeric

namespace JqTemplate.Command

open Files (Tree Place)

inductive Format where
  | terminal
  | html
  deriving DecidableEq, Repr

inductive Request where
  | help (scope : Scope)
  | version
  | parse (file : String) (asJson : Bool)
  | check (path : String) (color : Bool)
  | highlight (file : String) (format : Format) (plain : Bool)
  | serve (level : Server.Level) (logFile : Option String)
  deriving DecidableEq, Repr

/-- Why there is no request. A path with a null character is refused by the system before it
can be judged. -/
inductive Refusal where
  | noArguments
  | usage (scope : Scope) (fault : Fault)
  | nullInPath
  deriving DecidableEq, Repr

structure Context where
  tree : Tree
  folder : Place
  scope : Scope

namespace Context

def refuse (c : Context) {α : Type} (fault : Fault) : Except Refusal α :=
  .error (.usage c.scope fault)

def scanned (c : Context) (mixed : Bool) (args : List String) : Except Refusal Arguments :=
  match scan c.scope.options mixed args with
  | .ok a => .ok a
  | .error fault => c.refuse fault

def hasNull (path : String) : Bool := path.toList.contains '\x00'

/-- A path must lead to something if that is required, and where a file is wanted it must
not lead to a folder. -/
def checkPath (c : Context) (slot : Slot) (kind : PathKind) (required : Bool) (path : String) :
    Except Refusal Unit :=
  if hasNull path then .error .nullInPath
  else
    match c.tree.atText? c.folder path with
    | none => if required then c.refuse (.absent slot kind path) else .ok ()
    | some .folder => if kind = .file then c.refuse (.isFolder slot kind path) else .ok ()
    | some (.file _) => .ok ()

def folded (foldsCase : Bool) (value : String) : String :=
  if foldsCase then String.ofList (value.toList.map Char.toLower) else value

def checkValue (c : Context) (option : Opt) (value : String) : Except Refusal Unit :=
  match option.accepts with
  | .nothing => .ok ()
  | .choice foldsCase names =>
    if names.contains (folded foldsCase value) then .ok ()
    else c.refuse (.notAmong option value names)
  | .file => c.checkPath (.option option) .file false value

/-- Options are judged in the order of their first occurrences, each by its last value. -/
def checkOptions (c : Context) (a : Arguments) : Except Refusal Unit :=
  a.mentioned.forM fun option => c.checkValue option ((a.value? option).getD "")

def checkExtra (c : Context) (extra : List String) : Except Refusal Unit :=
  if extra.isEmpty then .ok () else c.refuse (.extraOperands extra)

/-- The value of the operand. It is judged before surplus operands are. -/
def readOperand (c : Context) (operand : Operand) (operands : List String) :
    Except Refusal String :=
  match operands with
  | [] =>
    match operand.default with
    | some path => .ok path
    | none => c.refuse (.missingOperand operand)
  | path :: extra =>
    match c.checkPath (.operand operand) operand.kind true path with
    | .error refusal => .error refusal
    | .ok () => (c.checkExtra extra).map fun () => path

def readCommand (c : Context) (command : Command) (a : Arguments) : Except Refusal String :=
  match c.checkOptions a with
  | .error refusal => .error refusal
  | .ok () =>
    match command.operand? with
    | some operand => c.readOperand operand a.operands
    | none => (c.checkExtra a.operands).map fun () => ""

end Context

def formatOf (value : Option String) : Format := if value = some "html" then .html else .terminal

def levelOf (value : Option String) : Server.Level :=
  (value.bind fun v => Server.Level.ofName? (Context.folded true v)).getD .warning

def requestOf (command : Command) (a : Arguments) (operand : String) : Request :=
  match command with
  | .parse => .parse operand (a.has .json)
  | .check => .check operand (!a.has .noColor)
  | .highlight => .highlight operand (formatOf (a.value? .format)) (a.has .plain)
  | .lsp => .serve (levelOf (a.value? .logLevel)) (a.value? .logFile)

def immediateRequest (scope : Scope) (option : Opt) : Request :=
  if option = .version then .version else .help scope

def commandRequest (t : Tree) (folder : Place) (command : Command) (args : List String) :
    Except Refusal Request :=
  let c : Context := ⟨t, folder, .command command⟩
  match c.scanned true args with
  | .error refusal => .error refusal
  | .ok a =>
    match a.immediate? with
    | some option => .ok (immediateRequest c.scope option)
    | none => (c.readCommand command a).map (requestOf command a)

/-- A name with a letter or digit at its head is never taken for an option. -/
def isPlainName (name : String) : Bool :=
  match name.toList with
  | [] => true
  | c :: _ => Text.isAlphanumeric c

def unknownCommand (word : String) : Fault :=
  .noSuchCommand word (similarNames (all.map Command.name) word)

/-- The name of a command that is none may be an option that stands behind two hyphens. -/
def unknownRequest (c : Context) (name : String) (args : List String) : Except Refusal Request :=
  if isPlainName name then c.refuse (unknownCommand name)
  else
    match c.scanned false (name :: args) with
    | .error refusal => .error refusal
    | .ok a =>
      match a.immediate? with
      | some option => .ok (immediateRequest c.scope option)
      | none => c.refuse (unknownCommand name)

def Request.ofArguments (t : Tree) (folder : Place) (args : List String) :
    Except Refusal Request :=
  let c : Context := ⟨t, folder, .program⟩
  if args.isEmpty then .error .noArguments
  else
    match c.scanned false args with
    | .error refusal => .error refusal
    | .ok a =>
      match a.immediate?, a.operands with
      | some option, _ => .ok (immediateRequest c.scope option)
      | none, [] => c.refuse .missingCommand
      | none, name :: rest =>
        match Command.ofName? name with
        | some command => commandRequest t folder command rest
        | none => unknownRequest c name rest

end JqTemplate.Command
