import JqTemplate.Command.Help
import JqTemplate.Order
import JqTemplate.Text.Quoted
import JqTemplate.Text.Similarity

namespace JqTemplate.Command

inductive Slot where
  | option (o : Opt)
  | operand (o : Operand)
  deriving DecidableEq, Repr

def Slot.shown : Slot → String
  | .option o => o.name
  | .operand o => o.shown

inductive Fault where
  | noSuchOption (name : String) (similar : List String)
  | noSuchCommand (name : String) (similar : List String)
  | missingValue (option : Opt)
  | unwantedValue (option : Opt)
  | missingCommand
  | missingOperand (operand : Operand)
  | extraOperands (extra : List String)
  | notAmong (option : Opt) (value : String) (names : List String)
  | absent (slot : Slot) (kind : PathKind) (path : String)
  | isFolder (slot : Slot) (kind : PathKind) (path : String)
  deriving DecidableEq, Repr

def PathKind.shown : PathKind → String
  | .file => "File"
  | .any => "Path"

def shownList (words : List String) : String :=
  String.intercalate ", " (words.map Text.quotedString)

def suggestion (similar : List String) : String :=
  match similar with
  | [] => ""
  | [word] => " Did you mean " ++ Text.quotedString word ++ "?"
  | words => " (Did you mean one of: " ++ shownList words ++ "?)"

def invalid (slot : Slot) (reason : String) : String :=
  "Invalid value for '" ++ slot.shown ++ "': " ++ reason

def Fault.message : Fault → String
  | .noSuchOption name similar =>
    "No such option " ++ Text.quotedString name ++ "." ++ suggestion similar
  | .noSuchCommand name similar =>
    "No such command " ++ Text.quotedString name ++ "." ++ suggestion similar
  | .missingValue option => "Option '" ++ option.name ++ "' requires an argument."
  | .unwantedValue option => "Option '" ++ option.name ++ "' does not take a value."
  | .missingCommand => "Missing command."
  | .missingOperand operand => "Missing argument '" ++ operand.shown ++ "'."
  | .extraOperands [word] => "Got unexpected extra argument (" ++ word ++ ")"
  | .extraOperands words =>
    "Got unexpected extra arguments (" ++ String.intercalate " " words ++ ")"
  | .notAmong option value names =>
    invalid (.option option) (Text.quotedString value ++ " is not one of " ++ shownList names ++ ".")
  | .absent slot kind path =>
    invalid slot (kind.shown ++ " " ++ Text.quotedString path ++ " does not exist.")
  | .isFolder slot kind path =>
    invalid slot (kind.shown ++ " " ++ Text.quotedString path ++ " is a directory.")

/-- A fault in the way an option is joined to its value is told without usage lines. -/
def Fault.isBare : Fault → Bool
  | .missingValue _ | .unwantedValue _ => true
  | _ => false

def Fault.report (scope : Scope) (f : Fault) : String :=
  let usage :=
    if f.isBare then []
    else [scope.usage, "Try '" ++ scope.path ++ " --help' for help.", ""]
  ended (usage ++ ["Error: " ++ f.message])

def similarNames (names : List String) (word : String) : List String :=
  let found := (Text.similar word.toList (names.map String.toList)).map String.ofList
  stableSort (fun a b => decide (a < b)) found

end JqTemplate.Command
