import JqTemplate.Check
import JqTemplate.Files.System
import JqTemplate.Text.Utf8
import JqTemplate.Toml.Document

/-! The configuration file: which checks run, how grave an unknown directive is, and which
files are templates. What the file leaves out keeps its default. -/
namespace JqTemplate

structure Config where
  check : CheckConfig := {}
  patterns : List String := ["*.jqtpl", "*.tmpl"]
  deriving DecidableEq, Repr

namespace Config

def fileName : String := "jqtpl.toml"

inductive Complaint where
  | malformed (message : String)
  | unknownSeverity (value : Toml.Value)
  | structureNotBoolean (value : Toml.Value)
  | patternsNotStrings (value : Toml.Value)

/-- Why no configuration could be had. An integer of too many digits stops the reading, or
keeps a complaint from being told. -/
inductive Fault where
  | complaint (path : String) (cause : Complaint)
  | tooManyDigits (count : Option Nat)
  | notATable (typeName : String)
  | undecodable (fault : Text.Utf8.Fault)
  | access (fault : Files.AccessFault)
  | unresolved (fault : Files.ResolveFault)
  | notFound

def shown (value : Toml.Value) : String := String.ofList value.show

def Complaint.value? : Complaint → Option Toml.Value
  | .malformed _ => none
  | .unknownSeverity value | .structureNotBoolean value | .patternsNotStrings value => some value

def Complaint.message : Complaint → String
  | .malformed message => message
  | .unknownSeverity value =>
    "check.unknown must be one of " ++ String.intercalate ", " (Severity.all.map Severity.text) ++
      ", got " ++ shown value
  | .structureNotBoolean value => "check.structure must be true or false, got " ++ shown value
  | .patternsNotStrings value => "files.patterns must be a list of strings, got " ++ shown value

def Fault.message : Fault → String
  | .complaint path cause => path ++ ": " ++ cause.message
  | .tooManyDigits (some count) => (Toml.Failure.tooManyDigits count).message
  | .tooManyDigits none => Toml.tooManyDigitsText ""
  | .notATable typeName => "'" ++ typeName ++ "' object has no attribute 'get'"
  | .undecodable fault => fault.message
  | .access fault => fault.message
  | .unresolved fault => fault.message
  | .notFound => "No " ++ fileName ++ " found in any parent directory"

def Fault.isMissing : Fault → Bool
  | .notFound => true
  | .access fault => fault.obstacle.isMissing
  | _ => false

def complain (path : String) (cause : Complaint) : Fault :=
  if cause.value?.all Toml.Value.isShowable then .complaint path cause else .tooManyDigits none

def section? (data : Toml.Table) (name : String) : Except Fault (Option Toml.Table) :=
  match data.get? name.toList with
  | none => .ok none
  | some (.table entries) => .ok (some entries)
  | some value => .error (.notATable value.typeName)

def severityOf? (value : Toml.Value) : Option Severity :=
  match value with
  | .string text => Severity.ofText? (String.ofList text)
  | _ => none

def readSeverity (entries : Toml.Table) : Except Complaint Severity :=
  match entries.get? "unknown".toList with
  | none => .ok .error
  | some value =>
    match severityOf? value with
    | some severity => .ok severity
    | none => .error (.unknownSeverity value)

def readStructure (entries : Toml.Table) : Except Complaint Bool :=
  match entries.get? "structure".toList with
  | none => .ok true
  | some (.boolean b) => .ok b
  | some value => .error (.structureNotBoolean value)

def stringOf? (value : Toml.Value) : Option String :=
  match value with
  | .string text => some (String.ofList text)
  | _ => none

def readPatterns (entries : Toml.Table) : Except Complaint (List String) :=
  match entries.get? "patterns".toList with
  | none => .ok ({} : Config).patterns
  | some (.array items) =>
    match items.mapM stringOf? with
    | some patterns => .ok patterns
    | none => .error (.patternsNotStrings (.array items))
  | some value => .error (.patternsNotStrings value)

def readCheck (entries : Toml.Table) : Except Complaint CheckConfig :=
  match readSeverity entries with
  | .error c => .error c
  | .ok severity => (readStructure entries).map fun structural => ⟨structural, severity⟩

def readSection {α : Type} (path : String) (default : α) (read : Toml.Table → Except Complaint α)
    (entries : Option Toml.Table) : Except Fault α :=
  match entries with
  | none => .ok default
  | some entries =>
    match read entries with
    | .ok a => .ok a
    | .error c => .error (complain path c)

/-- Sections are read in turn, so that the first one at fault is reported. -/
def ofTable (path : String) (data : Toml.Table) : Except Fault Config := do
  let check ← readSection path {} readCheck (← section? data "check")
  let patterns ← readSection path ({} : Config).patterns readPatterns (← section? data "files")
  return ⟨check, patterns⟩

def ofText (path : String) (text : List Char) : Except Fault Config :=
  match Toml.parse text with
  | .error (.malformed message) => .error (.complaint path (.malformed message))
  | .error (.tooManyDigits count) => .error (.tooManyDigits (some count))
  | .ok data => ofTable path data

/-- The configuration in the octets of a file, if it could be opened; `path` is the name under which
faults report it. -/
def load (path : String) (content : Except Files.Obstacle (List Nat)) : Except Fault Config :=
  match content with
  | .error obstacle => .error (.access ⟨obstacle, path⟩)
  | .ok octets =>
    match Text.Utf8.decode octets with
    | .error fault => .error (.undecodable fault)
    | .ok text => ofText path text

end Config

end JqTemplate
