import JqTemplate.Toml.Value

namespace JqTemplate.Toml

inductive Cause where
  | invalidStatement
  | trailingText
  | invalidCharacter (c : Char)
  | illegalCharacter (c : Char)
  | missingDelimiter (delimiter : List Char)
  | unterminatedString
  | unknownEscape
  | invalidHex
  | notScalar
  | invalidKey
  | missingEquals
  | invalidValue
  | invalidDate
  | unclosedArray
  | unclosedInlineTable
  | duplicateInlineKey (key : Key)
  | unclosedHeader
  | unclosedArrayHeader
  | declaredTwice (path : List Key)
  | immutable (path : List Key)
  | redefined (path : List Key)
  | overwritten
  | tooManyDigits (count : Nat)
  deriving DecidableEq, Repr

/-- A path of keys; a single one keeps a comma. -/
def pathText (path : List Key) : String :=
  match path with
  | [key] => "(" ++ String.ofList (Text.quoted key) ++ ",)"
  | keys => "(" ++ String.ofList (commaSeparated (keys.map Text.quoted)) ++ ")"

def Cause.message : Cause → String
  | .invalidStatement => "Invalid statement"
  | .trailingText => "Expected newline or end of document after a statement"
  | .invalidCharacter c => "Found invalid character " ++ String.ofList (Text.quoted [c])
  | .illegalCharacter c => "Illegal character " ++ String.ofList (Text.quoted [c])
  | .missingDelimiter delimiter => "Expected " ++ String.ofList (Text.quoted delimiter)
  | .unterminatedString => "Unterminated string"
  | .unknownEscape => "Unescaped '\\' in a string"
  | .invalidHex => "Invalid hex value"
  | .notScalar => "Escaped character is not a Unicode scalar value"
  | .invalidKey => "Invalid initial character for a key part"
  | .missingEquals => "Expected '=' after a key in a key/value pair"
  | .invalidValue => "Invalid value"
  | .invalidDate => "Invalid date or datetime"
  | .unclosedArray => "Unclosed array"
  | .unclosedInlineTable => "Unclosed inline table"
  | .duplicateInlineKey key => "Duplicate inline table key " ++ String.ofList (Text.quoted key)
  | .unclosedHeader => "Expected ']' at the end of a table declaration"
  | .unclosedArrayHeader => "Expected ']]' at the end of an array declaration"
  | .declaredTwice path => "Cannot declare " ++ pathText path ++ " twice"
  | .immutable path => "Cannot mutate immutable namespace " ++ pathText path
  | .redefined path => "Cannot redefine namespace " ++ pathText path
  | .overwritten => "Cannot overwrite a value"
  | .tooManyDigits count => tooManyDigitsText (s!": value has {count} digits")

structure Fault where
  cause : Cause
  rest : List Char
  deriving DecidableEq, Repr

abbrev Reader (α : Type) := List Char → Except Fault (α × List Char)

def fail {α : Type} (cause : Cause) (rest : List Char) : Except Fault α := .error ⟨cause, rest⟩

/-- Lines and columns count from one. A fault behind the last character is at the end. -/
def Fault.place (f : Fault) (source : List Char) : String :=
  if f.rest.isEmpty then "end of document"
  else
    let before := source.take (source.length - f.rest.length)
    let line := before.countP (fun c => c = '\n') + 1
    let column := (before.reverse.takeWhile (fun c => c ≠ '\n')).length + 1
    s!"line {line}, column {column}"

/-- What is told about a document that cannot be read. A number that is too long is no fault of
the document, and is told without its place. -/
inductive Failure where
  | malformed (message : String)
  | tooManyDigits (count : Nat)
  deriving DecidableEq, Repr

def Fault.message (f : Fault) (source : List Char) : String :=
  f.cause.message ++ " (at " ++ f.place source ++ ")"

def Fault.failure (f : Fault) (source : List Char) : Failure :=
  match f.cause with
  | .tooManyDigits count => .tooManyDigits count
  | _ => .malformed (f.message source)

def Failure.message : Failure → String
  | .malformed message => message
  | .tooManyDigits count => (Cause.tooManyDigits count).message

end JqTemplate.Toml
