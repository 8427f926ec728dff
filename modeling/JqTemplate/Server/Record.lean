import JqTemplate.Server.Shape
import JqTemplate.Text.Alphanumeric

/-! Values of which no shape is known. An object among them becomes a record, which may bring
its own name and can have no message inside. -/
namespace JqTemplate.Server.Record

def reserved : List String :=
  ["False", "None", "True", "and", "as", "assert", "async", "await", "break", "class", "continue",
   "def", "del", "elif", "else", "except", "finally", "for", "from", "global", "if", "import", "in",
   "is", "lambda", "nonlocal", "not", "or", "pass", "raise", "return", "try", "while", "with",
   "yield"]

def isLetter (c : Char) : Bool := c = '_' || (Text.isAlphanumeric c && (Text.digitValue? c).isNone)

def isName (text : String) : Bool :=
  match text.toList with
  | [] => false
  | c :: rest =>
    isLetter c && rest.all (fun c => c = '_' || Text.isAlphanumeric c) && !reserved.contains text

mutual

def holdsMessage : Json → Bool
  | .array items => holdsMessageItems items
  | .object entries => isSealed (.object entries) || holdsMessageEntries entries
  | _ => false

def holdsMessageItems : List Json → Bool
  | [] => false
  | j :: rest => holdsMessage j || holdsMessageItems rest

def holdsMessageEntries : List (String × Json) → Bool
  | [] => false
  | (_, j) :: rest => holdsMessage j || holdsMessageEntries rest

end

def isNamedWell (j : Json) : Bool :=
  match j.field? "type_name" with
  | some name => isName name.asText
  | none => true

/-- Whether a value can be kept. What is no object, or is a message itself, always can. -/
def canKeep (j : Json) : Bool :=
  match j with
  | .object _ => isSealed j || (isNamedWell j && !holdsMessage j)
  | _ => true

end JqTemplate.Server.Record
