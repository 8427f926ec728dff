import JqTemplate.Json.Printer
import JqTemplate.Text.Digit

namespace JqTemplate.Json

mutual

def shown : Json → List Char
  | .null => "None".toList
  | .bool b => if b then "True".toList else "False".toList
  | .number n => (toString n).toList
  | .float f => f.text
  | .string s => Text.quoted s.toList
  | .array items => '[' :: joined [',', ' '] (shownItems items) ++ [']']
  | .object entries => '{' :: joined [',', ' '] (shownEntries entries) ++ ['}']

def shownItems : List Json → List (List Char)
  | [] => []
  | j :: rest => shown j :: shownItems rest

def shownEntries : List (String × Json) → List (List Char)
  | [] => []
  | (key, j) :: rest => (Text.quoted key.toList ++ ':' :: ' ' :: shown j) :: shownEntries rest

end

/-- A value taken for a text. A string is the text itself, any other value is shown. -/
def asText : Json → String
  | .string s => s
  | j => String.ofList j.shown

/-- A value taken for a whole number. Fractions are cut off, and a string may hold digits. -/
def asWhole? : Json → Option Int
  | .number n => some n
  | .bool b => some (if b then 1 else 0)
  | .float f => f.truncated?
  | .string s => Text.integer? s.toList
  | _ => none

/-- Whole numbers from here on are beyond the greatest float, and so are those below the
opposite of this number. -/
def floatLimit : Nat := Nat.pow 2 1024 - Nat.pow 2 970

def isReal : Json → Bool
  | .number n => n.natAbs < floatLimit
  | .bool _ | .float _ => true
  | .string s => Text.isReal s.toList
  | _ => false

def elements? : Json → Option (List Json)
  | .array items => some items
  | .object entries => some (entries.map fun e => .string e.1)
  | .string s => some (s.toList.map fun c => .string (String.singleton c))
  | _ => none

def isContainer : Json → Bool
  | .array _ | .object _ => true
  | _ => false

def kindName : Json → String
  | .null => "NoneType"
  | .bool _ => "bool"
  | .number _ => "int"
  | .float _ => "float"
  | .string _ => "str"
  | .array _ => "list"
  | .object _ => "dict"

end JqTemplate.Json
