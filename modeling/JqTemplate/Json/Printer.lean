import JqTemplate.Decimal.Shortest
import JqTemplate.Json
import JqTemplate.Text.Quoted

namespace JqTemplate.Json

def unicodeEscape (n : Nat) : List Char := Text.backslash :: 'u' :: Text.hexDigits 4 n

/-- Everything outside printable ASCII is escaped, in two halves beyond sixteen bits. -/
def escapeChar (c : Char) : List Char :=
  let n := c.toNat
  if c = Text.doubleQuote ∨ c = Text.backslash then [Text.backslash, c]
  else if c = '\n' then [Text.backslash, 'n']
  else if c = '\r' then [Text.backslash, 'r']
  else if c = '\t' then [Text.backslash, 't']
  else if n = 8 then [Text.backslash, 'b']
  else if n = 12 then [Text.backslash, 'f']
  else if 32 ≤ n ∧ n < 127 then [c]
  else if n < 0x10000 then unicodeEscape n
  else unicodeEscape (0xd800 + (n - 0x10000) / 0x400) ++
    unicodeEscape (0xdc00 + (n - 0x10000) % 0x400)

def stringText (s : String) : List Char :=
  Text.doubleQuote :: s.toList.flatMap escapeChar ++ [Text.doubleQuote]

structure Layout where
  indent : Option Nat

def Layout.lineBreak (l : Layout) (depth : Nat) : List Char :=
  match l.indent with
  | some width => '\n' :: List.replicate (width * depth) ' '
  | none => []

def Layout.separator (l : Layout) (depth : Nat) : List Char :=
  match l.indent with
  | some _ => ',' :: l.lineBreak depth
  | none => [',', ' ']

def joined (separator : List Char) : List (List Char) → List Char
  | [] => []
  | [x] => x
  | x :: rest => x ++ separator ++ joined separator rest

def enclosed (l : Layout) (depth : Nat) (first last : Char) (parts : List (List Char)) :
    List Char :=
  if parts.isEmpty then [first, last]
  else first :: l.lineBreak (depth + 1) ++ joined (l.separator (depth + 1)) parts ++
    l.lineBreak depth ++ [last]

mutual

def write (l : Layout) (depth : Nat) : Json → List Char
  | .null => "null".toList
  | .bool b => if b then "true".toList else "false".toList
  | .number n => (toString n).toList
  | .float f => f.text
  | .string s => stringText s
  | .array items => enclosed l depth '[' ']' (writeItems l (depth + 1) items)
  | .object entries => enclosed l depth '{' '}' (writeEntries l (depth + 1) entries)

def writeItems (l : Layout) (depth : Nat) : List Json → List (List Char)
  | [] => []
  | j :: rest => write l depth j :: writeItems l depth rest

def writeEntries (l : Layout) (depth : Nat) : List (String × Json) → List (List Char)
  | [] => []
  | (key, j) :: rest =>
    (stringText key ++ [':', ' '] ++ write l depth j) :: writeEntries l depth rest

end

def compact (j : Json) : String := String.ofList (write ⟨none⟩ 0 j)

def indented (j : Json) : String := String.ofList (write ⟨some 2⟩ 0 j)

end JqTemplate.Json
