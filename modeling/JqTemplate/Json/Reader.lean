import JqTemplate.Json
import JqTemplate.Text.Quoted

namespace JqTemplate.Json

def isSpace (c : Char) : Bool := c = ' ' || c = '\t' || c = '\n' || c = '\r'

def skipSpace (text : List Char) : List Char := text.dropWhile isSpace

def readUnit? (text : List Char) : Option (Nat × List Char) :=
  if text.length < 4 then none
  else (Text.hexNumber? (text.take 4)).map fun n => (n, text.drop 4)

def isHighSurrogate (n : Nat) : Bool := 0xd800 ≤ n && n < 0xdc00
def isLowSurrogate (n : Nat) : Bool := 0xdc00 ≤ n && n < 0xe000

def readLowHalf? (text : List Char) : Option (Nat × List Char) :=
  match text with
  | '\x5c' :: 'u' :: rest =>
    (readUnit? rest).bind fun (n, after) => if isLowSurrogate n then some (n, after) else none
  | _ => none

/-- Two halves make one character. A half by itself is replaced. -/
def readUnicode? (text : List Char) : Option (Char × List Char) :=
  (readUnit? text).map fun (n, rest) =>
    if isHighSurrogate n then
      match readLowHalf? rest with
      | some (low, after) => (Char.ofNat (0x10000 + (n - 0xd800) * 0x400 + (low - 0xdc00)), after)
      | none => ('\ufffd', rest)
    else if isLowSurrogate n then ('\ufffd', rest)
    else (Char.ofNat n, rest)

def simpleEscape? (c : Char) : Option Char :=
  if c = 'b' then some '\x08'
  else if c = 'f' then some '\x0c'
  else if c = 'n' then some '\n'
  else if c = 'r' then some '\r'
  else if c = 't' then some '\t'
  else if c = '/' ∨ c = Text.backslash ∨ c = Text.doubleQuote then some c
  else none

def readEscape? (text : List Char) : Option (Char × List Char) :=
  match text with
  | [] => none
  | c :: rest => if c = 'u' then readUnicode? rest else (simpleEscape? c).map fun d => (d, rest)

def readStringBody : (steps : Nat) → List Char → Option (List Char × List Char)
  | 0, _ => none
  | _ + 1, [] => none
  | steps + 1, c :: rest =>
    if c = Text.doubleQuote then some ([], rest)
    else if c = Text.backslash then
      (readEscape? rest).bind fun (d, after) =>
        (readStringBody steps after).map fun (text, remaining) => (d :: text, remaining)
    else if c.toNat < 32 then none
    else (readStringBody steps rest).map fun (text, remaining) => (c :: text, remaining)

def readString? (text : List Char) : Option (String × List Char) :=
  match text with
  | [] => none
  | c :: rest =>
    if c = Text.doubleQuote then
      (readStringBody rest.length rest).map fun (s, after) => (String.ofList s, after)
    else none

def digitsOf (text : List Char) : List Char := text.takeWhile Char.isDigit

def valueOf (digits : List Char) : Nat := digits.foldl (fun n c => 10 * n + (c.toNat - 48)) 0

def readFraction (text : List Char) : List Char × List Char :=
  match text with
  | '.' :: rest =>
    let digits := digitsOf rest
    if digits.isEmpty then ([], text) else (digits, rest.drop digits.length)
  | _ => ([], text)

def readPower (text : List Char) : Option Int × List Char :=
  let (negative, unsigned) := match text with
    | '-' :: rest => (true, rest)
    | '+' :: rest => (false, rest)
    | _ => (false, text)
  let digits := digitsOf unsigned
  let size : Int := valueOf digits
  if digits.isEmpty then (none, text)
  else (some (if negative then -size else size), unsigned.drop digits.length)

def readExponent (text : List Char) : Option Int × List Char :=
  match text with
  | mark :: rest =>
    match if mark = 'e' ∨ mark = 'E' then readPower rest else (none, rest) with
    | (some power, after) => (some power, after)
    | (none, _) => (none, text)
  | [] => (none, [])

def readUnsigned? (negative : Bool) (text : List Char) : Option (Json × List Char) :=
  let digits := if text.head? = some '0' then ['0'] else digitsOf text
  let (fraction, afterFraction) := readFraction (text.drop digits.length)
  let (power, rest) := readExponent afterFraction
  if digits.isEmpty then none
  else if fraction.isEmpty && power.isNone then
    let n : Int := valueOf digits
    some (.number (if negative then -n else n), rest)
  else
    let exponent := power.getD 0 - fraction.length
    let value := Decimal.Binary64.ofDecimal negative (valueOf (digits ++ fraction)) exponent
    some (.float value, rest)

def readNumber? (text : List Char) : Option (Json × List Char) :=
  match text with
  | '-' :: rest => readUnsigned? true rest
  | _ => readUnsigned? false text

def readWord? (text : List Char) : Option (Json × List Char) :=
  match text with
  | 'n' :: 'u' :: 'l' :: 'l' :: rest => some (.null, rest)
  | 't' :: 'r' :: 'u' :: 'e' :: rest => some (.bool true, rest)
  | 'f' :: 'a' :: 'l' :: 's' :: 'e' :: rest => some (.bool false, rest)
  | _ => none

def readScalar? (text : List Char) : Option (Json × List Char) :=
  match readString? text with
  | some (s, rest) => some (.string s, rest)
  | none =>
    match readWord? text with
    | some found => some found
    | none => readNumber? text

def expect? (mark : Char) (text : List Char) : Option (List Char) :=
  match skipSpace text with
  | [] => none
  | c :: rest => if c = mark then some rest else none

mutual

/-- Every step takes at least one character, so as many steps as characters are enough. -/
def readValue : (steps : Nat) → List Char → Option (Json × List Char)
  | 0, _ => none
  | steps + 1, text =>
    match expect? '[' text, expect? '{' text with
    | some rest, _ =>
      match expect? ']' rest with
      | some after => some (.array [], after)
      | none => (readItems steps rest).map fun (items, after) => (.array items, after)
    | none, some rest =>
      match expect? '}' rest with
      | some after => some (.object [], after)
      | none => (readEntries steps rest).map fun (entries, after) => (.object entries, after)
    | none, none => readScalar? (skipSpace text)

def readItems : (steps : Nat) → List Char → Option (List Json × List Char)
  | 0, _ => none
  | steps + 1, text =>
    match readValue steps text with
    | none => none
    | some (j, rest) =>
      match expect? ',' rest with
      | some more => (readItems steps more).map fun (items, after) => (j :: items, after)
      | none => (expect? ']' rest).map fun after => ([j], after)

def readEntries : (steps : Nat) → List Char → Option (List (String × Json) × List Char)
  | 0, _ => none
  | steps + 1, text =>
    match readString? (skipSpace text) with
    | none => none
    | some (key, rest) =>
      match (expect? ':' rest).bind (readValue steps) with
      | none => none
      | some (j, rest) =>
        match expect? ',' rest with
        | some more => (readEntries steps more).map fun (entries, after) => ((key, j) :: entries, after)
        | none => (expect? '}' rest).map fun after => ([(key, j)], after)

end

def read? (text : List Char) : Option Json :=
  match readValue (2 * text.length + 2) text with
  | some (j, rest) => if (skipSpace rest).isEmpty then some j else none
  | none => none

end JqTemplate.Json
