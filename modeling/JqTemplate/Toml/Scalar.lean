import JqTemplate.Toml.Text

/-! Numbers, dates and times of TOML. Each function takes the longest form of its kind from
the head of a text, or nothing. -/
namespace JqTemplate.Toml

def takeDigits (isDigit : Char → Bool) : List Char → List Char × List Char
  | [] => ([], [])
  | c :: rest =>
    if isDigit c || (c = '_' && rest.head?.any isDigit) then
      let (taken, after) := takeDigits isDigit rest
      (c :: taken, after)
    else ([], c :: rest)

def digitRun? (isDigit : Char → Bool) (text : List Char) : Option (List Char × List Char) :=
  if text.head?.any isDigit then some (takeDigits isDigit text) else none

def digitsValue (base : Nat) (digits : List Char) : Nat :=
  (digits.filterMap Text.hexValue?).foldl (fun acc d => base * acc + d) 0

def isDecimalDigit (c : Char) : Bool := c.isDigit

def isHexDigit (c : Char) : Bool := (Text.hexValue? c).isSome

def basedNumber? (text : List Char) : Option (Value × List Char) :=
  match text with
  | '0' :: mark :: rest =>
    let read (base : Nat) (isDigit : Char → Bool) :=
      (digitRun? isDigit rest).map fun (digits, after) =>
        (Value.integer (digitsValue base digits), after)
    if mark = 'x' then read 16 isHexDigit
    else if mark = 'b' then read 2 (fun c => c = '0' || c = '1')
    else if mark = 'o' then read 8 (fun c => c.isDigit && c ≠ '8' && c ≠ '9')
    else none
  | _ => none

def sign (text : List Char) : Bool × List Char :=
  match text with
  | '-' :: rest => (true, rest)
  | '+' :: rest => (false, rest)
  | _ => (false, text)

def wholePart? (text : List Char) : Option (List Char × List Char) :=
  match text with
  | '0' :: rest => some (['0'], rest)
  | _ => digitRun? isDecimalDigit text

def fractionPart (text : List Char) : Option (List Char) × List Char :=
  match text with
  | '.' :: rest =>
    match digitRun? isDecimalDigit rest with
    | some (digits, after) => (some digits, after)
    | none => (none, text)
  | _ => (none, text)

def exponentPart (text : List Char) : Option Int × List Char :=
  match text with
  | mark :: rest =>
    if mark = 'e' ∨ mark = 'E' then
      let (negative, unsigned) := sign rest
      match digitRun? isDecimalDigit unsigned with
      | some (digits, after) =>
        let size : Int := digitsValue 10 digits
        (some (if negative then -size else size), after)
      | none => (none, text)
    else (none, text)
  | [] => (none, text)

def withoutUnderscores (digits : List Char) : List Char := digits.filter fun c => c ≠ '_'

def decimalNumber? (text : List Char) : Option (Value × List Char) :=
  let (negative, unsigned) := sign text
  (wholePart? unsigned).map fun (whole, afterWhole) =>
    let (fraction, afterFraction) := fractionPart afterWhole
    let (exponent, rest) := exponentPart afterFraction
    if fraction.isNone && exponent.isNone then
      let n : Int := digitsValue 10 whole
      (.integer (if negative then -n else n), rest)
    else
      let decimals := withoutUnderscores (fraction.getD [])
      let digits := digitsValue 10 (whole ++ decimals)
      (.float (Decimal.Binary64.ofDecimal negative digits (exponent.getD 0 - decimals.length)), rest)

def number? (text : List Char) : Option (Value × List Char) :=
  (basedNumber? text).orElse fun _ => decimalNumber? text

/-- How many digits the integer at the head of a text has in base ten. A float, or a number in
another base, counts as none. -/
def integerLength (text : List Char) : Nat :=
  match basedNumber? text, decimalNumber? text, wholePart? (sign text).2 with
  | none, some (.integer _, _), some (whole, _) => whole.countP isDecimalDigit
  | _, _, _ => 0

def specialFloat? (text : List Char) : Option (Value × List Char) :=
  let (negative, unsigned) := sign text
  if ['i', 'n', 'f'].isPrefixOf unsigned then some (.float (.infinite negative), unsigned.drop 3)
  else if ['n', 'a', 'n'].isPrefixOf unsigned then some (.float .nan, unsigned.drop 3)
  else none

def fixedNumber? (width low high : Nat) (text : List Char) : Option (Nat × List Char) :=
  let digits := text.take width
  let n := digitsValue 10 digits
  if digits.length = width ∧ digits.all isDecimalDigit ∧ low ≤ n ∧ n ≤ high then
    some (n, text.drop width)
  else none

def mark? (c : Char) (text : List Char) : Option (List Char) :=
  if text.head? = some c then some text.tail else none

def date? (text : List Char) : Option (Date × List Char) := do
  let (year, rest) ← fixedNumber? 4 0 9999 text
  let rest ← mark? '-' rest
  let (month, rest) ← fixedNumber? 2 1 12 rest
  let rest ← mark? '-' rest
  let (day, rest) ← fixedNumber? 2 1 31 rest
  some (⟨year, month, day⟩, rest)

/-- Digits behind the point of the seconds; those past the sixth are dropped. -/
def microseconds (text : List Char) : Nat × List Char :=
  match text with
  | '.' :: rest =>
    match rest.takeWhile isDecimalDigit with
    | [] => (0, text)
    | digits =>
      let kept := digits.take 6
      (digitsValue 10 kept * Nat.pow 10 (6 - kept.length), rest.dropWhile isDecimalDigit)
  | _ => (0, text)

def time? (text : List Char) : Option (Time × List Char) := do
  let (hour, rest) ← fixedNumber? 2 0 23 text
  let rest ← mark? ':' rest
  let (minute, rest) ← fixedNumber? 2 0 59 rest
  let rest ← mark? ':' rest
  let (second, rest) ← fixedNumber? 2 0 59 rest
  let (micros, rest) := microseconds rest
  some (⟨hour, minute, second, micros⟩, rest)

def zoneOffset? (text : List Char) : Option (Zone × List Char) := do
  let (hours, rest) ← fixedNumber? 2 0 23 text
  let rest ← mark? ':' rest
  let (minutes, rest) ← fixedNumber? 2 0 59 rest
  some ((60 * hours + minutes : Nat), rest)

def zone (text : List Char) : Option Zone × List Char :=
  match text with
  | c :: rest =>
    if c = 'Z' ∨ c = 'z' then (some 0, rest)
    else if c = '+' ∨ c = '-' then
      match zoneOffset? rest with
      | some (offset, after) => (some (if c = '-' then -offset else offset), after)
      | none => (none, text)
    else (none, text)
  | [] => (none, text)

def timeAfterDate? (text : List Char) : Option (Time × Option Zone × List Char) :=
  match text with
  | c :: rest =>
    if c = 'T' ∨ c = 't' ∨ c = ' ' then
      (time? rest).map fun (t, afterTime) =>
        let (z, after) := zone afterTime
        (t, z, after)
    else none
  | [] => none

/-- A date, with a time if one follows. The calendar is checked apart from the form. -/
def dateTime? (text : List Char) : Option (Date × Value × List Char) :=
  (date? text).map fun (d, rest) =>
    match timeAfterDate? rest with
    | some (t, z, after) => (d, .dateTime d t z, after)
    | none => (d, .date d, rest)

end JqTemplate.Toml
