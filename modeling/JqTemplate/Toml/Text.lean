import JqTemplate.Toml.Fault

namespace JqTemplate.Toml

def isBlank (c : Char) : Bool := c = ' ' || c = '\t'

def isBlankOrLine (c : Char) : Bool := isBlank c || c = '\n'

def isControl (c : Char) : Bool := c.toNat < 32 || c.toNat = 127

def isIllegal (c : Char) : Bool := isControl c && c ≠ '\t'

def isIllegalInLines (c : Char) : Bool := isIllegal c && c ≠ '\n'

def skipBlanks (text : List Char) : List Char := text.dropWhile isBlank

def skipCommentBody : List Char → Except Fault (List Char)
  | [] => .ok []
  | c :: rest =>
    if c = '\n' then .ok (c :: rest)
    else if isIllegal c then fail (.invalidCharacter c) (c :: rest)
    else skipCommentBody rest

def skipComment (text : List Char) : Except Fault (List Char) :=
  match text with
  | '#' :: rest => skipCommentBody rest
  | _ => .ok text

def skipLayout : (inComment : Bool) → List Char → Except Fault (List Char)
  | _, [] => .ok []
  | true, c :: rest =>
    if c = '\n' then skipLayout false rest
    else if isIllegal c then fail (.invalidCharacter c) (c :: rest)
    else skipLayout true rest
  | false, c :: rest =>
    if isBlankOrLine c then skipLayout false rest
    else if c = '#' then skipLayout true rest
    else .ok (c :: rest)

def splitAtDelimiter (delimiter : List Char) : List Char → Option (List Char × List Char)
  | [] => none
  | c :: rest =>
    if delimiter.isPrefixOf (c :: rest) then some ([], (c :: rest).drop delimiter.length)
    else (splitAtDelimiter delimiter rest).map fun (inside, after) => (c :: inside, after)

def readLiteral (delimiter : List Char) (illegal : Char → Bool) : Reader (List Char) := fun text =>
  match splitAtDelimiter delimiter text with
  | none => fail (.missingDelimiter delimiter) []
  | some (inside, after) =>
    match inside.find? illegal with
    | some c => fail (.invalidCharacter c) (text.dropWhile fun c => !illegal c)
    | none => .ok (inside, after)

def isScalarValue (n : Nat) : Bool := n < 0xd800 || (0xe000 ≤ n && n < 0x110000)

def readHexChar (width : Nat) : Reader (List Char) := fun text =>
  let digits := (text.take width).filterMap Text.hexValue?
  if digits.length ≠ width then fail .invalidHex text
  else
    let n := digits.foldl (fun acc d => 16 * acc + d) 0
    let rest := text.drop width
    if isScalarValue n then .ok ([Char.ofNat n], rest) else fail .notScalar rest

def simpleEscape? (c : Char) : Option Char :=
  if c = 'b' then some '\x08'
  else if c = 't' then some '\t'
  else if c = 'n' then some '\n'
  else if c = 'f' then some '\x0c'
  else if c = 'r' then some '\r'
  else if c = Text.doubleQuote then some c
  else if c = Text.backslash then some c
  else none

/-- The end of a line in a string over several lines, with all layout up to the next text. A
backslash may stand before it only if nothing but blanks separates the two. -/
def readLineEnd : Reader (List Char) := fun text =>
  match skipBlanks text with
  | [] => .ok ([], [])
  | c :: rest =>
    if c = '\n' then .ok ([], rest.dropWhile isBlankOrLine) else fail .unknownEscape (c :: rest)

def readEscape (lines : Bool) : Reader (List Char) := fun text =>
  match text with
  | [] => fail .unknownEscape []
  | c :: rest =>
    if lines && isBlankOrLine c then readLineEnd (c :: rest)
    else if c = 'u' then readHexChar 4 rest
    else if c = 'U' then readHexChar 8 rest
    else
      match simpleEscape? c with
      | some d => .ok ([d], rest)
      | none => fail .unknownEscape rest

def readBasicBody (lines : Bool) : (steps : Nat) → Reader (List Char)
  | 0, text => fail .unterminatedString text
  | _ + 1, [] => fail .unterminatedString []
  | steps + 1, c :: rest =>
    if c = Text.doubleQuote then
      if !lines then .ok ([], rest)
      else if rest.take 2 = [Text.doubleQuote, Text.doubleQuote] then .ok ([], rest.drop 2)
      else (readBasicBody lines steps rest).map fun (body, after) => (c :: body, after)
    else if c = Text.backslash then
      match readEscape lines rest with
      | .error fault => .error fault
      | .ok (escaped, after) =>
        (readBasicBody lines steps after).map fun (body, after) => (escaped ++ body, after)
    else if (if lines then isIllegalInLines c else isIllegal c) then
      fail (.illegalCharacter c) (c :: rest)
    else (readBasicBody lines steps rest).map fun (body, after) => (c :: body, after)

def readBasic (lines : Bool) : Reader (List Char) := fun text =>
  readBasicBody lines (text.length + 1) text

def dropLineFeed (text : List Char) : List Char :=
  match text with
  | '\n' :: rest => rest
  | _ => text

/-- Up to two quotes directly before the closing three belong to the text. -/
def takeExtraQuotes (quote : Char) (body rest : List Char) : List Char × List Char :=
  let extra := (rest.take 2).takeWhile fun c => c = quote
  (body ++ extra, rest.drop extra.length)

def readString (quote : Char) : Reader (List Char) := fun text =>
  let basic := quote = Text.doubleQuote
  let triple := [quote, quote, quote]
  if triple.isPrefixOf text then
    let body := dropLineFeed (text.drop 3)
    let result := if basic then readBasic true body else readLiteral triple isIllegalInLines body
    result.map fun (inside, rest) => takeExtraQuotes quote inside rest
  else if basic then readBasic false (text.drop 1)
  else readLiteral [quote] isIllegal (text.drop 1)

def isBareKeyChar (c : Char) : Bool := c.isAlphanum || c = '-' || c = '_'

/-- One part of a key. Its quotes never enclose several lines. -/
def readKeyPart : Reader Key := fun text =>
  match text with
  | [] => fail .invalidKey []
  | c :: rest =>
    if isBareKeyChar c then
      .ok ((c :: rest).takeWhile isBareKeyChar, (c :: rest).dropWhile isBareKeyChar)
    else if c = Text.apostrophe then readLiteral [Text.apostrophe] isIllegal rest
    else if c = Text.doubleQuote then readBasic false rest
    else fail .invalidKey (c :: rest)

def readKeyParts : (steps : Nat) → Reader (List Key)
  | 0, text => fail .invalidKey text
  | steps + 1, text =>
    match readKeyPart text with
    | .error fault => .error fault
    | .ok (part, rest) =>
      match skipBlanks rest with
      | '.' :: more =>
        (readKeyParts steps (skipBlanks more)).map fun (parts, after) => (part :: parts, after)
      | after => .ok ([part], after)

def readKey : Reader (List Key) := fun text => readKeyParts (text.length + 1) text

end JqTemplate.Toml
