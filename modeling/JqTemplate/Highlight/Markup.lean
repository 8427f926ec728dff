import JqTemplate.Highlight.Token
import JqTemplate.Text.Alphanumeric
import JqTemplate.Text.Blank

/-! Tokens of a markup document: text, entities, comments, declarations, and tags with
their attributes. Every text has tokens; a character that nothing can begin is an error of
its own. Script and style elements are read like all others. -/
namespace JqTemplate.Highlight

inductive MarkupMode where
  | content
  | tag
  | value
  deriving DecidableEq, Repr

structure Taken where
  pieces : List Piece
  mode : MarkupMode
  rest : List Char

def takeThrough (final : List Char) : List Char → Option (List Char × List Char)
  | [] => if final.isEmpty then some ([], []) else none
  | c :: rest =>
    if final.isPrefixOf (c :: rest) then some (final, (c :: rest).drop final.length)
    else (takeThrough final rest).map fun (taken, after) => (c :: taken, after)

def lowerAscii (c : Char) : Char := c.toLower

def isTagNameChar (c : Char) : Bool := Text.isWordChar c || c = ':' || c = '.' || c = '-'

def isAttributeChar (c : Char) : Bool := Text.isWordChar c || c = ':' || c = '-'

def takeEnclosed (kind : TokenKind) (mode : MarkupMode) (first final text : List Char) :
    Option Taken :=
  if (text.take first.length).map lowerAscii = first then
    (takeThrough final (text.drop first.length)).map fun (taken, rest) =>
      ⟨[⟨kind, text.take first.length ++ taken⟩], mode, rest⟩
  else none

def takeRun (kind : TokenKind) (mode : MarkupMode) (holds : Char → Bool) (text : List Char) :
    Option Taken :=
  match text.takeWhile holds with
  | [] => none
  | run => some ⟨[⟨kind, run⟩], mode, text.dropWhile holds⟩

def takePlain (text : List Char) : Option Taken :=
  takeRun .text .content (fun c => c ≠ '<' ∧ c ≠ '&') text

def takeEntity (text : List Char) : Option Taken :=
  match text with
  | '&' :: rest =>
    let name := rest.takeWhile fun c => !Text.isBlank c && c ≠ ';'
    match rest.dropWhile fun c => !Text.isBlank c && c ≠ ';' with
    | ';' :: after => some ⟨[⟨.entity, '&' :: name ++ [';']⟩], .content, after⟩
    | _ => none
  | _ => none

def takeDeclaration (text : List Char) : Option Taken :=
  match text with
  | '<' :: '!' :: rest =>
    match rest.dropWhile fun c => c ≠ '>' with
    | '>' :: after =>
      some ⟨[⟨.preprocessor, '<' :: '!' :: rest.takeWhile (fun c => c ≠ '>') ++ ['>']⟩], .content,
        after⟩
    | _ => none
  | _ => none

def takeOpenTag (text : List Char) : Option Taken :=
  match text with
  | '<' :: rest =>
    let blanks := Text.leadingBlanks rest
    let afterBlanks := Text.trimStart rest
    match afterBlanks.takeWhile isTagNameChar with
    | [] => none
    | name =>
      some ⟨[⟨.punctuation, ['<']⟩, ⟨.text, blanks⟩, ⟨.tag, name⟩], .tag,
        afterBlanks.dropWhile isTagNameChar⟩
  | _ => none

def takeCloseTag (text : List Char) : Option Taken :=
  match text with
  | '<' :: rest =>
    match Text.trimStart rest with
    | '/' :: afterSlash =>
      let named := Text.trimStart afterSlash
      match named.takeWhile isTagNameChar with
      | [] => none
      | name =>
        let afterName := named.dropWhile isTagNameChar
        match Text.trimStart afterName with
        | '>' :: after =>
          some ⟨[⟨.punctuation, ['<']⟩, ⟨.text, Text.leadingBlanks rest⟩, ⟨.punctuation, ['/']⟩,
            ⟨.text, Text.leadingBlanks afterSlash⟩, ⟨.tag, name⟩,
            ⟨.text, Text.leadingBlanks afterName⟩, ⟨.punctuation, ['>']⟩], .content, after⟩
        | _ => none
    | _ => none
  | _ => none

/-- An attribute name that has a value. Blanks before the equals sign belong to the name. -/
def takeAssignment (text : List Char) : Option Taken :=
  match text.takeWhile isAttributeChar with
  | [] => none
  | name =>
    let afterName := text.dropWhile isAttributeChar
    match Text.trimStart afterName with
    | '=' :: afterSign =>
      some ⟨[⟨.attribute, name ++ Text.leadingBlanks afterName⟩, ⟨.operator, ['=']⟩,
        ⟨.text, Text.leadingBlanks afterSign⟩], .value, Text.trimStart afterSign⟩
    | _ => none

def takeTagEnd (text : List Char) : Option Taken :=
  let slash := if text.head? = some '/' then ['/'] else []
  let afterSlash := text.drop slash.length
  match Text.trimStart afterSlash with
  | '>' :: after =>
    some ⟨[⟨.punctuation, slash⟩, ⟨.text, Text.leadingBlanks afterSlash⟩, ⟨.punctuation, ['>']⟩],
      .content, after⟩
  | _ => none

def markupRules : MarkupMode → List (List Char → Option Taken)
  | .content =>
    [takePlain, takeEntity,
     takeEnclosed .preprocessor .content ['<', '!', '[', 'c', 'd', 'a', 't', 'a', '['] [']', ']', '>'],
     takeEnclosed .multilineComment .content ['<', '!', '-', '-'] ['-', '-', '>'],
     takeEnclosed .preprocessor .content ['<', '?'] ['?', '>'],
     takeDeclaration, takeOpenTag, takeCloseTag]
  | .tag =>
    [takeRun .text .tag Text.isBlank, takeAssignment, takeRun .attribute .tag isAttributeChar,
     takeTagEnd]
  | .value =>
    [takeEnclosed .string .tag ['\x22'] ['\x22'], takeEnclosed .string .tag ['\x27'] ['\x27'],
     takeRun .string .tag (fun c => !Text.isBlank c && c ≠ '>')]

/-- The first rule that applies, else one character: a line feed puts the reader back
between tags, and any other character is an error. -/
def markupStep (mode : MarkupMode) (c : Char) (rest : List Char) : Taken :=
  match (markupRules mode).findSome? (fun rule => rule (c :: rest)) with
  | some taken => taken
  | none =>
    if c = '\n' then ⟨[⟨.whitespace, [c]⟩], .content, rest⟩ else ⟨[⟨.error, [c]⟩], mode, rest⟩

/-- Every step takes a character, so as many steps as there are characters are enough. -/
def markupPieces : Nat → MarkupMode → List Char → List Piece
  | 0, _, _ => []
  | _ + 1, _, [] => []
  | steps + 1, mode, c :: rest =>
    let taken := markupStep mode c rest
    taken.pieces ++ markupPieces steps taken.mode taken.rest

def markupTokens (text : List Char) : List Token :=
  layOut 0 (markupPieces text.length .content text)

end JqTemplate.Highlight
