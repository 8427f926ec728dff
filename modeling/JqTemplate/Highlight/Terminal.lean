import JqTemplate.Highlight.Token

namespace JqTemplate.Highlight

/-- Where a text is cut into lines: line feeds and the vertical, separator and next-line
controls, as well as the two separators of Unicode. -/
def endsLine (c : Char) : Bool :=
  let n := c.toNat
  (0xa ≤ n && n ≤ 0xd) || (0x1c ≤ n && n ≤ 0x1e) || n = 0x85 || n = 0x2028 || n = 0x2029

def linesWithEnds : List Char → List (List Char)
  | [] => []
  | c :: rest =>
    let cutHere := endsLine c && !(c = '\r' && rest.head? = some '\n')
    match linesWithEnds rest with
    | [] => [[c]]
    | line :: lines => if cutHere then [c] :: line :: lines else (c :: line) :: lines

def color? : TokenKind → Option String
  | .whitespace => some "\x1b[37m"
  | .multilineComment => some "\x1b[37m"
  | .preprocessor => some "\x1b[36m"
  | .keyword => some "\x1b[34m"
  | .attribute => some "\x1b[36m"
  | .tag => some "\x1b[94m"
  | .string => some "\x1b[33m"
  | .error => some "\x1b[04m\x1b[91m"
  | .other | .operator | .name | .text | .punctuation | .entity => none

def colorEnd : String := "\x1b[39;49;00m"

def terminalLine (color : Option String) (line : List Char) : List Char :=
  let shown := if line.getLast? = some '\n' then line.dropLast else line
  let feed := if line.getLast? = some '\n' then ['\n'] else []
  match color with
  | some c => c.toList ++ shown ++ colorEnd.toList ++ feed
  | none => shown ++ feed

def terminalPiece (p : Piece) : List Char :=
  (linesWithEnds p.value).flatMap (terminalLine (color? p.kind))

def terminal (pieces : List Piece) : List Char := pieces.flatMap terminalPiece

end JqTemplate.Highlight
