import JqTemplate.Highlight.Token
import JqTemplate.Statement.Stream
import JqTemplate.Text.Blank

namespace JqTemplate.Highlight

def keywordKind : Keyword → TokenKind
  | .print => .operator
  | _ => .keyword

def bodyPieces (form : Form) (body : List Char) : List Piece :=
  match form with
  | .directive k =>
    let rest := body.drop k.letters.length
    [⟨keywordKind k, k.letters⟩, ⟨.whitespace, Text.leadingBlanks rest⟩,
     ⟨.name, Text.trimStart rest⟩]
  | _ => [⟨.error, body⟩]

/-- The marks stand at the two ends of the span, and the body is laid out behind the first. -/
def statementTokens (source : List Char) (s : Statement) : List Token :=
  let start := s.span.start.toNat
  match s.form with
  | .content => [⟨start, .other, s.span.text source⟩]
  | .directive .comment => [⟨start, .multilineComment, s.span.text source⟩]
  | form =>
    ⟨start, .preprocessor, ['{', '{']⟩ ::
      layOut (start + 2) (bodyPieces form (s.span.inner source)) ++
      [⟨(s.span.stop - 2).toNat, .preprocessor, ['}', '}']⟩]

def templateTokens (source : List Char) : List Token :=
  (parse source).flatMap (statementTokens source)

end JqTemplate.Highlight
