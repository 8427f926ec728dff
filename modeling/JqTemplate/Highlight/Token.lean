namespace JqTemplate.Highlight

inductive TokenKind where
  | other
  | multilineComment
  | preprocessor
  | error
  | operator
  | keyword
  | whitespace
  | name
  | text
  | punctuation
  | tag
  | attribute
  | entity
  | string
  deriving DecidableEq, Repr

def TokenKind.path : TokenKind → String
  | .other => "Other"
  | .multilineComment => "Comment.Multiline"
  | .preprocessor => "Comment.Preproc"
  | .error => "Error"
  | .operator => "Operator"
  | .keyword => "Keyword"
  | .whitespace => "Text.Whitespace"
  | .name => "Name"
  | .text => "Text"
  | .punctuation => "Punctuation"
  | .tag => "Name.Tag"
  | .attribute => "Name.Attribute"
  | .entity => "Name.Entity"
  | .string => "Literal.String"

structure Piece where
  kind : TokenKind
  value : List Char
  deriving DecidableEq, Repr

structure Token where
  offset : Nat
  kind : TokenKind
  value : List Char
  deriving DecidableEq, Repr

def Token.piece (t : Token) : Piece := ⟨t.kind, t.value⟩

/-- Pieces laid one after the other from an offset on. Empty pieces leave no token. -/
def layOut : Nat → List Piece → List Token
  | _, [] => []
  | offset, p :: rest =>
    if p.value.isEmpty then layOut offset rest
    else ⟨offset, p.kind, p.value⟩ :: layOut (offset + p.value.length) rest

/-- The tokens cover a text from an offset on: none is empty, each begins where the one
before it ends, and together their values are the text. -/
def Tiles : Nat → List Char → List Token → Prop
  | _, text, [] => text = []
  | offset, text, t :: rest =>
    t.value ≠ [] ∧ t.offset = offset ∧
      ∃ remaining, text = t.value ++ remaining ∧ Tiles (offset + t.value.length) remaining rest

end JqTemplate.Highlight
