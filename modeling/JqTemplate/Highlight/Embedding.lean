import JqTemplate.Highlight.Template

/-! A template inside a host language. The host reads the content with all directives
removed; then the tokens of the directives go back to where they stood, and host tokens
are cut where a directive interrupts them. -/
namespace JqTemplate.Highlight

/-- Directive tokens that stand together, and where in the host's text they belong. -/
structure Insertion where
  index : Nat
  tokens : List Token
  deriving DecidableEq, Repr

/-- The host's text and the insertions. `length` is that of the host text so far, `run` the
directive tokens since its last piece. -/
def splitHost : (length : Nat) → (run : List Token) → List Token → List Char × List Insertion
  | length, run, [] => ([], if run.isEmpty then [] else [⟨length, run⟩])
  | length, run, t :: rest =>
    if t.kind = .other then
      let (text, insertions) := splitHost (length + t.value.length) [] rest
      (t.value ++ text, if run.isEmpty then insertions else ⟨length, run⟩ :: insertions)
    else splitHost length (run ++ [t]) rest

def insertionTokens (offset : Nat) (i : Insertion) : List Token :=
  layOut offset (i.tokens.map Token.piece)

def totalLength (tokens : List Token) : Nat :=
  tokens.foldr (fun t total => t.value.length + total) 0

/-- A host token with the insertions that fall into it or onto its end. `done` characters of
it are already laid out. -/
structure Cut where
  tokens : List Token
  offset : Nat
  left : List Insertion

def cutToken (t : Token) : (done offset : Nat) → List Insertion → Cut
  | done, offset, [] =>
    let remaining := layOut offset [⟨t.kind, t.value.drop done⟩]
    ⟨remaining, offset + totalLength remaining, []⟩
  | done, offset, i :: rest =>
    if t.offset + t.value.length ≥ i.index then
      let before := layOut offset [⟨t.kind, (t.value.take (i.index - t.offset)).drop done⟩]
      let inserted := insertionTokens (offset + totalLength before) i
      let cut := cutToken t (i.index - t.offset)
        (offset + totalLength before + totalLength inserted) rest
      { cut with tokens := before ++ inserted ++ cut.tokens }
    else
      let remaining := layOut offset [⟨t.kind, t.value.drop done⟩]
      ⟨remaining, offset + totalLength remaining, i :: rest⟩

def remainingTokens : (offset : Nat) → List Insertion → List Token
  | _, [] => []
  | offset, i :: rest =>
    let inserted := insertionTokens offset i
    inserted ++ remainingTokens (offset + totalLength inserted) rest

def weave : (offset : Nat) → List Insertion → List Token → List Token
  | offset, insertions, [] => remainingTokens offset insertions
  | offset, insertions, t :: rest =>
    let cut := cutToken t 0 offset insertions
    cut.tokens ++ weave cut.offset cut.left rest

/-- Without insertions the host's tokens stand as they are; otherwise offsets are counted
from that of the first host token. -/
def embed (host : List Char → List Token) (source : List Char) : List Token :=
  let (text, insertions) := splitHost 0 [] (templateTokens source)
  let tokens := host text
  match insertions with
  | [] => tokens
  | _ => weave ((tokens.head?.map fun t => t.offset).getD 0) insertions tokens

end JqTemplate.Highlight
