import JqTemplate.Statement

namespace JqTemplate

inductive BlockKind where
  | conditional
  | loop
  deriving DecidableEq, Repr

namespace BlockKind

def opener : BlockKind → Keyword
  | .conditional => .openIf
  | .loop => .openEach

def closer : BlockKind → Keyword
  | .conditional => .closeIf
  | .loop => .closeEach

end BlockKind

structure Block where
  kind : BlockKind
  opener : Statement
  closer : Option Statement
  branches : List Statement
  children : List Block

namespace Block

def isClosed (b : Block) : Bool := b.closer.isSome

def span (b : Block) : Span :=
  ⟨b.opener.span.start, (b.closer.getD b.opener).span.stop⟩

mutual

def preorder : Block → List Block
  | ⟨kind, opener, closer, branches, children⟩ =>
    ⟨kind, opener, closer, branches, children⟩ :: forestPreorder children

def forestPreorder : List Block → List Block
  | [] => []
  | b :: rest => preorder b ++ forestPreorder rest

end

mutual

/-- The block and everything inside it, where of two blocks side by side the later one comes
first. -/
def lastFirst : Block → List Block
  | ⟨kind, opener, closer, branches, children⟩ =>
    ⟨kind, opener, closer, branches, children⟩ :: forestLastFirst children

def forestLastFirst : List Block → List Block
  | [] => []
  | b :: rest => forestLastFirst rest ++ lastFirst b

end

end Block

end JqTemplate
