import JqTemplate.Block
import JqTemplate.Order
import JqTemplate.Position

namespace JqTemplate.Editor

structure Fold where
  startLine : Nat
  stopLine : Nat
  deriving DecidableEq, Repr

def lineOf (text : List Char) (offset : Int) : Nat :=
  (Position.ofOffset .codePoint text offset).line

def foldOf? (text : List Char) (b : Block) : Option Fold :=
  b.closer.bind fun closer =>
    let start := lineOf text b.opener.span.start
    let stop := lineOf text closer.span.start
    if stop > start then some ⟨start, stop⟩ else none

/-- Of ranges that start on one line, the first is that of the block met first when the
forest is walked from its end. -/
def folds (text : List Char) (blocks : List Block) : List Fold :=
  sortByKey (fun f => (f.startLine : Int))
    ((Block.forestLastFirst blocks).filterMap (foldOf? text))

end JqTemplate.Editor
