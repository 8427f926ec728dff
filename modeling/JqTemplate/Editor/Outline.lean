import JqTemplate.Block
import JqTemplate.Editor.Range
import JqTemplate.Order
import JqTemplate.Text.Blank

/-! The outline of a document: blocks, bindings and nested templates, nested by the blocks
that enclose them. -/
namespace JqTemplate.Editor

inductive SymbolKind where
  | conditional
  | loop
  | binding
  | template
  deriving DecidableEq, Repr

def SymbolKind.number : SymbolKind → Nat
  | .template => 1
  | .binding => 13
  | .conditional => 17
  | .loop => 18

def SymbolKind.detail : SymbolKind → String
  | .template => "tmpl"
  | .binding => "var"
  | .conditional => "if"
  | .loop => "each"

def SymbolKind.ofBlock : BlockKind → SymbolKind
  | .conditional => .conditional
  | .loop => .loop

def SymbolKind.ofLeaf? (s : Statement) : Option SymbolKind :=
  match s.keyword? with
  | some .binding => some .binding
  | some .template => some .template
  | _ => none

structure Symbol where
  name : List Char
  kind : SymbolKind
  range : Range
  selection : Range
  children : List Symbol

structure Leaf where
  statement : Statement
  kind : SymbolKind
  deriving DecidableEq, Repr

def leaves (statements : List Statement) : List Leaf :=
  statements.filterMap fun s => (SymbolKind.ofLeaf? s).map fun kind => ⟨s, kind⟩

def symbolName (text : List Char) (s : Statement) : List Char := Text.trim (s.span.inner text)

def leafSymbol (text : List Char) (leaf : Leaf) : Symbol :=
  let range := Range.ofSpan text leaf.statement.span
  ⟨symbolName text leaf.statement, leaf.kind, range, range, []⟩

def within (span : Span) (leaf : Leaf) : Bool := span.contains leaf.statement.span

def unclaimed (blocks : List Block) (candidates : List Leaf) : List Leaf :=
  candidates.filter fun leaf => !blocks.any (fun b => within b.span leaf)

def byStart (symbols : List Symbol) : List Symbol :=
  stableSort (fun a b => a.range.start.before b.range.start) symbols

mutual

/-- A block takes the leaves inside its span; its own blocks have the first choice. -/
def blockSymbol (text : List Char) (candidates : List Leaf) : Block → Symbol
  | ⟨kind, opener, closer, branches, children⟩ =>
    let block : Block := ⟨kind, opener, closer, branches, children⟩
    let inner := candidates.filter (within block.span)
    { name := symbolName text opener
      kind := SymbolKind.ofBlock kind
      range := Range.ofSpan text block.span
      selection := Range.ofSpan text opener.span
      children := byStart (rowSymbols text inner children ++
        (unclaimed children inner).map (leafSymbol text)) }

def rowSymbols (text : List Char) (candidates : List Leaf) : List Block → List Symbol
  | [] => []
  | b :: rest => blockSymbol text candidates b :: rowSymbols text candidates rest

end

def outline (text : List Char) (statements : List Statement) (blocks : List Block) :
    List Symbol :=
  let candidates := leaves statements
  byStart (rowSymbols text candidates blocks ++
    (unclaimed blocks candidates).map (leafSymbol text))

end JqTemplate.Editor
