import JqTemplate.Text.Blank

namespace JqTemplate.Highlight

structure Options where
  stripAll : Bool := false
  stripLines : Bool := true
  tabSize : Int := 0
  endLine : Bool := true
  deriving DecidableEq, Repr

def unifyLines : List Char → List Char
  | [] => []
  | c :: rest =>
    if c = '\r' then
      if rest.head? = some '\n' then unifyLines rest else '\n' :: unifyLines rest
    else c :: unifyLines rest

/-- Tabs become spaces up to the next multiple of the tab size. -/
def expandTabs (size : Nat) : (column : Nat) → List Char → List Char
  | _, [] => []
  | column, c :: rest =>
    if c = '\t' then
      let width := size - column % size
      List.replicate width ' ' ++ expandTabs size (column + width) rest
    else if c = '\n' ∨ c = '\r' then c :: expandTabs size 0 rest
    else c :: expandTabs size (column + 1) rest

def stripLineFeeds (text : List Char) : List Char :=
  ((text.dropWhile (fun c => c = '\n')).reverse.dropWhile (fun c => c = '\n')).reverse

def byteOrderMark : Char := '\ufeff'

def prepare (o : Options) (text : List Char) : List Char :=
  let unmarked := if text.head? = some byteOrderMark then text.tail else text
  let unified := unifyLines unmarked
  let stripped :=
    if o.stripAll then Text.trim unified
    else if o.stripLines then stripLineFeeds unified
    else unified
  let expanded := if o.tabSize > 0 then expandTabs o.tabSize.toNat 0 stripped else stripped
  if o.endLine && expanded.getLast? ≠ some '\n' then expanded ++ ['\n'] else expanded

end JqTemplate.Highlight
