import JqTemplate.Editor.Range
import JqTemplate.Snippet

namespace JqTemplate.Editor

structure CompletionItem where
  snippet : Snippet
  filterText : String
  sortText : String
  range : Range
  deriving DecidableEq, Repr

def completionRange (text : List Char) (line column : Int) : Range :=
  let start := offsetOf .codePoint text line 0
  let cursor := offsetOf .utf16 text line column
  let (first, last) := replacementRange (lineAt text line) ((cursor : Int) - start)
  ⟨editorPosition text ((start + first : Nat) : Int), editorPosition text ((start + last : Nat) : Int)⟩

def twoDigits (n : Nat) : String := if n < 10 then s!"0{n}" else s!"{n}"

def completionItems (text : List Char) (line column : Int) : List CompletionItem :=
  let range := completionRange text line column
  Snippet.catalog.zipIdx.map fun (snippet, i) =>
    { snippet := snippet
      filterText := openMark ++ snippet.label
      sortText := twoDigits i
      range := range }

end JqTemplate.Editor
