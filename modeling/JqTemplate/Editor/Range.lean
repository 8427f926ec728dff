import JqTemplate.Editor.Limits
import JqTemplate.Position
import JqTemplate.Span
import JqTemplate.Text.CodePoint

namespace JqTemplate.Editor

structure Range where
  start : Position
  stop : Position
  deriving DecidableEq, Repr

def Range.origin : Range := ⟨Position.zero, Position.zero⟩

def editorPosition (text : List Char) (offset : Int) : Position :=
  Position.ofOffset .utf16 text offset

def Range.ofSpan (text : List Char) (span : Span) : Range :=
  ⟨editorPosition text span.start, editorPosition text span.stop⟩

/-- Why a place cannot be told to an editor. A surrogate before it on its line has no UTF-16 form,
and counts have a bound. -/
inductive PlaceFault where
  | unpaired (fault : Text.UnpairedFault)
  | outOfBounds (fault : OutOfBounds)
  deriving DecidableEq, Repr

def PlaceFault.message : PlaceFault → String
  | .unpaired fault => fault.message
  | .outOfBounds fault => fault.message

def checkColumn (text : List Text.CodePoint) (offset : Int) : Except PlaceFault Unit :=
  (Text.checkPaired 0 (Text.lastLine (text.take offset.toNat))).mapError .unpaired

def checkCounts (p : Position) : Except PlaceFault Unit :=
  (checkPosition p.line p.column).mapError .outOfBounds

/-- The columns of both ends are taken before either position is put together. -/
def checkPlace (text : List Text.CodePoint) (span : Span) : Except PlaceFault Unit := do
  checkColumn text span.start
  checkColumn text span.stop
  let range := Range.ofSpan (Text.shown text) span
  checkCounts range.start
  checkCounts range.stop

end JqTemplate.Editor
