import JqTemplate.Text.Split

/-! Lines and columns. Both count from zero. Lines end at a line feed; a carriage return
before the line feed belongs to the line in the text, but not to the line that is shown. -/
namespace JqTemplate

inductive ColumnUnit where
  | codePoint
  | utf16
  deriving DecidableEq, Repr

def ColumnUnit.width : ColumnUnit → Char → Nat
  | .codePoint, _ => 1
  | .utf16, c => if c.toNat > 0xffff then 2 else 1

def ColumnUnit.measure (unit : ColumnUnit) (text : List Char) : Nat :=
  text.foldr (fun c total => unit.width c + total) 0

structure Position where
  line : Nat
  column : Nat
  deriving DecidableEq, Repr

namespace Position

def zero : Position := ⟨0, 0⟩

def advance (unit : ColumnUnit) (p : Position) (c : Char) : Position :=
  if c = '\n' then ⟨p.line + 1, 0⟩ else ⟨p.line, p.column + unit.width c⟩

def after (unit : ColumnUnit) (text : List Char) : Position := text.foldl (advance unit) zero

/-- The position of an offset. Offsets outside the text mean its nearer end. -/
def ofOffset (unit : ColumnUnit) (text : List Char) (offset : Int) : Position :=
  after unit (text.take offset.toNat)

def before (p q : Position) : Bool :=
  p.line < q.line || (p.line = q.line && p.column < q.column)

end Position

def splitLines (text : List Char) : List (List Char) := Text.splitOn '\n' text

def lineCount (text : List Char) : Nat := (splitLines text).length

def dropReturn (line : List Char) : List Char :=
  if line.getLast? = some '\r' then line.dropLast else line

/-- The line as it is shown. Lines that do not exist are empty. -/
def lineAt (text : List Char) (n : Int) : List Char :=
  if n < 0 then [] else dropReturn ((splitLines text)[n.toNat]?.getD [])

def lineStart (text : List Char) (n : Nat) : Nat :=
  ((splitLines text).take n).foldr (fun line total => line.length + 1 + total) 0

/-- The first character boundary of a line at or beyond a column. -/
def boundaryAt (unit : ColumnUnit) : (column : Int) → List Char → Nat
  | _, [] => 0
  | column, c :: rest =>
    if column ≤ 0 then 0 else boundaryAt unit (column - unit.width c) rest + 1

/-- The offset of a line and column. The column is clamped to the shown line, a line before
the text means its start and a line beyond it its end. -/
def offsetOf (unit : ColumnUnit) (text : List Char) (line column : Int) : Nat :=
  if line < 0 then 0
  else if line ≥ lineCount text then text.length
  else lineStart text line.toNat + boundaryAt unit column (lineAt text line)

end JqTemplate
