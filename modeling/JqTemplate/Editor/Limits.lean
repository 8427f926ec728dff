/-! The numbers that editors and servers exchange: integers of 32 bits, of which counts take
the half from zero on. -/
namespace JqTemplate.Editor

structure Bounds where
  low : Int
  high : Int
  deriving DecidableEq, Repr

def Bounds.holds (b : Bounds) (n : Int) : Bool := b.low ≤ n && n ≤ b.high

def integers : Bounds := ⟨-2147483648, 2147483647⟩

def counts : Bounds := ⟨0, 2147483647⟩

structure OutOfBounds where
  name : String
  bounds : Bounds
  value : Int
  deriving DecidableEq, Repr

def OutOfBounds.message (f : OutOfBounds) : String :=
  s!"{f.name} should be in range [{f.bounds.low}:{f.bounds.high}], but was {f.value}."

def Bounds.check (b : Bounds) (name : String) (n : Int) : Except OutOfBounds Unit :=
  if b.holds n then .ok () else .error ⟨name, b, n⟩

/-- A position as an editor gives it. The line is judged first. -/
def checkPosition (line column : Int) : Except OutOfBounds Unit := do
  counts.check "Position.line" line
  counts.check "Position.character" column

end JqTemplate.Editor
