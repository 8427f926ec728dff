/-! Ranges of a text. Offsets count code points. A range may be reversed, negative or
beyond the text: cutting a text then clamps, and a negative offset counts from the end. -/
namespace JqTemplate

def wrapIndex (length : Nat) (i : Int) : Nat :=
  if i < 0 then (i + length).toNat else i.toNat

def slice {α : Type} (xs : List α) (start stop : Int) : List α :=
  let first := wrapIndex xs.length start
  (xs.drop first).take (wrapIndex xs.length stop - first)

structure Span where
  start : Int
  stop : Int
  deriving DecidableEq, Repr

namespace Span

inductive LengthFault where
  | negative
  | tooLarge
  deriving DecidableEq, Repr

def LengthFault.message : LengthFault → String
  | .negative => "__len__() should return >= 0"
  | .tooLarge => "cannot fit 'int' into an index-sized integer"

def size (s : Span) : Int := s.stop - s.start

def lengthLimit : Int := 0x7fffffffffffffff

def length? (s : Span) : Except LengthFault Nat :=
  if s.size < 0 then .error .negative
  else if s.size > lengthLimit then .error .tooLarge
  else .ok s.size.toNat

def text (s : Span) (source : List Char) : List Char := slice source s.start s.stop

/-- What stands between the two-character marks at the ends of the span. -/
def inner (s : Span) (source : List Char) : List Char := slice source (s.start + 2) (s.stop - 2)

def contains (outer inside : Span) : Bool :=
  outer.start ≤ inside.start && inside.stop ≤ outer.stop

def shift (s : Span) (distance : Int) : Span := ⟨s.start + distance, s.stop + distance⟩

def toString (s : Span) : String := s!"{s.start}..{s.stop}"

end Span

end JqTemplate
