/-! Likeness of two words by their common blocks: the longest common block, then the same
again to its left and to its right. The ratio is twice the matched length over the total
length; it is compared as a fraction, so no rounding enters. -/
namespace JqTemplate.Text

def commonPrefixLength : List Char → List Char → Nat
  | a :: as, b :: bs => if a = b then commonPrefixLength as bs + 1 else 0
  | _, _ => 0

structure CommonBlock where
  inFirst : Nat
  inSecond : Nat
  size : Nat
  deriving DecidableEq, Repr

/-- The longest block that starts at the head of `a`, the leftmost in `b` of several. -/
def longestAtHead (a : List Char) : (offset : Nat) → List Char → CommonBlock
  | offset, [] => ⟨0, offset, 0⟩
  | offset, b :: bs =>
    let here : CommonBlock := ⟨0, offset, commonPrefixLength a (b :: bs)⟩
    let later := longestAtHead a (offset + 1) bs
    if later.size > here.size then later else here

/-- The longest common block; of several, the leftmost in the first word, then in the second. -/
def longestCommonBlock : (offset : Nat) → List Char → List Char → CommonBlock
  | offset, [], _ => ⟨offset, 0, 0⟩
  | offset, a :: as, b =>
    let here := { longestAtHead (a :: as) 0 b with inFirst := offset }
    let later := longestCommonBlock (offset + 1) as b
    if later.size > here.size then later else here

/-- A block shortens the first word on both of its sides, so as many rounds as the first
word has letters are enough. -/
def matchedWithin : Nat → List Char → List Char → Nat
  | 0, _, _ => 0
  | rounds + 1, a, b =>
    let block := longestCommonBlock 0 a b
    if block.size = 0 then 0
    else
      matchedWithin rounds (a.take block.inFirst) (b.take block.inSecond) + block.size +
        matchedWithin rounds (a.drop (block.inFirst + block.size))
          (b.drop (block.inSecond + block.size))

def matchedLength (a b : List Char) : Nat := matchedWithin a.length a b

def isSimilar (a b : List Char) : Bool :=
  10 * matchedLength a b ≥ 3 * (a.length + b.length)

/-- Whether `x` is as good a match for `word` as `y` is. A tie goes to the word that is
greater by code points. -/
def atLeastAsClose (word x y : List Char) : Bool :=
  let left := matchedLength x word * (y.length + word.length)
  let right := matchedLength y word * (x.length + word.length)
  left > right || (left = right && !decide (x < y))

def closest (word : List Char) : List (List Char) → Option (List Char)
  | [] => none
  | x :: rest =>
    let later := closest word rest
    if isSimilar x word then
      match later with
      | none => some x
      | some y => if atLeastAsClose word x y then some x else some y
    else later

def similar (word : List Char) (candidates : List (List Char)) : List (List Char) :=
  candidates.filter fun x => isSimilar x word

end JqTemplate.Text
