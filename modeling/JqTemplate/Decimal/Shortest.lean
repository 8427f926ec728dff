import JqTemplate.Decimal.Binary64

/-! The shortest decimal that reads back as a given value, and of several the nearest. It is
written with a point or with a power of ten, whichever the size asks for. -/
namespace JqTemplate.Decimal

structure Digits where
  digits : Nat
  exponent : Int
  deriving DecidableEq, Repr

/-- The reals that round to a value lie between `low / unit` and `high / unit`; the value
itself is `middle / unit`. The ends belong to them when the significand is even. -/
structure Interval where
  low : Nat
  middle : Nat
  high : Nat
  unit : Nat
  closed : Bool
  deriving DecidableEq, Repr

/-- Below a power of two the values stand twice as close. -/
def intervalOf (significand : Nat) (exponent : Int) : Interval :=
  let narrow := significand = significandLimit / 2 ∧ exponent > leastExponent
  let (scale, unit) := scaled 1 4 2 exponent
  { low := (4 * significand - if narrow then 1 else 2) * scale
    middle := 4 * significand * scale
    high := (4 * significand + 2) * scale
    unit := unit
    closed := significand % 2 = 0 }

def Interval.holds (i : Interval) (n d : Nat) : Bool :=
  if i.closed then i.low * d ≤ n * i.unit && n * i.unit ≤ i.high * d
  else i.low * d < n * i.unit && n * i.unit < i.high * d

/-- The digits nearest to the value among the multiples of a power of ten that read back. -/
def onGrid? (i : Interval) (exponent : Int) : Option Digits :=
  let (n, d) := scaled i.middle i.unit 10 (-exponent)
  let below := n / d
  let reads (k : Nat) : Bool :=
    let (kn, kd) := scaled k 1 10 exponent
    i.holds kn kd
  let twice := 2 * (n % d)
  let upFirst := twice > d ∨ (twice = d ∧ below % 2 = 1)
  let order := if upFirst then [below + 1, below] else [below, below + 1]
  (order.find? reads).map fun k => ⟨k, exponent⟩

def decimalOrder (numerator denominator : Nat) : Int :=
  let guess : Int :=
    ((Nat.toDigits 10 numerator).length : Int) - (Nat.toDigits 10 denominator).length
  let (n, d) := scaled numerator denominator 10 (-guess)
  if n < d then guess - 1 else guess

/-- Seventeen digits always read back. -/
def shortest (significand : Nat) (exponent : Int) : Digits :=
  let i := intervalOf significand exponent
  let order := decimalOrder i.middle i.unit
  ((List.range 17).findSome? fun (n : Nat) => onGrid? i (order - n)).getD ⟨0, 0⟩

def trimZeros : (digits : List Char) → (exponent : Int) → List Char × Int
  | digits, exponent =>
    let kept := (digits.reverse.dropWhile (fun c => c = '0')).reverse
    (kept, exponent + (digits.length - kept.length : Nat))

def exponentText (e : Int) : List Char :=
  let size := Nat.toDigits 10 e.natAbs
  let padded := if size.length < 2 then '0' :: size else size
  'e' :: (if e < 0 then '-' else '+') :: padded

/-- Values from a ten-thousandth to ten to the sixteenth are written without a power, and
always with a point. -/
def numberText (digits : List Char) (exponent : Int) : List Char :=
  let leading : Int := digits.length + exponent - 1
  if leading < -4 ∨ leading ≥ 16 then
    let fraction := digits.tail
    digits.take 1 ++ (if fraction.isEmpty then [] else '.' :: fraction) ++ exponentText leading
  else if exponent ≥ 0 then digits ++ List.replicate exponent.toNat '0' ++ ['.', '0']
  else if leading < 0 then
    '0' :: '.' :: List.replicate (-leading - 1).toNat '0' ++ digits
  else digits.take (leading + 1).toNat ++ '.' :: digits.drop (leading + 1).toNat

def signText (negative : Bool) : List Char := if negative then ['-'] else []

def Binary64.text : Binary64 → List Char
  | .nan => ['n', 'a', 'n']
  | .infinite negative => signText negative ++ ['i', 'n', 'f']
  | .finite negative significand exponent =>
    signText negative ++
      if significand = 0 then ['0', '.', '0']
      else
        let d := shortest significand exponent
        let (digits, e) := trimZeros (Nat.toDigits 10 d.digits) d.exponent
        numberText digits e

end JqTemplate.Decimal
