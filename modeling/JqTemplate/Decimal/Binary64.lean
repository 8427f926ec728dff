/-! Decimal numbers rounded to 53 binary digits. All arithmetic is on natural numbers, so
the result is exact: the nearest representable value, the even one of two. -/
namespace JqTemplate.Decimal

/-- A finite value is `significand * 2 ^ exponent`. -/
inductive Binary64 where
  | nan
  | infinite (negative : Bool)
  | finite (negative : Bool) (significand : Nat) (exponent : Int)
  deriving DecidableEq, Repr

def roundQuotient (numerator denominator : Nat) : Nat :=
  let whole := numerator / denominator
  let twice := 2 * (numerator % denominator)
  if twice > denominator ∨ (twice = denominator ∧ whole % 2 = 1) then whole + 1 else whole

def scaled (numerator denominator base : Nat) (exponent : Int) : Nat × Nat :=
  if exponent ≥ 0 then (numerator * base.pow exponent.toNat, denominator)
  else (numerator, denominator * base.pow (-exponent).toNat)

def binaryOrder (numerator denominator : Nat) : Int :=
  let guess : Int := (numerator.log2 : Int) - denominator.log2
  let (n, d) := scaled numerator denominator 2 (-guess)
  if n < d then guess - 1 else guess

def leastExponent : Int := -1074
def greatestExponent : Int := 971
def significandLimit : Nat := Nat.pow 2 53

/-- A positive quotient rounded. The exponent leaves 53 digits where the range allows it. -/
def roundPositive (negative : Bool) (numerator denominator : Nat) : Binary64 :=
  let exponent := max leastExponent (binaryOrder numerator denominator - 52)
  let (n, d) := scaled numerator denominator 2 (-exponent)
  let significand := roundQuotient n d
  let carried := significand = significandLimit
  let significand := if carried then significand / 2 else significand
  let exponent := if carried then exponent + 1 else exponent
  if exponent > greatestExponent then .infinite negative
  else .finite negative significand exponent

/-- The number `digits * 10 ^ exponent`. Numbers far outside the range are settled by their
size alone. -/
def Binary64.ofDecimal (negative : Bool) (digits : Nat) (exponent : Int) : Binary64 :=
  let order : Int := (Nat.toDigits 10 digits).length + exponent
  if digits = 0 ∨ order < -400 then .finite negative 0 leastExponent
  else if order > 400 then .infinite negative
  else
    let (n, d) := scaled digits 1 10 exponent
    roundPositive negative n d

def Binary64.truncated? : Binary64 → Option Int
  | .finite negative significand exponent =>
    let (n, d) := scaled significand 1 2 exponent
    let size : Int := (n / d : Nat)
    some (if negative then -size else size)
  | _ => none

def Binary64.isWhole : Binary64 → Bool
  | .finite _ significand exponent =>
    let (n, d) := scaled significand 1 2 exponent
    n % d = 0
  | _ => false

end JqTemplate.Decimal
