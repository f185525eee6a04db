/-!
# Rounding of quotients

A quotient of natural numbers is rounded to a natural number, or to the nearest number with a binary
mantissa of 53 digits. A half goes to the even neighbour in both.
-/

namespace IncidentTriage.Decimal

/-- The natural number nearest to `num / den`; of two that are equally near, the even one. -/
def roundHalfEven (num den : Nat) : Nat :=
  let floor := num / den
  let twice := 2 * (num % den)
  if twice < den then floor
  else if den < twice then floor + 1
  else floor + floor % 2

/-- The number `mantissa * 2 ^ exponent`. -/
structure Scaled where
  mantissa : Nat
  exponent : Int

def Scaled.quotient (x : Scaled) : Nat × Nat :=
  if 0 ≤ x.exponent then (x.mantissa * Nat.pow 2 x.exponent.toNat, 1)
  else (x.mantissa, Nat.pow 2 (-x.exponent).toNat)

/-- `num / den` in units of `2 ^ exponent`, as a quotient. -/
def inUnits (num den : Nat) (exponent : Int) : Nat × Nat :=
  if 0 ≤ exponent then (num, den * Nat.pow 2 exponent.toNat)
  else (num * Nat.pow 2 (-exponent).toNat, den)

/-- The exponent that gives the positive quotient `num / den` a mantissa of 53 binary digits. -/
def binaryExponent (num den : Nat) : Int :=
  let guess : Int := (num.log2 : Int) - den.log2 - 53
  let (n, d) := inUnits num den guess
  if n / d < Nat.pow 2 53 then guess else guess + 1

/-- The number nearest to `num / den` among those with a mantissa of 53 binary digits. -/
def nearestBinary (num den : Nat) : Scaled :=
  if num = 0 then ⟨0, 0⟩
  else
    let exponent := binaryExponent num den
    let (n, d) := inUnits num den exponent
    ⟨roundHalfEven n d, exponent⟩

end IncidentTriage.Decimal
