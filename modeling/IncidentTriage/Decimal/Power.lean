import IncidentTriage.Decimal.Binary

/-!
# Powers

A whole power of a floating-point number. A power whose mantissa still fits is exact; any other is
the one of the floating-point library.
-/

namespace IncidentTriage.Decimal

/-- Factors of two of the mantissa go into the exponent. -/
def oddMantissa : Nat → Scaled → Scaled
  | 0, x => x
  | fuel + 1, x =>
    if x.mantissa ≠ 0 ∧ x.mantissa % 2 = 0 then
      oddMantissa fuel ⟨x.mantissa / 2, x.exponent + 1⟩
    else x

/-- The floating-point number nearest to a scaled one. -/
def floatOfScaled (x : Scaled) : Float :=
  if 1100 < x.exponent then 1.0 / 0.0
  else if x.exponent < -1200 then 0.0
  else if 0 ≤ x.exponent then Float.ofNat (x.mantissa * Nat.pow 2 x.exponent.toNat)
  else
    let places := (-x.exponent).toNat
    Float.ofScientific (x.mantissa * Nat.pow 5 places) true places

/-- The power of an odd mantissa, where it has at most 53 binary digits. -/
def mantissaPower? (mantissa : Nat) (n : Int) : Option Nat :=
  if mantissa = 1 then some 1
  else if 0 ≤ n ∧ n ≤ 53 ∧ Nat.pow mantissa n.toNat < Nat.pow 2 53 then
    some (Nat.pow mantissa n.toNat)
  else none

def positivePower (x : Float) (n : Int) : Float :=
  match Binary.ofFloat x with
  | .finite _ magnitude =>
    let odd := oddMantissa 53 magnitude
    match mantissaPower? odd.mantissa n with
    | some mantissa => floatOfScaled ⟨mantissa, odd.exponent * n⟩
    | none => Float.pow x (Float.ofInt n)
  | _ => Float.pow x (Float.ofInt n)

inductive PowerError
  | zeroToNegative
  | outOfRange
  deriving DecidableEq, Repr

/-- A power of a number other than zero, infinity and the undefined one. A power that is infinite is
refused. -/
def finitePower (x : Float) (n : Int) : Except PowerError Float :=
  let size := positivePower x.abs n
  if size.isInf then .error .outOfRange
  else .ok (if x < 0.0 ∧ n % 2 = 1 then -size else size)

/-- A number to a whole power, the exponent first rounded to a floating-point number, which has to
be finite. Zero has no negative powers. -/
def power (x : Float) (exponent : Int) : Except PowerError Float :=
  match wholePart? (Float.ofInt exponent) with
  | none => .error .outOfRange
  | some n =>
    if n = 0 then .ok 1.0
    else if x.isNaN then .ok x
    else if x.isInf then
      if 0 < n then .ok (if n % 2 = 1 then x else x.abs)
      else .ok (if n % 2 = 1 ∧ x < 0.0 then -0.0 else 0.0)
    else if x == 0.0 then
      if n < 0 then .error .zeroToNegative else .ok (if n % 2 = 1 then x else 0.0)
    else finitePower x n

end IncidentTriage.Decimal
