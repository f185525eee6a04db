import IncidentTriage.Decimal.Rounding

/-!
# The value of a floating-point number

A finite number is a sign, a mantissa and a power of two, read off its 64 bits.
-/

namespace IncidentTriage.Decimal

inductive Binary
  | finite (negative : Bool) (magnitude : Scaled)
  | infinite (negative : Bool)
  | notANumber

def Binary.ofFloat (x : Float) : Binary :=
  let bits : Nat := x.toBits.toNat
  let negative := decide (Nat.pow 2 63 ≤ bits)
  let exponent : Nat := bits / Nat.pow 2 52 % Nat.pow 2 11
  let fraction : Nat := bits % Nat.pow 2 52
  if exponent = 0x7ff then
    if fraction = 0 then .infinite negative else .notANumber
  else if exponent = 0 then .finite negative ⟨fraction, -1074⟩
  else .finite negative ⟨Nat.pow 2 52 + fraction, (exponent : Int) - 1075⟩

/-- The whole part of a finite number, the fraction cut off. -/
def wholePart? (x : Float) : Option Int :=
  match Binary.ofFloat x with
  | .finite negative magnitude =>
    let (num, den) := magnitude.quotient
    some (if negative then -(num / den : Nat) else (num / den : Nat))
  | _ => none

def isWhole (x : Float) : Bool :=
  match Binary.ofFloat x with
  | .finite _ magnitude =>
    let (num, den) := magnitude.quotient
    num % den == 0
  | _ => false

end IncidentTriage.Decimal
