import IncidentTriage.Decimal.Binary

/-!
# The shortest decimal text of a floating-point number

A finite number is written with the fewest decimal digits that read back as the same number; among
those, with the digits nearest to it. For each count of digits only the two neighbours of the number
on that decimal grid have to be looked at: when a point of the grid lies between the bounds of the
numbers that read back, so does one of the two.
-/

namespace IncidentTriage.Decimal

/-- The number `digits * 10 ^ exponent`. -/
structure Denary where
  digits : Nat
  exponent : Int

/-- A positive binary number with the bounds between which a decimal reads back as it, all three in
units of `1 / den`. The bounds themselves read back when `closed` holds. -/
structure Interval where
  low : Nat
  value : Nat
  high : Nat
  den : Nat
  closed : Bool

/-- Above the number the bound is half a step away, and below it as well, but a quarter of a step
where the step below is half as wide. -/
def Interval.ofScaled (x : Scaled) : Interval :=
  let narrow := x.mantissa = Nat.pow 2 52 ∧ -1074 < x.exponent
  let (unit, den) := (Scaled.mk 1 (x.exponent - 2)).quotient
  { low := (4 * x.mantissa - (if narrow then 1 else 2)) * unit
    value := 4 * x.mantissa * unit
    high := (4 * x.mantissa + 2) * unit
    den
    closed := x.mantissa % 2 == 0 }

/-- `digits` times the `scale`-th power of ten reads back. -/
def Interval.holds (i : Interval) (digits : Nat) (scale : Int) : Bool :=
  let (n, d) := if 0 ≤ scale then (digits * Nat.pow 10 scale.toNat * i.den, 1)
    else (digits * i.den, Nat.pow 10 (-scale).toNat)
  if i.closed then decide (i.low * d ≤ n) && decide (n ≤ i.high * d)
  else decide (i.low * d < n) && decide (n < i.high * d)

/-- The number in units of the `scale`-th power of ten, as a quotient. -/
def Interval.inTens (i : Interval) (scale : Int) : Nat × Nat :=
  if 0 ≤ scale then (i.value, i.den * Nat.pow 10 scale.toNat)
  else (i.value * Nat.pow 10 (-scale).toNat, i.den)

/-- The neighbour on the grid of the `scale`-th power of ten that reads back, the nearer of two. -/
def Interval.onGrid? (i : Interval) (scale : Int) : Option Denary :=
  let (n, d) := i.inTens scale
  let below := n / d
  match i.holds below scale, i.holds (below + 1) scale with
  | true, true => some ⟨roundHalfEven n d, scale⟩
  | true, false => some ⟨below, scale⟩
  | false, true => some ⟨below + 1, scale⟩
  | false, false => none

/-- The first grid with a number that reads back, from `scale` on to finer ones. -/
def Interval.search (i : Interval) : Nat → Int → Denary
  | 0, scale => ⟨roundHalfEven (i.inTens scale).1 (i.inTens scale).2, scale⟩
  | more + 1, scale => (i.onGrid? scale).getD (i.search more (scale - 1))

def digitCount (n : Nat) : Nat :=
  (Nat.toDigits 10 n).length

/-- The power of ten of the leading digit of `num / den`. -/
def leadingPower (num den : Nat) : Int :=
  if den ≤ num then (digitCount (num / den) : Int) - 1
  else -(digitCount ((den + num - 1) / num - 1) : Int)

/-- Trailing zeros of the digits go into the exponent. -/
def stripZeros : Nat → Denary → Denary
  | 0, x => x
  | fuel + 1, x =>
    if x.digits ≠ 0 ∧ x.digits % 10 = 0 then stripZeros fuel ⟨x.digits / 10, x.exponent + 1⟩ else x

/-- The shortest decimal that reads back as a positive number; seventeen digits always do. -/
def shortest (x : Scaled) : Denary :=
  let i := Interval.ofScaled x
  stripZeros 20 (i.search 17 (leadingPower i.value i.den))

/-- How a number is laid out: the exponents of ten of the leading digit that are written without an
exponent part lie from `least` up to, but not including, `bound`. -/
structure Layout where
  least : Int
  bound : Int

/-- Numbers from one ten-thousandth up to ten thousand million million are written in full. -/
def plainLayout : Layout := ⟨-4, 16⟩

def zeroText (count : Nat) : List Char :=
  List.replicate count '0'

/-- The text of a positive decimal: digits with a point, at least one on each side of it, or one
digit before the point and an exponent of two digits or more. -/
def Layout.render (layout : Layout) (x : Denary) : List Char :=
  let digits := Nat.toDigits 10 x.digits
  let lead : Int := x.exponent + digits.length - 1
  if layout.least ≤ lead ∧ lead < layout.bound then
    if 0 ≤ x.exponent then digits ++ zeroText x.exponent.toNat ++ ['.', '0']
    else if 0 ≤ lead then
      digits.take (lead.toNat + 1) ++ '.' :: digits.drop (lead.toNat + 1)
    else '0' :: '.' :: (zeroText (-lead - 1).toNat ++ digits)
  else
    let power := Nat.toDigits 10 lead.natAbs
    let fraction := if digits.length = 1 then [] else '.' :: digits.drop 1
    digits.take 1 ++ fraction ++ ['e', if lead < 0 then '-' else '+'] ++
      zeroText (2 - power.length) ++ power

def floatText (x : Float) : String :=
  match Binary.ofFloat x with
  | .notANumber => "nan"
  | .infinite negative => if negative then "-inf" else "inf"
  | .finite negative magnitude =>
    let body := if magnitude.mantissa = 0 then ['0', '.', '0']
      else plainLayout.render (shortest magnitude)
    String.ofList (if negative then '-' :: body else body)

end IncidentTriage.Decimal
