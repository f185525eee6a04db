import IncidentTriage.Decimal.Binary

/-!
# Fixed places

A number with a given count of digits after the point, rounded from its exact value with a half
going to the even neighbour.
-/

namespace IncidentTriage.Decimal

/-- The natural number with at least `width` digits, zeros in front. -/
def padded (width n : Nat) : List Char :=
  let digits := Nat.toDigits 10 n
  List.replicate (width - digits.length) '0' ++ digits

def fixedText (places : Nat) (x : Float) : String :=
  match Binary.ofFloat x with
  | .notANumber => "nan"
  | .infinite negative => if negative then "-inf" else "inf"
  | .finite negative magnitude =>
    let (num, den) := magnitude.quotient
    let scaled := roundHalfEven (num * Nat.pow 10 places) den
    let whole := Nat.toDigits 10 (scaled / Nat.pow 10 places)
    let body := if places = 0 then whole
      else whole ++ '.' :: padded places (scaled % Nat.pow 10 places)
    String.ofList (if negative then '-' :: body else body)

end IncidentTriage.Decimal
