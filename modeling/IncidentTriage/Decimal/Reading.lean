import IncidentTriage.Decimal.Shortest
import IncidentTriage.Text.Blank
import IncidentTriage.Text.Digit

/-!
# Reading numbers

Whole numbers and floating-point numbers as people write them: blanks around the number, a sign,
decimal digits of any script, and single underscores between digits.
-/

namespace IncidentTriage.Decimal
open IncidentTriage.Text

/-- The blanks that may stand around a number once other scripts have been replaced. -/
def isPlainBlank (c : Char) : Bool :=
  c == ' ' || decide (0x09 ≤ c.toNat) && decide (c.toNat ≤ 0x0d)

/-- Digits and blanks of all scripts are replaced by the plain ones, and other characters that are
not ASCII by a mark that no number holds. -/
def plainChar (c : Char) : Char :=
  if c.toNat < 128 then c
  else if isBlank c then ' '
  else
    match digitValue? c with
    | some d => Nat.digitChar d
    | none => '?'

def trimPlain (cs : List Char) : List Char :=
  ((cs.dropWhile isPlainBlank).reverse.dropWhile isPlainBlank).reverse

/-- An underscore stands only between two digits. -/
def underscoresFit (afterDigit : Bool) : List Char → Bool
  | [] => true
  | '_' :: rest => afterDigit && (rest.head?.any Char.isDigit) && underscoresFit false rest
  | c :: rest => underscoresFit c.isDigit rest

/-- A sign, if there is one, and what follows it; `true` for a minus. -/
def splitSign : List Char → Bool × List Char
  | '-' :: rest => (true, rest)
  | '+' :: rest => (false, rest)
  | cs => (false, cs)

def natOfDigits (cs : List Char) : Nat :=
  cs.foldl (fun n c => n * 10 + (c.toNat - '0'.toNat)) 0

inductive WholeError
  | malformed
  | tooLong (digits : Nat)

/-- The most digits that a whole number read from a text may have. -/
def digitLimit : Nat := 4300

def WholeError.tooLongMessage (digits : Nat) : String :=
  s!"Exceeds the limit ({digitLimit} digits) for integer string conversion: value has {digits} " ++
    "digits; use sys.set_int_max_str_digits() to increase the limit"

/-- A whole number. The length of its digits is looked at before what follows them. -/
def readWhole (cs : List Char) : Except WholeError Int :=
  let (negative, body) := splitSign ((cs.map plainChar).dropWhile isPlainBlank)
  let isPart := fun c : Char => c.isDigit || c == '_'
  let run := body.takeWhile isPart
  let digits := run.filter Char.isDigit
  if run.isEmpty || !underscoresFit false run then .error .malformed
  else if digitLimit < digits.length then .error (.tooLong digits.length)
  else if (body.dropWhile isPart).all isPlainBlank then
    .ok (if negative then -(natOfDigits digits : Int) else natOfDigits digits)
  else .error .malformed

/-- The floating-point number nearest to `digits * 10 ^ exponent`, infinite beyond the largest. -/
def floatOfDecimal (digits : Nat) (exponent : Int) : Float :=
  let top := exponent + digitCount digits
  if digits = 0 ∨ top < -400 then 0.0
  else if 400 < top then 1.0 / 0.0
  else Float.ofScientific digits (decide (exponent < 0)) exponent.natAbs

/-- The exponent part at the end of a number; none if something else stands there. -/
def readExponent? : List Char → Option Int
  | [] => some 0
  | c :: rest =>
    let (negative, digits) := splitSign rest
    if (c == 'e' || c == 'E') && !digits.isEmpty && digits.all Char.isDigit then
      some (if negative then -(natOfDigits digits : Int) else natOfDigits digits)
    else none

/-- Digits with or without a point, of which at least one is there, and an exponent part. -/
def readUnsigned? (cs : List Char) : Option Float :=
  let whole := cs.takeWhile Char.isDigit
  let rest := cs.dropWhile Char.isDigit
  let afterPoint := if rest.head? = some '.' then rest.drop 1 else []
  let fraction := afterPoint.takeWhile Char.isDigit
  let tail := if rest.head? = some '.' then afterPoint.dropWhile Char.isDigit else rest
  if whole.isEmpty && fraction.isEmpty then none
  else
    (readExponent? tail).map fun e => floatOfDecimal (natOfDigits (whole ++ fraction))
      (e - fraction.length)

/-- A floating-point number; `inf`, `infinity` and `nan` are read in any case of their letters. -/
def readFloat? (cs : List Char) : Option Float :=
  let marked := trimPlain (cs.map plainChar)
  let (negative, body) := splitSign (marked.filter (· != '_'))
  let name := body.map Char.toLower
  let value? :=
    if name = "inf".toList ∨ name = "infinity".toList then some (1.0 / 0.0)
    else if name = "nan".toList then some (0.0 / 0.0)
    else readUnsigned? body
  if underscoresFit false marked then value?.map fun x => if negative then -x else x else none

end IncidentTriage.Decimal
