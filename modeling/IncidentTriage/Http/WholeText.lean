import IncidentTriage.Decimal.Reading

/-!
# Whole numbers as texts

In a body a whole number may be spelled as a text. The plain spelling has no zeros in front and a
limited length. A text that is not spelled plainly is tidied first: white space around it, a plus
sign, zeros in front, a fraction of zeros and single underscores between digits are left out.
-/

namespace IncidentTriage.Http.WholeText
open IncidentTriage.Text

inductive Reading
  | whole (n : Int)
  | tooLong
  | malformed
  deriving DecidableEq, Repr

def digitLimit : Nat := 4300

/-- A plain spelling without its sign. What begins with too many digits is too long, whatever
follows them. -/
def readDigits (cs : List Char) : Reading :=
  let digits := cs.takeWhile Char.isDigit
  if digits.head? = some '0' then if cs = ['0'] then .whole 0 else .malformed
  else if digitLimit < digits.length then .tooLong
  else if digits.isEmpty || digits.length ≠ cs.length then .malformed
  else .whole (Decimal.natOfDigits digits)

def readPlain : List Char → Reading
  | '-' :: cs =>
    match readDigits cs with
    | .whole n => .whole (-n)
    | r => r
  | cs => readDigits cs

/-- What is left behind zeros, of which `last` or an underscore among them is the last one. Before a
point or at the end the last one stays. -/
def behindZeros (last : Char) : List Char → Option (List Char)
  | [] => some [last]
  | c :: rest =>
    if c == '0' || c == '_' then behindZeros c rest
    else if c.isDigit || c == '-' then some (c :: rest)
    else if c == '.' then some (last :: c :: rest)
    else none

/-- The text without zeros in front; none if it does not begin as a number does. -/
def dropZeros? : List Char → Option (List Char)
  | '0' :: rest => behindZeros '0' rest
  | c :: rest => if c.isDigit || c == '-' then some (c :: rest) else none
  | [] => none

/-- The text without a point and the zeros after it. -/
def dropFraction (cs : List Char) : List Char :=
  match cs.dropWhile (· != '.') with
  | _ :: zero :: zeros =>
    if (zero :: zeros).all (· == '0') then cs.takeWhile (· != '.') else cs
  | _ => cs

/-- Every underscore stands between two other characters. -/
def underscoresFit : List Char → Bool
  | [] => true
  | '_' :: _ => false
  | _ :: '_' :: rest => !rest.isEmpty && underscoresFit rest
  | _ :: rest => underscoresFit rest

def dropUnderscores (cs : List Char) : List Char :=
  if underscoresFit cs then cs.filter (· != '_') else cs

def tidyUnsigned? (cs : List Char) : Option (List Char) :=
  (dropZeros? cs).map fun cs => dropUnderscores (dropFraction cs)

/-- The text made plain; of two signs in front the text cannot be. -/
def tidy? : List Char → Option (List Char)
  | '+' :: '-' :: _ => none
  | '+' :: cs => tidyUnsigned? cs
  | '-' :: cs => (tidyUnsigned? cs).map ('-' :: ·)
  | cs => tidyUnsigned? cs

/-- White space around a number in a text. The information separators are none. -/
def isPad (c : Char) : Bool :=
  isBlank c && !(0x1c ≤ c.toNat && c.toNat ≤ 0x1f)

def unpad (cs : List Char) : List Char :=
  ((cs.dropWhile isPad).reverse.dropWhile isPad).reverse

/-- The whole number that a text spells. Only a text that is plain as it stands can be too long. -/
def read (s : String) : Reading :=
  match readPlain s.toList with
  | .malformed =>
    match (tidy? (unpad s.toList)).map readPlain with
    | some (.whole n) => .whole n
    | _ => .malformed
  | r => r

end IncidentTriage.Http.WholeText
