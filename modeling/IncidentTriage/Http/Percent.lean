import IncidentTriage.Text.Digit
import IncidentTriage.Text.Quoted
import IncidentTriage.Text.Utf8

/-!
# Percent escapes

A character that cannot stand in an address as it is stands there as the bytes that spell it, each
of them a percent sign and two hexadecimal digits.
-/

namespace IncidentTriage.Http.Percent
open IncidentTriage.Text

def escapeByte (b : UInt8) : List Char :=
  '%' :: (hexDigits 2 b.toNat).map Char.toUpper

/-- The text in which only plain characters stand as they are. -/
def escape (isPlain : Char → Bool) (cs : List Char) : List Char :=
  cs.flatMap fun c => if isPlain c then [c] else (Utf8.encodeChar c).flatMap escapeByte

/-- The bytes of a text with percent escapes. A percent sign that begins none stands for itself. -/
def unescapedBytes : List Char → List UInt8
  | [] => []
  | c :: rest =>
    match c, rest with
    | '%', a :: b :: rest =>
      match hexValue? a, hexValue? b with
      | some high, some low => (high * 16 + low).toUInt8 :: unescapedBytes rest
      | _, _ => Utf8.encodeChar c ++ unescapedBytes (a :: b :: rest)
    | _, rest => Utf8.encodeChar c ++ unescapedBytes rest

def unescape (cs : List Char) : List Char :=
  Utf8.decode (unescapedBytes cs)

/-- Letters, digits and a few marks, which are plain everywhere. -/
def isUnreserved (c : Char) : Bool :=
  c.isAlphanum || ['-', '.', '_', '~'].contains c

/-- The printed characters of ASCII, but for some. -/
def isPrintedBut (others : List Char) (c : Char) : Bool :=
  decide (0x20 ≤ c.toNat) && decide (c.toNat < 0x7f) && !others.contains c

end IncidentTriage.Http.Percent
