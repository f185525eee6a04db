import IncidentTriage.Text.Wide

/-!
# UTF-16 and UTF-32

Texts in units of two or of four bytes, in either order of the bytes. Surrogates that stand alone
are let through.
-/

namespace IncidentTriage.Text

inductive ByteOrder
  | little
  | big

def ByteOrder.number (order : ByteOrder) (bytes : List UInt8) : Nat :=
  let spelled := match order with
    | .little => bytes.reverse
    | .big => bytes
  spelled.foldl (fun n b => n * 256 + b.toNat) 0

namespace Utf16

/-- The units of a sequence of bytes; none when a byte is left over. -/
def units? (order : ByteOrder) : List UInt8 → Option (List Nat)
  | [] => some []
  | [_] => none
  | a :: b :: rest => (units? order rest).map (order.number [a, b] :: ·)

/-- A high surrogate and the low one after it are one character. -/
def join : List Nat → List Symbol
  | [] => []
  | [u] => [Symbol.ofCode u]
  | u :: v :: rest =>
    if 0xd800 ≤ u ∧ u < 0xdc00 ∧ 0xdc00 ≤ v ∧ v < 0xe000 then
      Symbol.ofCode (0x10000 + (u - 0xd800) * 1024 + (v - 0xdc00)) :: join rest
    else Symbol.ofCode u :: join (v :: rest)

def decode? (order : ByteOrder) (bytes : List UInt8) : Option (List Symbol) :=
  (units? order bytes).map join

end Utf16

namespace Utf32

/-- The symbols of a sequence of bytes; none when bytes are left over or a number is no code
point. -/
def decode? (order : ByteOrder) : List UInt8 → Option (List Symbol)
  | [] => some []
  | a :: b :: c :: d :: rest =>
    if order.number [a, b, c, d] < 0x110000 then
      (decode? order rest).map (Symbol.ofCode (order.number [a, b, c, d]) :: ·)
    else none
  | _ => none

end Utf32

end IncidentTriage.Text
