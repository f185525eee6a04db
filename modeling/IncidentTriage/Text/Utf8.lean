import IncidentTriage.Text.Wide

/-!
# UTF-8

A character is written in one to four bytes. Reading cuts a sequence of bytes into the characters it
spells and the pieces that spell none: each such piece is a maximal part of a character's bytes that
does not go on as it should, or a single byte that begins no character.
-/

namespace IncidentTriage.Text.Utf8

def encodeChar (c : Char) : List UInt8 :=
  let n := c.toNat
  if n < 0x80 then [n.toUInt8]
  else if n < 0x800 then [(0xc0 + n / 64).toUInt8, (0x80 + n % 64).toUInt8]
  else if n < 0x10000 then
    [(0xe0 + n / 4096).toUInt8, (0x80 + n / 64 % 64).toUInt8, (0x80 + n % 64).toUInt8]
  else
    [(0xf0 + n / 262144).toUInt8, (0x80 + n / 4096 % 64).toUInt8, (0x80 + n / 64 % 64).toUInt8,
      (0x80 + n % 64).toUInt8]

def encode (cs : List Char) : List UInt8 :=
  cs.flatMap encodeChar

/-- What the first byte of a character promises: the bits it carries, the range of the second byte,
and how many bytes follow. -/
structure Lead where
  bits : Nat
  low : Nat
  high : Nat
  more : Nat

/-- The promise of a first byte that does not spell a character alone. With `surrogates` the bytes
of a surrogate are let through. -/
def lead? (surrogates : Bool) (b : Nat) : Option Lead :=
  if 0xc2 ≤ b ∧ b < 0xe0 then some ⟨b - 0xc0, 0x80, 0xbf, 1⟩
  else if b = 0xe0 then some ⟨0, 0xa0, 0xbf, 2⟩
  else if b = 0xed then some ⟨0xd, 0x80, if surrogates then 0xbf else 0x9f, 2⟩
  else if 0xe1 ≤ b ∧ b < 0xf0 then some ⟨b - 0xe0, 0x80, 0xbf, 2⟩
  else if b = 0xf0 then some ⟨0, 0x90, 0xbf, 3⟩
  else if 0xf1 ≤ b ∧ b < 0xf4 then some ⟨b - 0xf0, 0x80, 0xbf, 3⟩
  else if b = 0xf4 then some ⟨4, 0x80, 0x8f, 3⟩
  else none

/-- The code point spelled by the bits so far and `more` following bytes, and how many bytes of the
input belong to it; no code point when they break off early. -/
def follow (bits low high : Nat) : Nat → List UInt8 → Option Nat × Nat
  | 0, _ => (some bits, 0)
  | _ + 1, [] => (none, 0)
  | more + 1, b :: rest =>
    if low ≤ b.toNat ∧ b.toNat ≤ high then
      let (code, used) := follow (bits * 64 + (b.toNat - 0x80)) 0x80 0xbf more rest
      (code, used + 1)
    else (none, 0)

/-- The code point at the head of a sequence of bytes, and how many bytes it has after the first. -/
def piece (surrogates : Bool) (b : UInt8) (rest : List UInt8) : Option Nat × Nat :=
  if b.toNat < 0x80 then (some b.toNat, 0)
  else
    match lead? surrogates b.toNat with
    | none => (none, 0)
    | some l => follow l.bits l.low l.high l.more rest

/-- The code points of a sequence of bytes, in order, with `none` for each piece that spells
none. -/
def pieces (surrogates : Bool) : List UInt8 → List (Option Nat)
  | [] => []
  | b :: rest =>
    (piece surrogates b rest).1 :: pieces surrogates (rest.drop (piece surrogates b rest).2)
termination_by bytes => bytes.length
decreasing_by simp only [List.length_drop, List.length_cons]; omega

/-- The text of a sequence of bytes, with the replacement character for each piece that spells no
character. -/
def decode (bytes : List UInt8) : List Char :=
  (pieces false bytes).map fun code => Char.ofNat (code.getD 0xfffd)

/-- The text of a sequence of bytes that spells characters throughout. -/
def decode? (bytes : List UInt8) : Option (List Char) :=
  (pieces false bytes).mapM fun code => code.map Char.ofNat

/-- As `decode?`, but a surrogate may be spelled as well. -/
def decodeWide? (bytes : List UInt8) : Option (List Symbol) :=
  (pieces true bytes).mapM fun code => code.map Symbol.ofCode

end IncidentTriage.Text.Utf8
