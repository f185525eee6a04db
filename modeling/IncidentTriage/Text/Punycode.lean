/-!
# Punycode

A label with characters beyond ASCII is spelled in ASCII: its ASCII characters come first, and
behind a hyphen each other character is told, in the order of code points, by how far it is from the
one before. Such a distance is a number of base 36 whose digits end below a threshold, and the
threshold of each digit follows the size of the distances so far.
-/

namespace IncidentTriage.Text.Punycode

def digit (n : Nat) : Char :=
  if n < 26 then Char.ofNat ('a'.toNat + n) else Char.ofNat ('0'.toNat + n - 26)

/-- The threshold of a digit, the first of which has step 36 and each further one 36 more. -/
def threshold (bias step : Nat) : Nat :=
  max 1 (min 26 (step - bias))

def digits (bias step distance : Nat) : List Char :=
  let t := threshold bias step
  if distance < t then [digit distance]
  else
    digit (t + (distance - t) % (36 - t)) :: digits bias (step + 36) ((distance - t) / (36 - t))
termination_by distance
decreasing_by
  have h : 1 ≤ threshold bias step := Nat.le_max_left ..
  calc (distance - threshold bias step) / (36 - threshold bias step)
      ≤ distance - threshold bias step := Nat.div_le_self _ _
    _ < distance := by omega

/-- The bias of a distance that has been brought to size, each step of which counts 36. -/
def biasOf (steps distance : Nat) : Nat :=
  if 455 < distance then biasOf (steps + 36) (distance / 35)
  else steps + 36 * distance / (distance + 38)
termination_by distance
decreasing_by exact Nat.div_lt_self (by omega) (by omega)

/-- The bias after a distance, with the count of characters told so far; the first distance of a
label is taken for much smaller. -/
def nextBias (isFirst : Bool) (count distance : Nat) : Nat :=
  let distance := if isFirst then distance / 700 else distance / 2
  biasOf 0 (distance + distance / count)

/-- What has been written of a label, how many of its characters that tells, and the distance from
the last one. -/
structure Progress where
  written : List Char
  bias : Nat
  told : Nat
  distance : Nat

/-- Passes a character of the label while those of the given code point are told. -/
def pass (plain code : Nat) (p : Progress) (c : Char) : Progress :=
  if c.toNat < code then { p with distance := p.distance + 1 }
  else if c.toNat = code then
    { written := p.written ++ digits p.bias 36 p.distance
      bias := nextBias (p.told == plain) (p.told + 1) p.distance
      told := p.told + 1
      distance := 0 }
  else p

/-- Tells the characters of each code point; `last` is the one below which all have been told. -/
def tell (label : List Char) (plain : Nat) : Nat → List Nat → Progress → Progress
  | _, [], p => p
  | last, code :: codes, p =>
    let p := { p with distance := p.distance + (code - last) * (p.told + 1) }
    let p := label.foldl (pass plain code) p
    tell label plain (code + 1) codes { p with distance := p.distance + 1 }

def encode (label : List Char) : List Char :=
  let plain := label.filter fun c => decide (c.toNat < 0x80)
  let others := (label.map Char.toNat).filter fun n => decide (0x80 ≤ n)
  let codes := (others.mergeSort (· ≤ ·)).eraseDups
  let p := tell label plain.length 0x80 codes ⟨[], 72, plain.length, 0⟩
  (if plain.isEmpty then [] else plain ++ ['-']) ++ p.written

/-! ## Reading -/

def digitValue? (c : Char) : Option Nat :=
  if c.isLower then some (c.toNat - 'a'.toNat)
  else if c.isDigit then some (c.toNat - '0'.toNat + 26)
  else none

/-- What has been read of a label, where its next character can stand first, and the distance that
is being read. -/
structure Reading where
  label : List Char
  code : Nat := 0x80
  place : Nat := 0
  bias : Nat := 72
  isFirst : Bool := true
  step : Nat := 36
  weight : Nat := 1
  distance : Nat := 0

/-- Puts the character at the distance that has been read into the label. -/
def Reading.insert (r : Reading) (distance : Nat) : Option Reading :=
  let count := r.label.length + 1
  let code := r.code + (r.place + distance) / count
  let place := (r.place + distance) % count
  if code < 0xd800 ∨ 0xdfff < code ∧ code < 0x110000 then
    some
      { label := r.label.insertIdx place (Char.ofNat code)
        code := code
        place := place + 1
        bias := nextBias r.isFirst count distance
        isFirst := false }
  else none

def Reading.next? (r : Reading) (c : Char) : Option Reading := do
  let d ← digitValue? c
  let t := threshold r.bias r.step
  let distance := r.distance + d * r.weight
  if d < t then r.insert distance
  else
    some { r with step := r.step + 36, weight := r.weight * (36 - t), distance := distance }

/-- The label that a text spells, if no distance in it breaks off. -/
def decode? (cs : List Char) : Option (List Char) := do
  let told := (cs.reverse.takeWhile (· != '-')).reverse
  let plain := cs.take (cs.length - told.length - 1)
  let r ← told.foldlM Reading.next? { label := plain }
  if r.step = 36 then some r.label else none

end IncidentTriage.Text.Punycode
