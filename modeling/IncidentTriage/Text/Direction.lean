import IncidentTriage.Text.Mark

/-!
# Directions of writing

A letter is written from left to right or from right to left, numbers follow rules of their own, and
marks take the direction of what is before them. A label of a name that holds anything written from
right to left has one direction throughout, begins with a letter and ends with a letter or a number.
The tables tell the characters of names.
-/

namespace IncidentTriage.Text

inductive Direction
  | left
  | right
  | number
  | arabicNumber
  | neutral
  | mark
  deriving DecidableEq, Repr

namespace Direction

def arabicNumberRanges : List (Nat × Nat) := [(0x660, 0x669), (0x10d30, 0x10d39)]

def numberRanges : List (Nat × Nat) := [(0x30, 0x39), (0x6f0, 0x6f9)]

def neutralRanges : List (Nat × Nat) :=
  [(0x2d, 0x2d), (0xb7, 0xb7), (0x2b9, 0x2ba), (0x2c6, 0x2cf), (0x2ec, 0x2ec), (0x375, 0x375),
   (0x200c, 0x200d), (0x2e2f, 0x2e2f), (0x30fb, 0x30fb), (0xa67f, 0xa67f), (0xa717, 0xa71f),
   (0xa788, 0xa788)]

/-- The scripts from right to left, told among the characters that the other tables leave. -/
def rightRanges : List (Nat × Nat) :=
  [(0x5d0, 0x64a), (0x66e, 0x6ef), (0x6fa, 0x8c9), (0xfe73, 0xfe73), (0x10800, 0x10d23),
   (0x10e80, 0x10ff6), (0x1e800, 0x1e959)]

def ofChar (c : Char) : Direction :=
  if isLooseMark c then .mark
  else if inRanges arabicNumberRanges c then .arabicNumber
  else if inRanges numberRanges c then .number
  else if inRanges neutralRanges c then .neutral
  else if inRanges rightRanges c then .right
  else .left

/-- The last direction that is not that of a mark. -/
def last? (ds : List Direction) : Option Direction :=
  (ds.reverse.dropWhile (· == .mark)).head?

def fitsRight (ds : List Direction) : Bool :=
  !ds.contains .left && !(ds.contains .number && ds.contains .arabicNumber) &&
    (last? ds).any [.right, .number, .arabicNumber].contains

def fitsLeft (ds : List Direction) : Bool :=
  !ds.contains .right && !ds.contains .arabicNumber && (last? ds).any [.left, .number].contains

def fit (ds : List Direction) : Bool :=
  if ds.contains .right || ds.contains .arabicNumber then
    match ds.head? with
    | some .right => fitsRight ds
    | some .left => fitsLeft ds
    | _ => false
  else true

end Direction

end IncidentTriage.Text
