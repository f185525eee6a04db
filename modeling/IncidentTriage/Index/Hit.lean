import IncidentTriage.Fault
import IncidentTriage.Decimal.Reading
import IncidentTriage.Settings
import IncidentTriage.Value.Text

/-!
# What a search has found

A row that a search finds has a content, metadata and a similarity, in this order. The metadata come
as an object or as pairs of a key and a value. Two keys that are worth the same number are one key:
it stays as it first came and takes the last value.
-/

namespace IncidentTriage.Index
open IncidentTriage.Decimal

/-- What a search has found. Its content is as the column store holds it. -/
structure Hit where
  content : Value
  metadata : Fields
  score : Float

namespace Hit

def scoreOf : Value → Except Fault Float
  | .float x => .ok x
  | .int n =>
    let x := Float.ofInt n
    if x.isInf then .error ⟨.overflow, "int too large to convert to float"⟩ else .ok x
  | .bool b => .ok (if b then 1.0 else 0.0)
  | .text s =>
    match Settings.readNumberText s with
    | .ok x => .ok x
    | .error e => .error ⟨.value, e.message⟩
  | other => .error ⟨.type,
      s!"float() argument must be a string or a real number, not '{other.kindName}'"⟩

/-- What a value holds when it is gone through: the items of a list, the characters of a text, the
names of an object. -/
def parts? : Value → Option (List Value)
  | .list items => some items
  | .text s => some (s.toList.map fun c => .text c.toString)
  | .object fields => some (fields.map fun f => .text f.1)
  | _ => none

/-- The whole number that a number or a truth value is worth, if it is worth one. -/
def worth? : Value → Option Int
  | .int n => some n
  | .bool b => some (if b then 1 else 0)
  | .float x => if isWhole x then wholePart? x else none
  | _ => none

/-- Two keys are one: numbers and truth values when they are worth the same, all else when it is the
same. What is not a number is no key but itself. -/
def isSameKey : Value → Value → Bool
  | .null, .null => true
  | .text s, .text t => s == t
  | .float x, .float y => x == y
  | a, b =>
    match worth? a, worth? b with
    | some m, some n => m == n
    | _, _ => false

/-- The pairs with another one. A key that comes again stays as it first came and takes the new
value. -/
def withPair (pairs : List (Value × Value)) (pair : Value × Value) : List (Value × Value) :=
  if pairs.any fun p => isSameKey p.1 pair.1 then
    pairs.map fun p => if isSameKey p.1 pair.1 then (p.1, pair.2) else p
  else pairs ++ [pair]

/-- The key and the value that the part of metadata at a position stands for. -/
def pairOf (position : Nat) (part : Value) : Except Fault (Value × Value) :=
  match parts? part with
  | some [.list _, _] => .error ⟨.type, "unhashable type: 'list'"⟩
  | some [.object _, _] => .error ⟨.type, "unhashable type: 'dict'"⟩
  | some [key, value] => .ok (key, value)
  | some others => .error ⟨.value, s!"dictionary update sequence element #{position} has length " ++
      s!"{others.length}; 2 is required"⟩
  | none => .error ⟨.type,
      s!"cannot convert dictionary update sequence element #{position} to a sequence"⟩

/-- Metadata as fields. They come as an object or as a list of pairs, whose keys are shown as
names. -/
def fieldsOf : Value → Except Fault Fields
  | .object fields => .ok fields
  | v =>
    match parts? v with
    | some parts => do
      let pairs ← parts.zipIdx.mapM fun (part, i) => pairOf i part
      return Fields.ofPairs ((pairs.foldl withPair []).map fun p => (p.1.display, p.2))
    | none => .error ⟨.type, s!"'{v.kindName}' object is not iterable"⟩

/-- A row that was found. Its metadata are read before its similarity. -/
def ofRow (row : Value) : Except Fault Hit :=
  match parts? row with
  | some [content, metadata, similarity] => do
    let metadata ← fieldsOf metadata
    return ⟨content, metadata, ← scoreOf similarity⟩
  | some others =>
    if others.length < 3 then
      .error ⟨.value, s!"not enough values to unpack (expected 3, got {others.length})"⟩
    else .error ⟨.value, "too many values to unpack (expected 3)"⟩
  | none => .error ⟨.type, s!"cannot unpack non-iterable {row.kindName} object"⟩

end Hit

end IncidentTriage.Index
