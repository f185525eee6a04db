import IncidentTriage.Http.Problem
import IncidentTriage.Http.WholeText
import IncidentTriage.Text.Digit

/-!
# Bodies of requests

A body is checked before anything is done, and each problem of it is told by its kind and its place.
Whole numbers may also come as truth values, as numbers without fraction, or as texts that spell
them.
-/

namespace IncidentTriage.Http.Body
open IncidentTriage.Text

abbrev Checked (α : Type) := Except Problem α

/-- A problem with what stands in a field of the body. -/
def problem (field : String) (kind : Problem.Kind) (found : Json.Content) : Problem :=
  ⟨kind, ["body", field], found⟩

def bodyProblem (kind : Problem.Kind) (found : Json.Content) : Problem :=
  ⟨kind, ["body"], found⟩

def checkText (field : String) : Json.Content → Checked String
  | .text w =>
    match w.plain? with
    | some s => .ok s
    | none => .error (problem field .brokenText (.text w))
  | other => .error (problem field .noText other)

/-- A question has to be there, and must not be empty. -/
def checkQuestion (fields : FieldsOf Wide) : Checked String :=
  match Fields.get? fields (Wide.ofString "question") with
  | none => .error (problem "question" .missing (.object fields))
  | some v => do
    let s ← checkText "question" v
    if s.isEmpty then .error (problem "question" .emptyText v) else .ok s

def lookbackUnits : List String := ["us", "ms", "s", "m", "h", "d"]

def lookbackPattern : String :=
  "^\\d+(" ++ "|".intercalate lookbackUnits ++ ")$"

/-- A span of time back from now: digits and a unit. -/
def isLookback (s : String) : Bool :=
  let digits := s.toList.takeWhile isCurrentDigit
  let unit := s.toList.dropWhile isCurrentDigit
  !digits.isEmpty && lookbackUnits.any fun u => u.toList == unit

def checkLookback (fields : FieldsOf Wide) : Checked (Option String) :=
  match Fields.get fields (Wide.ofString "lookback") with
  | .null => .ok none
  | v => do
    let s ← checkText "lookback" v
    if isLookback s then .ok (some s)
    else .error (problem "lookback" (.wrongPattern lookbackPattern) v)

def checkFloat (field : String) (x : Float) : Checked Int :=
  match Decimal.wholePart? x with
  | none => .error (problem field .notFinite (.float x))
  | some n =>
    if !Decimal.isWhole x then .error (problem field .fraction (.float x))
    else if n.natAbs < Nat.pow 2 63 then .ok n
    else .error (problem field .longWholeText (.float x))

def checkWhole (field : String) : Json.Content → Checked Int
  | .int n => .ok n
  | .bool b => .ok (if b then 1 else 0)
  | .float x => checkFloat field x
  | .text w => do
    match WholeText.read (← checkText field (.text w)) with
    | .whole n => .ok n
    | .tooLong => .error (problem field .longWholeText (.text w))
    | .malformed => .error (problem field .noWholeText (.text w))
  | other => .error (problem field .noWhole other)

def checkLimit (fields : FieldsOf Wide) : Checked (Option Int) :=
  match Fields.get fields (Wide.ofString "limit") with
  | .null => .ok none
  | v => do
    let n ← checkWhole "limit" v
    if 0 < n then .ok (some n) else .error (problem "limit" .notPositive v)

/-- The lookback and the limit that a body asks for, or all its problems. -/
def readIngestTraces : Json.Content → Except (List Problem) (Option String × Option Int)
  | .null => .ok (none, none)
  | .object fields =>
    match checkLookback fields, checkLimit fields with
    | .ok lookback, .ok limit => .ok (lookback, limit)
    | .error p, .ok _ => .error [p]
    | .ok _, .error q => .error [q]
    | .error p, .error q => .error [p, q]
  | other => .error [bodyProblem .noObject other]

def readAsk : Json.Content → Except (List Problem) String
  | .object fields => (checkQuestion fields).mapError ([·])
  | other => .error [bodyProblem .noObject other]

end IncidentTriage.Http.Body
