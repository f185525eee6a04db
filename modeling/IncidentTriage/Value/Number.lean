import IncidentTriage.Value.Basic
import IncidentTriage.Decimal.Reading

/-!
# Values as numbers

A number in a trace may come as a number or as a text. What is no number counts as zero, so that one
malformed field does not cost the whole trace.
-/

namespace IncidentTriage.ValueOf
open IncidentTriage.Decimal

/-- The whole number that a text spells, the fraction of a floating-point number cut off. -/
def textToWhole (s : String) : Int :=
  match readWhole s.toList with
  | .ok n => n
  | .error _ => ((readFloat? s.toList).bind wholePart?).getD 0

def toWhole : Value → Int
  | .int n => n
  | .float x => (wholePart? x).getD 0
  | .text s => textToWhole s
  | _ => 0

end IncidentTriage.ValueOf
