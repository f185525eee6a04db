import IncidentTriage.Value.Basic
import IncidentTriage.Decimal.Shortest

/-!
# The text of a value

A value has a display form, in which a text stands for itself, and a literal form, in which it
stands in quotes. Inside lists and objects everything has its literal form. Attributes of a trace
are shown with words of their own for what is missing, true or false.
-/

namespace IncidentTriage
open IncidentTriage.Text IncidentTriage.Decimal

namespace ValueOf

mutual

def literal {τ : Type} [Spelled τ] : ValueOf τ → String
  | .null => "None"
  | .bool b => if b then "True" else "False"
  | .int n => toString n
  | .float x => floatText x
  | .text s => Spelled.quoted s
  | .list items => "[" ++ ", ".intercalate (literals items) ++ "]"
  | .object fields => "\x7b" ++ ", ".intercalate (literalFields fields) ++ "\x7d"

def literals {τ : Type} [Spelled τ] : List (ValueOf τ) → List String
  | [] => []
  | v :: rest => literal v :: literals rest

def literalFields {τ : Type} [Spelled τ] : List (τ × ValueOf τ) → List String
  | [] => []
  | (name, v) :: rest => (Spelled.quoted name ++ ": " ++ literal v) :: literalFields rest

end

def wideDisplay : ValueOf Wide → Wide
  | .text w => w
  | v => .ofString v.literal

def display : Value → String
  | .text s => s
  | v => v.literal

/-- The text of an attribute of a trace: nothing for null, and truth values in lower case. -/
def fieldText : Value → String
  | .null => ""
  | .bool b => if b then "true" else "false"
  | v => display v

/-- The text of a value kept as metadata of a stored chunk: truth values in lower case. -/
def metadataText : Value → String
  | .bool b => if b then "true" else "false"
  | v => display v

end ValueOf

end IncidentTriage
