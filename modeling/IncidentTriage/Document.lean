import IncidentTriage.Value.Text

/-!
# Documents

A document is a text with metadata: a chunk of a narrative or of the documentation, or a chunk that
was found, with its score.
-/

namespace IncidentTriage

structure Document where
  text : String
  metadata : Fields
  score : Value := .null

namespace Document

def about (d : Document) (key : String) : Value :=
  Fields.get d.metadata key

/-- A piece of metadata, shown; what is missing shows as null does. -/
def shown (d : Document) (key : String) : String :=
  (d.about key).display

def hasType (d : Document) (type : String) : Bool :=
  match d.about "type" with
  | .text s => s == type
  | _ => false

end Document

end IncidentTriage
