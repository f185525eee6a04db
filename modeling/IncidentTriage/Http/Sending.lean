import IncidentTriage.Fault
import IncidentTriage.Value.JsonText

/-!
# What can be sent

A document that is sent holds finite numbers and whole characters only. Fields whose names begin
with `_sa` are internal to whoever keeps them: they are left out before the document is looked at.
-/

namespace IncidentTriage.Http
open IncidentTriage.Text

/-- What the names of internal fields begin with. -/
def internalMark : String := "_sa"

def shared (v : Value) : Value :=
  v.without fun name => internalMark.toList.isPrefixOf name.toList

/-- A document of wide texts without its internal fields. -/
def sharedWide (v : Json.Content) : Json.Content :=
  v.without fun name => (Wide.ofString internalMark).symbols.isPrefixOf name.symbols

def notFiniteMessage : String := "Out of range float values are not JSON compliant"

/-- A document with a number that is not finite cannot be written. -/
def finite {τ : Type} (v : ValueOf τ) : Except Fault Unit :=
  if v.isFinite then .ok () else .error ⟨.value, notFiniteMessage⟩

/-- Why a text cannot be written in bytes: the code point of the first character that has none, its
position, and the count of those that follow each other. -/
def brokenMessage (encoding reason : String) (code first count : Nat) : String :=
  let range :=
    if count = 1 then s!"character '{String.ofList (codeEscape code)}' in position {first}"
    else s!"characters in position {first}-{first + count - 1}"
  s!"'{encoding}' codec can't encode {range}: {reason}"

/-- A text cannot be sent when it has half a surrogate pair in it. -/
def sendable (w : Wide) : Except Fault Unit :=
  let isChar := fun s : Symbol => s.char?.isSome
  match w.symbols.dropWhile isChar with
  | .half s :: rest =>
    .error ⟨.unicodeEncode, brokenMessage "utf-8" "surrogates not allowed" s.code
      (w.symbols.takeWhile isChar).length (1 + (rest.takeWhile fun s => !isChar s).length)⟩
  | _ => .ok ()

end IncidentTriage.Http
