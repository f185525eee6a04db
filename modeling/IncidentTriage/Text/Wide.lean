/-!
# Wide texts

A document can spell one half of a surrogate pair without the other, and such a half is no
character. So a text that is read from a document is a sequence of symbols, each of them a character
or a half that stands alone. Every text of characters is a wide text too.
-/

namespace IncidentTriage.Text

/-- Half a surrogate pair. -/
structure Surrogate where
  code : Nat
  isHalf : 0xd800 ≤ code ∧ code < 0xe000
  deriving DecidableEq, Repr

inductive Symbol
  | char (c : Char)
  | half (s : Surrogate)
  deriving DecidableEq, Repr

namespace Symbol

def ofCode (code : Nat) : Symbol :=
  if h : 0xd800 ≤ code ∧ code < 0xe000 then .half ⟨code, h⟩ else .char (Char.ofNat code)

def char? : Symbol → Option Char
  | .char c => some c
  | .half _ => none

/-- The character, or the replacement character for a half. -/
def shown (s : Symbol) : Char :=
  s.char?.getD (Char.ofNat 0xfffd)

end Symbol

structure Wide where
  symbols : List Symbol
  deriving DecidableEq, Repr

namespace Wide

def ofString (s : String) : Wide :=
  ⟨s.toList.map .char⟩

instance : Coe String Wide := ⟨ofString⟩

instance : Append Wide := ⟨fun a b => ⟨a.symbols ++ b.symbols⟩⟩

def isEmpty (w : Wide) : Bool :=
  w.symbols.isEmpty

def plain? (w : Wide) : Option String :=
  (w.symbols.mapM Symbol.char?).map String.ofList

/-- The text, with the replacement character for each half. -/
def shown (w : Wide) : String :=
  String.ofList (w.symbols.map Symbol.shown)

end Wide

end IncidentTriage.Text
