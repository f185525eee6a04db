import IncidentTriage.Text.Blank
import IncidentTriage.Text.Utf8

/-!
# Encodings

An encoding cuts a text into tokens and joins tokens to a text: the words between blanks, the single
characters, or the bytes of the text.
-/

namespace IncidentTriage.Chunk
open IncidentTriage.Text

structure Encoding (τ : Type) where
  encode : List Char → List τ
  decode : List τ → List Char

def wordEncoding : Encoding (List Char) := ⟨words, unwords⟩

def charEncoding : Encoding Char := ⟨id, id⟩

/-- Bytes cut out of the middle of a character become replacement characters. -/
def byteEncoding : Encoding UInt8 := ⟨Utf8.encode, Utf8.decode⟩

end IncidentTriage.Chunk
