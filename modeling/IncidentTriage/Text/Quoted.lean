import IncidentTriage.Text.Printable
import IncidentTriage.Text.Wide

/-!
# Quoted text

A text in a log line or in an error message stands in quotes: single ones, unless it holds a single
quote and no double one. The mark and the backslash are escaped by a backslash, and so is every
character that is not printable, and every half of a surrogate pair.
-/

namespace IncidentTriage.Text

/-- The last `width` hexadecimal digits of `n`. -/
def hexDigits : Nat → Nat → List Char
  | 0, _ => []
  | width + 1, n => hexDigits width (n / 16) ++ [Nat.digitChar (n % 16)]

/-- The escape of a code point that is not printed: two, four or eight digits, as it needs. -/
def codeEscape (code : Nat) : List Char :=
  if code < 0x100 then '\\' :: 'x' :: hexDigits 2 code
  else if code < 0x10000 then '\\' :: 'u' :: hexDigits 4 code
  else '\\' :: 'U' :: hexDigits 8 code

def quoteMark (cs : List Char) : Char :=
  if cs.contains '\'' && !cs.contains '"' then '"' else '\''

def quoteChar (mark c : Char) : List Char :=
  if c = mark ∨ c = '\\' then ['\\', c]
  else if c = '\n' then ['\\', 'n']
  else if c = '\r' then ['\\', 'r']
  else if c = '\t' then ['\\', 't']
  else if 0x20 ≤ c.toNat ∧ c.toNat < 0x7f then [c]
  else if isPrintable c then [c]
  else codeEscape c.toNat

def quote (cs : List Char) : List Char :=
  let mark := quoteMark cs
  mark :: (cs.flatMap (quoteChar mark) ++ [mark])

def quoted (s : String) : String :=
  String.ofList (quote s.toList)

def quoteSymbol (mark : Char) : Symbol → List Char
  | .char c => quoteChar mark c
  | .half s => codeEscape s.code

def Wide.quoted (w : Wide) : String :=
  let mark := quoteMark (w.symbols.filterMap Symbol.char?)
  String.ofList (mark :: (w.symbols.flatMap (quoteSymbol mark) ++ [mark]))

/-- What is asked of the texts of a value. -/
class Spelled (τ : Type) where
  isEmpty : τ → Bool
  quoted : τ → String

instance : Spelled String := ⟨String.isEmpty, Text.quoted⟩

instance : Spelled Wide := ⟨Wide.isEmpty, Wide.quoted⟩

end IncidentTriage.Text
