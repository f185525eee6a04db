import IncidentTriage.Value.Json
import IncidentTriage.Decimal.Shortest

/-!
# Writing JSON

A document is written without blanks. Its texts stand as they are, but for quotes, backslashes and
control characters, which are escaped.
-/

namespace IncidentTriage.Json
open IncidentTriage.Text IncidentTriage.Decimal

def escapeChar (c : Char) : List Char :=
  if c = '"' ∨ c = '\\' then ['\\', c]
  else if c = '\n' then ['\\', 'n']
  else if c = '\r' then ['\\', 'r']
  else if c = '\t' then ['\\', 't']
  else if c.toNat = 8 then ['\\', 'b']
  else if c.toNat = 12 then ['\\', 'f']
  else if c.toNat < 0x20 then '\\' :: 'u' :: hexDigits 4 c.toNat
  else [c]

def escapeSymbol : Symbol → List Symbol
  | .char c => (escapeChar c).map .char
  | .half s => [.half s]

def writeText (w : Wide) : Wide :=
  "\"" ++ ⟨w.symbols.flatMap escapeSymbol⟩ ++ "\""

mutual

def write : Content → Wide
  | .null => "null"
  | .bool b => if b then "true" else "false"
  | .int n => toString n
  | .float x => floatText x
  | .text w => writeText w
  | .list [] => "[]"
  | .list (v :: rest) => "[" ++ write v ++ writeItems rest ++ "]"
  | .object [] => "\x7b\x7d"
  | .object ((name, v) :: rest) =>
    "\x7b" ++ writeText name ++ ":" ++ write v ++ writeFields rest ++ "\x7d"

def writeItems : List Content → Wide
  | [] => ""
  | v :: rest => "," ++ write v ++ writeItems rest

def writeFields : List (Wide × Content) → Wide
  | [] => ""
  | (name, v) :: rest => "," ++ writeText name ++ ":" ++ write v ++ writeFields rest

end

end IncidentTriage.Json
