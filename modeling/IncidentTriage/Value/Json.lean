import IncidentTriage.Value.Basic
import IncidentTriage.Decimal.Reading
import IncidentTriage.Text.Utf8
import IncidentTriage.Text.Utf16

/-!
# Reading JSON

A document is read from its bytes: the encoding is told from a byte order mark or from where the
zero bytes stand. Beyond the standard, `NaN`, `Infinity` and `-Infinity` are numbers, and of two
members with one name the later one holds. A number without point and exponent is whole, of any
size up to the limit on digits. Lists and objects nest up to the depth that the reader allows.
-/

namespace IncidentTriage.Json
open IncidentTriage.Text IncidentTriage.Decimal

inductive Error
  | undecodable
  | malformed
  | tooLong (digits : Nat)
  | tooDeep (container : String)

abbrev Content := ValueOf Wide

def isSpace (c : Symbol) : Bool :=
  c == .char ' ' || c == .char '\t' || c == .char '\n' || c == .char '\r'

def skipSpace (cs : List Symbol) : List Symbol :=
  cs.dropWhile isSpace

/-- The rest of the text after `word`, if the text begins with it. -/
def afterWord? (word : String) (cs : List Symbol) : Option (List Symbol) :=
  if (Wide.ofString word).symbols.isPrefixOf cs then some (cs.drop word.length) else none

/-- The number spelled by the four hexadecimal digits at the head, and the rest. -/
def fourHex? : List Symbol → Option (Nat × List Symbol)
  | .char a :: .char b :: .char c :: .char d :: rest => do
    let a ← hexValue? a
    let b ← hexValue? b
    let c ← hexValue? c
    let d ← hexValue? d
    return (((a * 16 + b) * 16 + c) * 16 + d, rest)
  | _ => none

/-- The low half of a surrogate pair, written as an escape at the head. -/
def lowHalf? : List Symbol → Option (Nat × List Symbol)
  | .char '\\' :: .char 'u' :: rest =>
    match fourHex? rest with
    | some (low, rest) => if 0xdc00 ≤ low ∧ low < 0xe000 then some (low, rest) else none
    | none => none
  | _ => none

/-- The character that a letter after a backslash stands for. -/
def letterValue? : Char → Option Char
  | '"' => some '"'
  | '\\' => some '\\'
  | '/' => some '/'
  | 'b' => some (Char.ofNat 8)
  | 'f' => some (Char.ofNat 12)
  | 'n' => some '\n'
  | 'r' => some '\r'
  | 't' => some '\t'
  | _ => none

/-- The symbol of an escape, the backslash already read. -/
def readEscape : List Symbol → Except Error (Symbol × List Symbol)
  | .char 'u' :: rest =>
    match fourHex? rest with
    | none => .error .malformed
    | some (code, rest) =>
      if 0xd800 ≤ code ∧ code < 0xdc00 then
        match lowHalf? rest with
        | some (low, rest) =>
          .ok (.ofCode (0x10000 + (code - 0xd800) * 1024 + (low - 0xdc00)), rest)
        | none => .ok (.ofCode code, rest)
      else .ok (.ofCode code, rest)
  | .char c :: rest =>
    match letterValue? c with
    | some value => .ok (.char value, rest)
    | none => .error .malformed
  | _ => .error .malformed

def isControl : Symbol → Bool
  | .char c => c.toNat < 0x20
  | .half _ => false

/-- The symbols up to the closing quote. `read` holds, reversed, those already read. -/
def readText : Nat → List Symbol → List Symbol → Except Error (Wide × List Symbol)
  | 0, _, _ => .error .malformed
  | _ + 1, _, [] => .error .malformed
  | _ + 1, read, .char '"' :: rest => .ok (⟨read.reverse⟩, rest)
  | fuel + 1, read, .char '\\' :: rest => do
    let (c, rest) ← readEscape rest
    readText fuel (c :: read) rest
  | fuel + 1, read, c :: rest =>
    if isControl c then .error .malformed else readText fuel (c :: read) rest

def digitRun : List Symbol → List Char × List Symbol
  | .char c :: rest =>
    if c.isDigit then
      let (digits, rest) := digitRun rest
      (c :: digits, rest)
    else ([], .char c :: rest)
  | cs => ([], cs)

/-- Digits after a point, the point included, where at least one follows it. -/
def fractionPart (cs : List Symbol) : List Char × List Symbol :=
  match cs with
  | .char '.' :: rest =>
    let (digits, tail) := digitRun rest
    if digits.isEmpty then ([], cs) else (digits, tail)
  | _ => ([], cs)

/-- A sign, if there is one, and what follows it; `true` for a minus. -/
def signPart : List Symbol → Bool × List Symbol
  | .char '-' :: rest => (true, rest)
  | .char '+' :: rest => (false, rest)
  | cs => (false, cs)

/-- The exponent part, where at least one digit follows its mark. -/
def exponentPart (cs : List Symbol) : Option Int × List Symbol :=
  match cs with
  | mark :: rest =>
    let (negative, body) := signPart rest
    let (digits, tail) := digitRun body
    if (mark == .char 'e' || mark == .char 'E') && !digits.isEmpty then
      (some (if negative then -(natOfDigits digits : Int) else natOfDigits digits), tail)
    else (none, cs)
  | [] => (none, cs)

/-- A number without its sign: zero or digits that begin with another one, then the two parts. -/
def readNumber (negative : Bool) (cs : List Symbol) : Except Error (Content × List Symbol) :=
  let run := (digitRun cs).1
  let whole := if run.head? = some '0' then ['0'] else run
  let rest := cs.drop whole.length
  let (fraction, rest') := fractionPart rest
  let (exponent, tail) := exponentPart rest'
  if whole.isEmpty then .error .malformed
  else if fraction.isEmpty && exponent.isNone then
    if digitLimit < whole.length then .error (.tooLong whole.length)
    else .ok (.int (if negative then -(natOfDigits whole : Int) else natOfDigits whole), tail)
  else
    let x := floatOfDecimal (natOfDigits (whole ++ fraction)) (exponent.getD 0 - fraction.length)
    .ok (.float (if negative then -x else x), tail)

/-- A value that is neither a text nor a list nor an object. -/
def readScalar (cs : List Symbol) : Except Error (Content × List Symbol) :=
  match afterWord? "null" cs, afterWord? "true" cs, afterWord? "false" cs, afterWord? "NaN" cs with
  | some rest, _, _, _ => .ok (.null, rest)
  | _, some rest, _, _ => .ok (.bool true, rest)
  | _, _, some rest, _ => .ok (.bool false, rest)
  | _, _, _, some rest => .ok (.float (0.0 / 0.0), rest)
  | _, _, _, _ =>
    match afterWord? "Infinity" cs, afterWord? "-Infinity" cs, cs with
    | some rest, _, _ => .ok (.float (1.0 / 0.0), rest)
    | _, some rest, _ => .ok (.float (-1.0 / 0.0), rest)
    | _, _, .char '-' :: rest => readNumber true rest
    | _, _, _ => readNumber false cs

mutual

/-- The value at the head of a text, and the rest. Every call spends fuel, and a list or an object
spends depth. -/
def readValue : Nat → Nat → List Symbol → Except Error (Content × List Symbol)
  | 0, _, _ => .error .malformed
  | fuel + 1, _, .char '"' :: rest => do
    let (s, rest) ← readText (fuel + 1) [] rest
    return (.text s, rest)
  | fuel + 1, depth, .char '[' :: rest =>
    match depth with
    | 0 => .error (.tooDeep "array")
    | depth + 1 =>
      match skipSpace rest with
      | .char ']' :: rest => .ok (.list [], rest)
      | start => do
        let (items, rest) ← readItems fuel depth start
        return (.list items, rest)
  | fuel + 1, depth, .char '\x7b' :: rest =>
    match depth with
    | 0 => .error (.tooDeep "object")
    | depth + 1 =>
      match skipSpace rest with
      | .char '\x7d' :: rest => .ok (.object [], rest)
      | start => do
        let (members, rest) ← readMembers fuel depth start
        return (.object (Fields.ofPairs members), rest)
  | _ + 1, _, cs => readScalar cs

/-- The items of a list up to its closing bracket. -/
def readItems : Nat → Nat → List Symbol → Except Error (List Content × List Symbol)
  | 0, _, _ => .error .malformed
  | fuel + 1, depth, cs => do
    let (v, rest) ← readValue fuel depth cs
    match skipSpace rest with
    | .char ']' :: rest => return ([v], rest)
    | .char ',' :: rest =>
      let (items, rest) ← readItems fuel depth (skipSpace rest)
      return (v :: items, rest)
    | _ => .error .malformed

/-- The members of an object up to its closing brace. -/
def readMembers : Nat → Nat → List Symbol → Except Error (List (Wide × Content) × List Symbol)
  | 0, _, _ => .error .malformed
  | fuel + 1, depth, .char '"' :: rest => do
    let (name, rest) ← readText (fuel + 1) [] rest
    match skipSpace rest with
    | .char ':' :: rest =>
      let (v, rest) ← readValue fuel depth (skipSpace rest)
      match skipSpace rest with
      | .char '\x7d' :: rest => return ([(name, v)], rest)
      | .char ',' :: rest =>
        let (members, rest) ← readMembers fuel depth (skipSpace rest)
        return ((name, v) :: members, rest)
      | _ => .error .malformed
    | _ => .error .malformed
  | _ + 1, _, _ => .error .malformed

end

/-- The content that a whole text spells, with blanks around it. Lists and objects may nest `depth`
deep. -/
def read (depth : Nat) (cs : List Symbol) : Except Error Content := do
  let (v, rest) ← readValue (2 * cs.length + 2) depth (skipSpace cs)
  if (skipSpace rest).isEmpty then return v else .error .malformed

/-- The text of a document, its encoding told from its first bytes. -/
def decode? : List UInt8 → Option (List Symbol)
  | 0 :: 0 :: 0xfe :: 0xff :: rest => Utf32.decode? .big rest
  | 0xff :: 0xfe :: 0 :: 0 :: rest => Utf32.decode? .little rest
  | 0xfe :: 0xff :: rest => Utf16.decode? .big rest
  | 0xff :: 0xfe :: rest => Utf16.decode? .little rest
  | 0xef :: 0xbb :: 0xbf :: rest => Utf8.decodeWide? rest
  | bytes =>
    match bytes with
    | a :: b :: c :: d :: _ =>
      if a = 0 then
        if b = 0 then Utf32.decode? .big bytes else Utf16.decode? .big bytes
      else if b = 0 then
        if c = 0 && d = 0 then Utf32.decode? .little bytes else Utf16.decode? .little bytes
      else Utf8.decodeWide? bytes
    | [a, b] =>
      if a = 0 then Utf16.decode? .big bytes
      else if b = 0 then Utf16.decode? .little bytes
      else Utf8.decodeWide? bytes
    | _ => Utf8.decodeWide? bytes

def readBytes (depth : Nat) (bytes : List UInt8) : Except Error Content :=
  match decode? bytes with
  | none => .error .undecodable
  | some cs => read depth cs

end IncidentTriage.Json
