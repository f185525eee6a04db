import IncidentTriage.Text.Composition
import IncidentTriage.Text.Cut
import IncidentTriage.Text.Direction
import IncidentTriage.Text.Joining
import IncidentTriage.Text.NameChar
import IncidentTriage.Text.Punycode

/-!
# Names of hosts

A name is a sequence of labels between dots. A label holds characters of names in their composed
spelling, neither begins nor ends with a hyphen, does not begin with a mark, and has one direction.
Where it has characters beyond ASCII it is written in ASCII behind a mark of its own.
-/

namespace IncidentTriage.Http.Label
open IncidentTriage.Text

/-- What the spelling of a label in ASCII begins with. -/
def spelledMark : List Char := "xn--".toList

/-! ## Characters that their neighbours allow -/

def greekRanges : List (Nat × Nat) :=
  [(0x371, 0x3e1), (0x3f3, 0x3fc), (0x1d26, 0x1d2a), (0x1f00, 0x1ff6), (0xab65, 0xab65)]

def hebrewRanges : List (Nat × Nat) := [(0x591, 0x5f4), (0xfb1e, 0xfb1e)]

/-- The syllables and ideographs between which a middle dot can stand. -/
def eastAsianRanges : List (Nat × Nat) :=
  [(0x3005, 0x3005), (0x3007, 0x3007), (0x3041, 0x3096), (0x309d, 0x30fa), (0x30fd, 0x30fe),
   (0x31f0, 0x9fff), (0xfa0e, 0xfa29), (0x16fe3, 0x16fe3), (0x16ff0, 0x16ff1), (0x1aff0, 0x1b167),
   (0x20000, 0x3134a)]

def arabicDigits : List (Nat × Nat) := [(0x660, 0x669)]

def extendedArabicDigits : List (Nat × Nat) := [(0x6f0, 0x6f9)]

/-- The class of the signs that take the vowel from a letter. -/
def vowelless : Nat := 9

/-- Whether a character may stand between those before it, reversed, and those after it. -/
def isAllowed (before : List Char) (c : Char) (after : List Char) : Bool :=
  let label := before ++ after
  let afterVowelless := before.head?.any fun b => markClass b == vowelless
  match c.toNat with
  | 0x200c => afterVowelless || areJoined before after
  | 0x200d => afterVowelless
  | 0xb7 => before.head? == some 'l' && after.head? == some 'l'
  | 0x375 => after.head?.any (inRanges greekRanges)
  | 0x5f3 | 0x5f4 => before.head?.any (inRanges hebrewRanges)
  | 0x30fb => label.any (inRanges eastAsianRanges)
  | _ =>
    if inRanges arabicDigits c then !label.any (inRanges extendedArabicDigits)
    else if inRanges extendedArabicDigits c then !label.any (inRanges arabicDigits)
    else true

def areAllowed (before : List Char) : List Char → Bool
  | [] => true
  | c :: after => isAllowed before c after && areAllowed (c :: before) after

/-! ## Labels -/

/-- The hyphen stands inside a label, and not twice where the mark of a spelling has it. -/
def hyphensFit (cs : List Char) : Bool :=
  cs.head? != some '-' && cs.getLast? != some '-' && (cs.drop 2).take 2 != ['-', '-']

/-- A label as it is pronounced. -/
def isLabel (cs : List Char) : Bool :=
  !cs.isEmpty && cs.all isNameChar && hyphensFit cs && compose cs == cs &&
    !cs.head?.any isMark && areAllowed [] cs && Direction.fit (cs.map .ofChar)

/-- A label that is spelled in ASCII already. -/
def isSpelled (cs : List Char) : Bool :=
  let spelling := cs.drop spelledMark.length
  spelledMark.isPrefixOf cs && !spelling.isEmpty && spelling.getLast? != some '-' &&
    (Punycode.decode? spelling).any isLabel

/-- The largest length of a label as it is written. -/
def labelLimit : Nat := 63

def write? (cs : List Char) : Option (List Char) :=
  let isPlain := cs.all fun c => decide (c.toNat < 0x80)
  if labelLimit < cs.length || !(isLabel cs || isSpelled cs) then none
  else
    let written := if isPlain then cs else spelledMark ++ Punycode.encode cs
    if labelLimit < written.length then none else some written

/-- The dots of all scripts. -/
def isDot (c : Char) : Bool :=
  [0x2e, 0x3002, 0xff0e, 0xff61].contains c.toNat

/-- The largest length of a name as it is written, without a dot at its end. -/
def nameLimit : Nat := 253

/-- A name as it is written. A single dot may stand at its end. -/
def writeName? (cs : List Char) : Option (List Char) := do
  let labels := cutWhere isDot cs
  let isEnded := labels.getLast? == some []
  let written ← (if isEnded then labels.dropLast else labels).mapM write?
  let name := ['.'].intercalate written
  if nameLimit < name.length then none
  else some (if isEnded then name ++ ['.'] else name)

end IncidentTriage.Http.Label
