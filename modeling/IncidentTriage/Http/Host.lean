import IncidentTriage.Http.Label
import IncidentTriage.Http.Percent
import IncidentTriage.Text.Lowercase

/-!
# Hosts

A host is an address of four numbers between dots, an address of groups between colons, which stands
in square brackets, or a name. A host that looks like an address has to be one.
-/

namespace IncidentTriage.Http.Host
open IncidentTriage.Text

def isOctet (cs : List Char) : Bool :=
  !cs.isEmpty && decide (cs.length ≤ 3) && cs.all Char.isDigit &&
    (cs == ['0'] || cs.head? != some '0') &&
    decide (cs.foldl (fun n c => n * 10 + (c.toNat - '0'.toNat)) 0 < 256)

def isDotted (cs : List Char) : Bool :=
  let octets := cutAt '.' cs
  octets.length == 4 && octets.all isOctet

/-- Where one can be, after one more character, in four runs of digits with any one character
between two of them. The runs have odd numbers, and the number before a run stands for its start. -/
def advance (places : List Nat) (c : Char) : List Nat :=
  (places.flatMap fun p =>
    if p % 2 == 0 then (if c.isDigit then [p + 1] else [])
    else (if c.isDigit then [p] else []) ++ (if p < 7 then [p + 1] else [])).eraseDups

def looksDotted (cs : List Char) : Bool :=
  (cs.foldl advance [0]).contains 7

def isGroup (cs : List Char) : Bool :=
  !cs.isEmpty && decide (cs.length ≤ 4) && cs.all fun c => (hexValue? c).isSome

/-- Two dotted numbers each fill a group. -/
def spreadDotted (groups : List (List Char)) : Option (List (List Char)) :=
  let last := groups.getLastD []
  if !last.contains '.' then some groups
  else if isDotted last then some (groups.dropLast ++ [['0'], ['0']])
  else none

/-- The groups on one side of a gap. There is an empty one only if the gap is the end of the
address. -/
def besideGap (groups : List (List Char)) : List (List Char) :=
  if groups == [[]] then [] else groups

/-- Eight groups, of which a run may be left out where a group is empty; no other one may be. -/
def areGroups (groups : List (List Char)) : Bool :=
  let inner := groups.dropLast.drop 1
  match inner.findIdx? List.isEmpty with
  | none => groups.length == 8 && groups.all isGroup
  | some gap =>
    let kept := besideGap (groups.take (gap + 1)) ++ besideGap (groups.drop (gap + 2))
    decide (kept.length ≤ 7) && kept.all isGroup

/-- A zone stands behind the first percent sign, and has none in it. -/
def isZone (cs : List Char) : Bool :=
  cs.isEmpty || (decide (1 < cs.length) && !(cs.drop 1).contains '%')

/-- An address of groups between colons, perhaps with a zone. -/
def isColoned (cs : List Char) : Bool :=
  let groups := cutAt ':' (cs.takeWhile (· != '%'))
  isZone (cs.dropWhile (· != '%')) && decide (3 ≤ groups.length) &&
    match spreadDotted groups with
    | some groups => decide (groups.length ≤ 9) && areGroups groups
    | none => false

inductive Error
  | dotted (host : List Char)
  | coloned (host : List Char)
  | name (host : List Char)
  deriving DecidableEq, Repr

def Error.message : Error → String
  | .dotted host => s!"Invalid IPv4 address: {quoted (String.ofList host)}"
  | .coloned host => s!"Invalid IPv6 address: {quoted (String.ofList host)}"
  | .name host => s!"Invalid IDNA hostname: {quoted (String.ofList host)}"

/-- The characters that stand for themselves in a name. -/
def isPlain (c : Char) : Bool :=
  Percent.isUnreserved c || "!$&'()*+,;=\"\x60\x7b\x7d%|\\".toList.contains c

/-- The host as it is kept: an address without its brackets, a name in small letters of ASCII. -/
def read (cs : List Char) : Except Error (List Char) :=
  if cs.isEmpty then .ok []
  else if looksDotted cs then
    if isDotted cs then .ok cs else .error (.dotted cs)
  else if cs.head? == some '[' && cs.getLast? == some ']' then
    let address := cs.dropLast.drop 1
    if isColoned address then .ok address else .error (.coloned cs)
  else if cs.all fun c => decide (c.toNat < 0x80) then
    .ok (Percent.escape isPlain (cs.map Char.toLower))
  else
    match Label.writeName? (lower cs) with
    | some name => .ok name
    | none => .error (.name cs)

end IncidentTriage.Http.Host
