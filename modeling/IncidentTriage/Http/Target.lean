import IncidentTriage.Fault
import IncidentTriage.Decimal.Reading
import IncidentTriage.Http.Host
import IncidentTriage.Http.Percent
import IncidentTriage.Http.Sending

/-!
# Targets of requests

A target is an address in its parts. A reference that names no host leads to this one. Of the parts
only the path tells where the request goes: its dot segments are resolved, and its percent escapes
are read twice, once by whoever sends the request and once by whoever receives it.
-/

namespace IncidentTriage.Http
open IncidentTriage.Text

/-- An address in its parts, which are escaped as each of them needs. -/
structure Target where
  scheme : List Char
  host : List Char
  port : Option Int
  path : List Char
  query : Option (List Char)
  fragment : Option (List Char)

namespace Target

inductive Error
  | tooLong
  | partTooLong (part : String)
  | forbidden (c : Char) (position : Nat)
  | forbiddenIn (part : String) (c : Char) (position : Nat)
  | host (e : Host.Error)
  | port (text : List Char)
  | startsWith (mark : String)
  deriving DecidableEq, Repr

def Error.message : Error → String
  | .tooLong => "URL too long"
  | .partTooLong part => s!"URL component '{part}' too long"
  | .forbidden c position =>
    s!"Invalid non-printable ASCII character in URL, {quoted c.toString} at position {position}."
  | .forbiddenIn part c position =>
    s!"Invalid non-printable ASCII character in URL {part} component, {quoted c.toString} at " ++
      s!"position {position}."
  | .host e => e.message
  | .port text => s!"Invalid port: {quoted (String.ofList text)}"
  | .startsWith mark => s!"Relative URLs cannot have a path starting with '{mark}'"

def Error.toFault (e : Error) : Fault :=
  ⟨.invalidUrl, e.message⟩

/-! ## The parts of a text -/

def isSchemeChar (c : Char) : Bool :=
  c.isAlphanum || c == '+' || c == '.' || c == '-'

/-- The scheme in front of a colon, and what follows the colon. It may be empty, and begins with a
letter if it is not. -/
def splitScheme (cs : List Char) : List Char × List Char :=
  let scheme := cs.takeWhile isSchemeChar
  match cs.dropWhile isSchemeChar with
  | ':' :: rest => if scheme.head?.all Char.isAlpha then (scheme, rest) else ([], cs)
  | _ => ([], cs)

/-- The authority behind two slashes, and what follows it. -/
def splitAuthority : List Char → List Char × List Char
  | '/' :: '/' :: rest =>
    let endsIt := fun c => c == '/' || c == '?' || c == '#'
    (rest.takeWhile fun c => !endsIt c, rest.dropWhile fun c => !endsIt c)
  | cs => ([], cs)

/-- What stands behind a mark that is the first character. -/
def behind? (mark : Char) : List Char → Option (List Char)
  | c :: rest => if c == mark then some rest else none
  | [] => none

/-- The text in front of the last such mark, if there is one, and what follows it. -/
def splitLast (mark : Char) (cs : List Char) : Option (List Char) × List Char :=
  let after := (cs.reverse.takeWhile (· != mark)).reverse
  if cs.contains mark then (some (cs.take (cs.length - after.length - 1)), after) else (none, cs)

/-- An authority is a host, perhaps with a login in front of it and a number behind it. -/
structure Authority where
  login : List Char
  host : List Char
  port : List Char

/-- The host ends with the last closing bracket, if it begins with an opening one, and else before a
colon. -/
def splitHost (cs : List Char) : List Char × List Char :=
  match cs.head? == some '[', splitLast ']' cs with
  | true, (some address, rest) => (address ++ [']'], rest)
  | _, _ => (cs.takeWhile (· != ':'), cs.dropWhile (· != ':'))

def Authority.ofText (cs : List Char) : Authority :=
  let (login, rest) := splitLast '@' cs
  let (host, rest) := splitHost rest
  ⟨login.getD [], host, (behind? ':' rest).getD rest⟩

/-! ## Paths -/

/-- The segments with the dot segments resolved; `kept` holds, reversed, those before them. Nothing
leads above the root. -/
def resolve (kept : List (List Char)) : List (List Char) → List (List Char)
  | [] => kept.reverse
  | s :: rest =>
    if s == ['.'] then resolve kept rest
    else if s == ['.', '.'] then
      resolve (if kept == [[]] then kept else kept.drop 1) rest
    else resolve (s :: kept) rest

def withoutDots (path : List Char) : List Char :=
  ['/'].intercalate (resolve [] (cutAt '/' path))

/-! ## Reading -/

/-- Characters of ASCII that are not printed have no place in a target. -/
def isForbidden (c : Char) : Bool :=
  decide (c.toNat < 0x20) || c.toNat == 0x7f

/-- The first forbidden character and its position. -/
def forbidden? (cs : List Char) : Option (Char × Nat) :=
  (cs.find? isForbidden).map fun c => (c, (cs.takeWhile fun c => !isForbidden c).length)

/-- The largest length of a target, and of each part of it. -/
def lengthLimit : Nat := 65536

def standardPort? (scheme : List Char) : Option Int :=
  [("ftp", 21), ("http", 80), ("https", 443), ("ws", 80), ("wss", 443)].lookup
    (String.ofList scheme)

/-- The number behind the host, if there is one and it is not that of the scheme. -/
def readPort (scheme cs : List Char) : Except Error (Option Int) :=
  if cs.isEmpty then .ok none
  else
    match Decimal.readWhole cs with
    | .ok n => .ok (if some n = standardPort? scheme then none else some n)
    | .error _ => .error (.port cs)

def isPlainInPath : Char → Bool :=
  Percent.isPrintedBut [' ', '"', '#', '<', '>', '?', '\x60', '\x7b', '\x7d']

def isPlainInQuery : Char → Bool :=
  Percent.isPrintedBut [' ', '"', '#', '<', '>']

def isPlainInFragment : Char → Bool :=
  Percent.isPrintedBut [' ', '"', '<', '>', '\x60']

/-- A path that stands alone must not look like something else. -/
def checkPath (path : List Char) : Except Error Unit :=
  if ['/', '/'].isPrefixOf path then .error (.startsWith "//")
  else if path.head? = some ':' then .error (.startsWith ":")
  else .ok ()

def make (scheme : List Char) (authority : Authority) (path : List Char)
    (query fragment : Option (List Char)) : Except Error Target := do
  let host ← (Host.read authority.host).mapError .host
  let port ← readPort scheme authority.port
  let alone := scheme.isEmpty && authority.login.isEmpty && host.isEmpty && port.isNone
  if alone then checkPath path
  let path := if alone then path else withoutDots path
  return ⟨scheme.map Char.toLower, host, port, Percent.escape isPlainInPath path,
    query.map (Percent.escape isPlainInQuery), fragment.map (Percent.escape isPlainInFragment)⟩

def read (cs : List Char) : Except Error Target := do
  if lengthLimit < cs.length then throw .tooLong
  if let some (c, position) := forbidden? cs then throw (.forbidden c position)
  let (scheme, rest) := splitScheme cs
  let (authority, rest) := splitAuthority rest
  let path := rest.takeWhile fun c => c != '?' && c != '#'
  let rest := rest.dropWhile fun c => c != '?' && c != '#'
  let query := (behind? '?' rest).map (·.takeWhile (· != '#'))
  let fragment := behind? '#' (rest.dropWhile (· != '#'))
  make scheme (.ofText authority) path query fragment

/-- A part that is given on its own is looked at on its own. -/
def checkPart (part : String) (cs : List Char) : Except Error Unit := do
  if lengthLimit < cs.length then throw (.partTooLong part)
  if let some (c, position) := forbidden? cs then throw (.forbiddenIn part c position)

/-! ## Where a request goes -/

def ownHost : List Char := "testserver".toList

/-- A target that names no host leads to this one, and its fragment is dropped. -/
def atHost (t : Target) : Except Error Target := do
  if !t.scheme.isEmpty && !t.host.isEmpty then return t
  let path := '/' :: t.path.dropWhile (· == '/')
  checkPart "path" path
  (t.query.map (checkPart "query")).getD (.ok ())
  make "http".toList ⟨[], ownHost, []⟩ path t.query none

def place (t : Target) : List Char :=
  (if t.host.contains ':' then '[' :: t.host ++ [']'] else t.host) ++
    (t.port.map fun n => ':' :: (toString n).toList).getD []

def schemes : List String := ["http", "ws", "https", "wss"]

/-- Only ASCII can stand in the place that a request names, and the scheme has to be known. -/
def checkPlace (t : Target) : Except Fault Unit := do
  let isAscii := fun c : Char => decide (c.toNat < 0x80)
  match t.place.dropWhile isAscii with
  | c :: rest =>
    throw ⟨.unicodeEncode, brokenMessage "ascii" "ordinal not in range(128)" c.toNat
      (t.place.takeWhile isAscii).length (1 + (rest.takeWhile fun c => !isAscii c).length)⟩
  | [] => pure ()
  let scheme := String.ofList t.scheme
  if !schemes.contains scheme then throw ⟨.key, quoted scheme⟩

/-- The path as whoever receives the request reads it. -/
def receivedPath (t : Target) : String :=
  String.ofList (Percent.unescape (Percent.unescape (if t.path.isEmpty then ['/'] else t.path)))

/-! ## Being sent on -/

def isPlainInLocation (c : Char) : Bool :=
  Percent.isUnreserved c || ":/%#?=@[]!$&'()*+,".toList.contains c

/-- The address of another path at the same place, with the same query. -/
def location (t : Target) (path : String) : List Char :=
  let query := t.query.getD []
  Percent.escape isPlainInLocation (t.scheme ++ "://".toList ++ t.place ++ path.toList ++
    if query.isEmpty then [] else '?' :: query)

/-- The target of a request that is sent on to another path. It keeps its fragment. -/
def sentOn (t : Target) (path : String) : Except Fault Target := do
  let next ← (read (t.location path)).mapError fun e =>
    ⟨.remoteProtocol, s!"Invalid URL in location header: {e.message}."⟩
  let fragment := Percent.unescape (t.fragment.getD [])
  (checkPart "fragment" fragment).mapError Error.toFault
  return { next with fragment := some (Percent.escape isPlainInFragment fragment) }

end Target

end IncidentTriage.Http
