import IncidentTriage.Settings

/-!
# Arguments

The arguments of the command line name a command, its options and, for one command, a question. An
option may be shortened as long as one option alone is meant, its value follows it or stands after
an equals sign, and the last value given holds. Two dashes after the equals sign leave the value
blank; two dashes by themselves end the options. Asking for help ends the reading at once.
-/

namespace IncidentTriage.CommandLine

/-- What is to be done. The value of an option is none where it was left blank. -/
inductive Command
  | ask (question : String)
  | chat
  | ingestDocs
  | ingestTraces (lookback : Option String) (limit : Option Int)
  | serve (host : Option String) (port : Option Int)
  deriving DecidableEq, Repr

/-- Why there is no command: help was asked for, or the arguments are not understood. -/
inductive Refusal
  | help
  | usage
  deriving DecidableEq, Repr

def Refusal.exitCode : Refusal → Int
  | .help => 0
  | .usage => 2

/-- What an argument looks like to a reader that knows the options in `names`. -/
inductive Shape
  | plain
  | dashes
  | option (name : String) (value : Option String)
  | unknown
  | ambiguous
  deriving DecidableEq, Repr

def helpNames : List String := ["-h", "--help"]

/-- The text before the first equals sign, and the text after it if there is one. -/
def atEquals (cs : List Char) : String × Option String :=
  let name := String.ofList (cs.takeWhile (· != '='))
  match cs.dropWhile (· != '=') with
  | _ :: value => (name, some (String.ofList value))
  | [] => (name, none)

/-- The options that an argument may mean without being one of them. A single dash and a letter may
have letters behind it, which are then its value. -/
def shortened (names : List String) (cs : List Char) : List Shape :=
  match cs with
  | '-' :: '-' :: _ =>
    let (stem, value) := atEquals cs
    (names.filter fun n => stem.toList.isPrefixOf n.toList).map fun n => .option n value
  | _ =>
    let letter := String.ofList (cs.take 2)
    (names.filter (· == letter)).map fun n => .option n (some (String.ofList (cs.drop 2)))

/-- A line feed may stand at the end of a number. -/
def endsLine (cs : List Char) : Bool :=
  cs == [] || cs == ['\n']

/-- Negative numbers are no options. -/
def isNegativeNumber : List Char → Bool
  | '-' :: rest =>
    let whole := rest.takeWhile Text.isDigit
    match rest.dropWhile Text.isDigit with
    | '.' :: places =>
      !(places.takeWhile Text.isDigit).isEmpty && endsLine (places.dropWhile Text.isDigit)
    | tail => !whole.isEmpty && endsLine tail
  | _ => false

def shapeOf (names : List String) (argument : String) : Shape :=
  let cs := argument.toList
  if cs.head? ≠ some '-' then .plain
  else if names.contains argument then .option argument none
  else if cs.length = 1 then .plain
  else
    let (name, value) := atEquals cs
    if value.isSome && names.contains name then .option name value
    else
      match shortened names cs with
      | [shape] => shape
      | _ :: _ => .ambiguous
      | [] => if isNegativeNumber cs || cs.contains ' ' then .plain else .unknown

def shapes (names : List String) : List String → List (String × Shape)
  | [] => []
  | "--" :: rest => ("--", .dashes) :: rest.map fun a => (a, .plain)
  | a :: rest => (a, shapeOf names a) :: shapes names rest

/-- What a command takes: whether a question, and which options, each with a value. -/
structure Grammar where
  takesQuestion : Bool := false
  wholeOptions : List String := []
  textOptions : List String := []

def Grammar.names (g : Grammar) : List String :=
  helpNames ++ g.wholeOptions ++ g.textOptions

/-- What has been read of the arguments of a command. `surplus` tells that some had no place. -/
structure Found where
  question : Option String := none
  texts : List (String × Option String) := []
  wholes : List (String × Option Int) := []
  surplus : Bool := false

/-- The option for help takes no value, but its letter may be repeated behind it. -/
def readHelp (name : String) : Option String → Refusal
  | none => .help
  | some letters =>
    if name == "-h" && !letters.isEmpty && letters.toList.all (· == 'h') then .help else .usage

def Grammar.keep (g : Grammar) (found : Found) (name value : String) : Except Refusal Found :=
  if g.wholeOptions.contains name then
    match Settings.readWholeText value with
    | .ok n => .ok { found with wholes := (name, some n) :: found.wholes }
    | .error _ => .error .usage
  else .ok { found with texts := (name, some value) :: found.texts }

/-- The option has been given with its value left blank. -/
def Grammar.keepBlank (g : Grammar) (found : Found) (name : String) : Found :=
  if g.wholeOptions.contains name then { found with wholes := (name, none) :: found.wholes }
  else { found with texts := (name, none) :: found.texts }

def Grammar.readFrom (g : Grammar) (found : Found) :
    List (String × Shape) → Except Refusal Found
  | [] => .ok found
  | (a, .plain) :: rest =>
    if g.takesQuestion && found.question.isNone then
      g.readFrom { found with question := some a } rest
    else g.readFrom { found with surplus := true } rest
  | (_, .dashes) :: rest =>
    g.readFrom { found with surplus := found.surplus || !g.takesQuestion } rest
  | (_, .unknown) :: rest => g.readFrom { found with surplus := true } rest
  | (_, .ambiguous) :: _ => .error .usage
  | (_, .option name value) :: rest =>
    if helpNames.contains name then .error (readHelp name value)
    else
      match value, rest with
      | some "--", rest => g.readFrom (g.keepBlank found name) rest
      | some v, rest => do
        let found ← g.keep found name v
        g.readFrom found rest
      | none, (v, .plain) :: rest => do
        let found ← g.keep found name v
        g.readFrom found rest
      | none, _ => .error .usage

def Grammar.read (g : Grammar) (arguments : List String) : Except Refusal Found :=
  let shaped := shapes g.names arguments
  if shaped.any fun a => a.2 == .ambiguous then .error .usage
  else g.readFrom {} shaped

/-- The command, once its arguments have been read and none is left over. -/
def Found.finish (found : Found) (surplus : Bool) (command : Command) : Except Refusal Command :=
  if found.surplus || surplus then .error .usage else .ok command

def Found.whole (found : Found) (name : String) (default : Int) : Option Int :=
  ((found.wholes.find? (·.1 == name)).map (·.2)).getD (some default)

def Found.text (found : Found) (name default : String) : Option String :=
  ((found.texts.find? (·.1 == name)).map (·.2)).getD (some default)

/-- The command of the given name with its arguments. -/
def readCommand (s : Settings) (surplus : Bool) (name : String) (arguments : List String) :
    Except Refusal Command := do
  match name with
  | "ask" =>
    let found ← Grammar.read { takesQuestion := true } arguments
    match found.question with
    | some question => found.finish surplus (.ask question)
    | none => .error .usage
  | "chat" => (← Grammar.read {} arguments).finish surplus .chat
  | "ingest-docs" => (← Grammar.read {} arguments).finish surplus .ingestDocs
  | "ingest-traces" =>
    let found ← Grammar.read { wholeOptions := ["--limit"], textOptions := ["--lookback"] }
      arguments
    found.finish surplus (.ingestTraces (found.text "--lookback" s.ingestTracesLookback)
      (found.whole "--limit" s.ingestTracesLimit))
  | "serve" =>
    let found ← Grammar.read { wholeOptions := ["--port"], textOptions := ["--host"] } arguments
    found.finish surplus (.serve (found.text "--host" "0.0.0.0") (found.whole "--port" 8084))
  | _ => .error .usage

/-- Reads up to the name of the command; options that stand before it are not known, help apart. -/
def readFrom (s : Settings) (surplus : Bool) : List String → Except Refusal Command
  | [] => .error .usage
  | "--" :: _ => .error .usage
  | a :: rest =>
    match shapeOf helpNames a with
    | .option name value => .error (readHelp name value)
    | .plain => readCommand s surplus a rest
    | _ => readFrom s true rest

def read (s : Settings) (arguments : List String) : Except Refusal Command :=
  readFrom s false arguments

end IncidentTriage.CommandLine
