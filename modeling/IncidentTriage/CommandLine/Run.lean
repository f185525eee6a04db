import IncidentTriage.CommandLine.Arguments
import IncidentTriage.Act
import IncidentTriage.Value.Text
import IncidentTriage.Text.Lowercase

/-!
# Running commands

A command asks the assistant, or triggers an ingestion, and writes what comes of it. However it
ends, the system is shut down afterwards; serving goes its own way. A chat reads questions line by
line until it is told to quit or the lines end.
-/

namespace IncidentTriage.CommandLine
open IncidentTriage.Text

/-- What a command asks of the system and of the terminal. Options that were left blank are passed
on as none. -/
structure Assistant (ω : Type) where
  prepare : Act ω Unit
  ask : String → Act ω Value
  docs : Act ω Value
  traces : Option String → Int → Act ω Value
  serve : Option String → Option Int → Act ω Unit
  shutdown : Act ω Unit
  write : String → Act ω Unit
  complain : String → Act ω Unit

variable {ω : Type}

def greeting : String :=
  "Trace RAG assistant\nType your question, or 'quit' to exit.\n\n"

def linePrompt : String := "you> "

def quitWords : List String := ["quit", "exit", "q"]

/-- What a line of a chat asks for. -/
inductive Turn
  | pass
  | quit
  | ask (question : String)
  deriving DecidableEq, Repr

def Turn.ofLine (line : String) : Turn :=
  let question := trimmed line
  if question.isEmpty then .pass
  else if quitWords.contains (lowercase question) then .quit
  else .ask question

/-- Answers a line; whether the chat goes on. -/
def answerLine (a : Assistant ω) (line : String) : Act ω Bool :=
  match Turn.ofLine line with
  | .pass => return true
  | .quit => do
    a.write "Bye!\n"
    return false
  | .ask question => do
    let answer ← a.ask question
    a.write ("\n" ++ answer.display ++ "\n\n")
    return true

def chat (a : Assistant ω) : List String → Act ω Unit
  | [] => a.write (linePrompt ++ "\nBye!\n")
  | line :: rest => do
    a.write linePrompt
    if ← answerLine a line then chat a rest

/-- The act, and the shutdown after it, however the act ends. -/
def thenShutdown (a : Assistant ω) (act : Act ω Int) : Act ω Int := do
  let result ← act.outcome
  a.shutdown
  Act.ofOutcome result

/-- How the value of an option is shown; a blank one as an empty list. -/
def shownOption : Option String → String
  | some value => value
  | none => ValueOf.display (.list [])

def blankLimitMessage : String := "'<=' not supported between instances of 'list' and 'int'"

def run (a : Assistant ω) (lines : List String) : Command → Act ω Int
  | .serve host port => do
    a.serve host port
    return 0
  | .ask question => thenShutdown a do
    a.prepare
    let answer ← a.ask question
    a.write (answer.display ++ "\n")
    return 0
  | .chat => thenShutdown a do
    a.prepare
    a.write greeting
    chat a lines
    return 0
  | .ingestDocs => thenShutdown a do
    let count ← a.docs
    a.write ("Ingested " ++ count.display ++ " documents\n")
    return 0
  | .ingestTraces _ none => thenShutdown a (Act.fail .type blankLimitMessage)
  | .ingestTraces lookback (some limit) => thenShutdown a do
    if limit ≤ 0 then
      a.complain "Error: --limit must be positive\n"
      return 2
    let count ← a.traces lookback limit
    a.write ("Ingested " ++ count.display ++ " traces (lookback: " ++ shownOption lookback ++
      ", limit: " ++ toString limit ++ ")\n")
    return 0

end IncidentTriage.CommandLine
