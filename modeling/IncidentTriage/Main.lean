import IncidentTriage.CommandLine.Run
import IncidentTriage.Question.Answer
import IncidentTriage.Backend.Client
import IncidentTriage.Ingestion.Telemetry
import IncidentTriage.Ingestion.Library

/-!
# The program

The command line over an index in memory. The trace backend and the language model are not within
reach of the program by itself: requests to them fail, and are answered as such failures are. The
settings come from the environment, the documentation from its directory, the questions of a chat
from standard input, and the journal goes to standard error.
-/

namespace IncidentTriage.Program
open IncidentTriage.CommandLine

/-- What is written while a command runs, newest first. -/
structure Desk where
  index : Index.Memory := []
  written : List String := []
  complaints : List String := []

abbrev World := Breaker × Ingestion.Known × Desk

def onDesk (act : Act Desk Unit) : Act World Unit :=
  Act.outside (Act.outside act)

def index : Index Desk :=
  Index.inMemory (·.index) fun index d => { d with index }

def unreachable {ω α : Type} : Act ω α :=
  Act.fail .connect "All connection attempts failed"

def backend {ω : Type} : Backend.Surroundings ω where
  send _ := unreachable
  pause _ := return
  pauseBatch _ := return

def splitters (s : Settings) : Except Chunk.WindowError Ingestion.Splitters := do
  let prose ← Chunk.Window.make s.docChunkTokens s.docChunkOverlap
  let narrative ← Chunk.Window.make s.traceChunkTokens s.traceChunkOverlap
  return ⟨⟨prose, .word⟩, ⟨narrative, .word⟩⟩

/-- The chunks of an index without embeddings are never found. -/
def search (_ : String) (_ : Retrieval) : Act World (List Document) :=
  return []

def fetch (s : Settings) (lookback : String) (limit : Int) :
    Act (Ingestion.Known × Desk) (List Value) :=
  match Backend.Client.ofSettings? s with
  | some client => do
    let traces ← client.listAllTraces backend lookback limit
    return traces.map (ValueOf.mapText Text.Wide.shown)
  | none => Act.fail .value RetryPolicy.attemptsMessage

def assistant (s : Settings) (sp : Ingestion.Splitters) (shelf : Ingestion.Shelf) :
    Assistant World where
  prepare := return
  ask question :=
    let clock := fun _ : Ingestion.Known × Desk => 0.0
    Question.ask s.askTimeout question
      (Question.answer s.knownServices search
        (Question.generate clock fun _ => unreachable) question)
  docs := Act.outside (Act.outside do
    return .int (← Ingestion.ingestDocuments shelf index sp))
  traces lookback limit := Act.outside do
    return .int (← Ingestion.ingestTraces (fetch s) index sp (shownOption lookback) limit)
  serve host port :=
    let place := shownOption host ++ ":" ++ shownOption (port.map toString)
    onDesk (Act.modifyWorld fun d =>
      { d with complaints := s!"Cannot listen on {place}\n" :: d.complaints })
  shutdown := return
  write text := onDesk (Act.modifyWorld fun d => { d with written := text :: d.written })
  complain text := onDesk (Act.modifyWorld fun d => { d with complaints := text :: d.complaints })

def breaker (s : Settings) : Except Breaker.WindowError Breaker := do
  let config : Breaker.Config := {
    name := "llm-chat"
    minimumCalls := s.breakerMinimumCalls
    failureRate := s.breakerFailureRate
    slowSeconds := s.breakerSlowCallSeconds
    slowRate := s.breakerSlowCallRate
    openSeconds := s.breakerOpenSeconds
    halfOpenCalls := s.breakerHalfOpenCalls }
  return { config := ← config.withWindow s.breakerWindowSize }

/-- The act's end, once what it wrote has been printed. -/
def perform {α : Type} (world : World) (act : Act World α) : IO (Except Fault α × World) := do
  let (result, scene) := act.perform ⟨[], world⟩
  let output ← IO.getStdout
  for entry in scene.journal do
    if entry.level ≠ .debug then IO.eprintln entry.line.shown
  let (breaker, known, desk) := scene.world
  for text in desk.complaints.reverse do IO.eprint text
  for text in desk.written.reverse do output.putStr text
  output.flush
  return (result, breaker, known, { desk with written := [], complaints := [] })

partial def chatLoop (a : Assistant World) (world : World) : IO (Except Fault Int) := do
  let output ← IO.getStdout
  output.putStr linePrompt
  output.flush
  let line ← (← IO.getStdin).getLine
  if line.isEmpty then
    output.putStr "\nBye!\n"
    return .ok 0
  match ← perform world (answerLine a line) with
  | (.ok true, world) => chatLoop a world
  | (.ok false, _) => return .ok 0
  | (.error f, _) => return .error f

def execute (a : Assistant World) (world : World) (command : Command) : IO (Except Fault Int) := do
  match command with
  | .chat =>
    IO.print greeting
    chatLoop a world
  | other => return (← perform world (run a [] other)).1

/-- The documentation directory with all that is in it. -/
def readShelf (path : String) : IO Ingestion.Shelf := do
  let directory := (← IO.currentDir) / path
  if !(← directory.isDir) then return ⟨path, none⟩
  let files ← (← directory.readDir).toList.mapM fun entry => do
    if ← entry.path.isDir then return ⟨entry.fileName, .directory⟩
    else return ⟨entry.fileName, .bytes (← IO.FS.readBinFile entry.path).toList⟩
  return ⟨path, some files⟩

def readSettings : IO (Except Settings.Error Settings) := do
  let found ← Settings.default.entries.mapM fun e => do return (e.1, ← IO.getEnv e.1)
  return Settings.load fun name => ((found.find? (·.1 == name)).bind (·.2))

def failWith (text : String) : IO UInt32 := do
  IO.eprintln text
  return 1

def start (s : Settings) (arguments : List String) : IO UInt32 := do
  match read s arguments with
  | .error refusal => return UInt32.ofNat refusal.exitCode.toNat
  | .ok command =>
    match splitters s, breaker s with
    | .error e, _ => failWith e.message
    | _, .error e => failWith e.toFault.tagged
    | .ok sp, .ok b =>
      let a := assistant s sp (← readShelf s.docsDir)
      match ← execute a (b, [], {}) command with
      | .ok code => return UInt32.ofNat code.toNat
      | .error f => failWith f.tagged

end IncidentTriage.Program

def main (arguments : List String) : IO UInt32 := do
  match ← IncidentTriage.Program.readSettings with
  | .ok s => IncidentTriage.Program.start s arguments
  | .error e => IncidentTriage.Program.failWith e.message
