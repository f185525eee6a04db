import IncidentTriage.Act
import IncidentTriage.Decimal.Fixed
import IncidentTriage.Decimal.Binary
import IncidentTriage.Settings
import IncidentTriage.Value.Text

/-!
# The schedule of ingestions

Documentation and traces are taken in when the system starts, and traces again at every tick of a
poll until the schedule is stopped. Of each kind at most one ingestion is under way at a time: one
that is asked for meanwhile is skipped.
-/

namespace IncidentTriage

namespace Scheduler
open IncidentTriage.Decimal

inductive Kind
  | docs
  | traces
  deriving DecidableEq, Repr

def Kind.name : Kind → String
  | .docs => "docs"
  | .traces => "traces"

def Kind.ofName? (s : String) : Option Kind :=
  [Kind.docs, .traces].find? fun k => k.name == s

structure Config where
  pollingEnabled : Bool := true
  interval : Float := 300.0
  initialDelay : Float := 60.0
  lookback : String := "10m"
  limit : Int := 20
  startupDocs : Bool := true
  startupTraces : Bool := true
  startupDelay : Float := 5.0
  startupLookback : String := "1h"
  startupLimit : Int := 50

def Config.ofSettings (s : Settings) : Config where
  pollingEnabled := s.tracePollingEnabled
  interval := s.tracePollingInterval
  initialDelay := s.tracePollingInitialDelay
  lookback := s.tracePollingLookback
  limit := s.tracePollingLimit
  startupDocs := s.startupIngestDocs
  startupTraces := s.startupIngestTraces
  startupDelay := s.startupTracesDelay
  startupLookback := s.startupTracesLookback
  startupLimit := s.startupTracesLimit

/-- Which ingestions are under way, whether the schedule has been told to stop, and the names of its
threads. -/
structure Status where
  running : List Kind := []
  stopping : Bool := false
  threads : List String := []

variable {ω : Type}

/-- The ingestions of the system. Each answers with what it took in, as a rule a count, or with
null. -/
structure Services (ω : Type) where
  docs : Act (Status × ω) Value
  traces : String → Int → Act (Status × ω) Value
  pause : Float → Act (Status × ω) Unit
  /-- Whether the log raises the fault of a line that cannot be written, or drops the line. -/
  strictLog : Bool := true

def author : String := "scheduler"

def isRunning (kind : Kind) : Act (Status × ω) Bool := do
  return (← Act.own).running.contains kind

def begin (kind : Kind) : Act (Status × ω) Unit :=
  Act.modifyOwn fun s => { s with running := kind :: s.running }

def finish (kind : Kind) : Act (Status × ω) Unit :=
  Act.modifyOwn fun s => { s with running := s.running.filter (· ≠ kind) }

/-- The ingestion, unless one of its kind is under way. However it ends, it is no longer under way
afterwards. -/
def runExclusive (kind : Kind) (ingestion : Act (Status × ω) Value) :
    Act (Status × ω) Value := do
  if ← isRunning kind then
    Act.note .warning author s!"{kind.name} ingestion already in progress, skipping"
    return .null
  begin kind
  let result ← ingestion.outcome
  finish kind
  Act.ofOutcome result

def runDocs (services : Services ω) : Act (Status × ω) Value :=
  runExclusive .docs services.docs

def runTraces (services : Services ω) (lookback : String) (limit : Int) :
    Act (Status × ω) Value :=
  runExclusive .traces (services.traces lookback limit)

def countText : Value → Except Fault String
  | .int n => .ok (toString n)
  | .bool b => .ok (if b then "1" else "0")
  | .float x =>
    match wholePart? x with
    | some n => .ok (toString n)
    | none =>
      if x.isNaN then .error ⟨.value, "cannot convert float NaN to integer"⟩
      else .error ⟨.overflow, "cannot convert float infinity to integer"⟩
  | other => .error ⟨.type, s!"%d format: a real number is required, not {other.kindName}"⟩

/-- The longest time that can be waited for, in seconds. -/
def longestWait : Float := 9223372036.854775

def isStopping : Act (Status × ω) Bool := do
  return (← Act.own).stopping

/-- Waits, unless the schedule is stopping; whether it is stopping afterwards. -/
def stoppedAfter (services : Services ω) (seconds : Float) : Act (Status × ω) Bool := do
  if ← isStopping then return true
  if longestWait < seconds then Act.fail .overflow "timeout value is too large"
  services.pause seconds
  isStopping

def startupDocs (services : Services ω) : Act (Status × ω) Unit :=
  Act.rescue (do
    Act.note .info author "Auto-ingesting project documentation on startup..."
    let count ← runDocs services
    Act.note .info author s!"Startup: ingested {count.display} documents")
    fun f => Act.note .warning author s!"Startup doc ingestion failed (non-fatal): {f.text}"

def startupTraces (c : Config) (services : Services ω) : Act (Status × ω) Unit :=
  Act.rescue (do
    Act.note .info author
      (s!"Auto-ingesting traces from Jaeger (lookback: {c.startupLookback}, " ++
        s!"limit: {c.startupLimit})...")
    let count ← runTraces services c.startupLookback c.startupLimit
    Act.note .info author s!"Startup: ingested {count.display} traces")
    fun f => Act.note .warning author
      (s!"Startup trace ingestion failed (non-fatal): {f.text}. " ++
        "Jaeger may not be running. Use POST /ingest/traces to retry.")

def startup (c : Config) (services : Services ω) : Act (Status × ω) Unit := do
  if c.startupDocs then startupDocs services
  if c.startupTraces then
    if !(← stoppedAfter services c.startupDelay) then startupTraces c services

/-- Writes how many traces a poll took in. -/
def noteTaken (c : Config) (services : Services ω) (count : Value) : Act (Status × ω) Unit :=
  match countText count with
  | .ok taken =>
    Act.note .info author
      s!"Scheduled trace poll: ingested {taken} new traces (lookback: {c.lookback})"
  | .error f => if services.strictLog then throw f else return

/-- One poll. A fault of the ingestion is logged and counts as null. -/
def tick (c : Config) (services : Services ω) : Act (Status × ω) Value := do
  let count ← Act.rescue (runTraces services c.lookback c.limit) fun f => do
    Act.note .error author s!"Scheduled trace poll failed: {f.tagged}"
    return .null
  if count.isPresent then noteTaken c services count
  return count

/-- At most `ticks` polls, one after each wait, until the schedule is stopping. -/
def pollFrom (c : Config) (services : Services ω) : Nat → Act (Status × ω) Unit
  | 0 => return
  | ticks + 1 => do
    if ← isStopping then return
    let _ ← tick c services
    if !(← stoppedAfter services c.interval) then pollFrom c services ticks

def poll (c : Config) (services : Services ω) (ticks : Nat) : Act (Status × ω) Unit := do
  if !(← stoppedAfter services c.initialDelay) then pollFrom c services ticks

/-- What a thread does; a fault that escapes ends it and nothing else. -/
def inThread (body : Act (Status × ω) Unit) : Act (Status × ω) Unit := do
  let _ ← body.outcome

def threadNames (c : Config) : List String :=
  "ingest-startup" :: if c.pollingEnabled then ["ingest-poll"] else []

/-- Starts the threads, unless they have been started; the one that polls does so at most `ticks`
times. -/
def start (c : Config) (services : Services ω) (ticks : Nat) : Act (Status × ω) Unit := do
  let s ← Act.own
  if s.threads.isEmpty then
    Act.setOwn { s with stopping := false, threads := threadNames c }
    if !c.pollingEnabled then Act.note .info author "Scheduled trace polling disabled"
    Act.note .info author
      ("Ingestion scheduler started (poll every " ++ fixedText 0 c.interval ++ "s, lookback " ++
        c.lookback ++ ")")
    inThread (startup c services)
    if c.pollingEnabled then inThread (poll c services ticks)

def stop : Act (Status × ω) Unit := do
  Act.modifyOwn fun s => { s with stopping := true, threads := [] }
  Act.note .info author "Ingestion scheduler stopped"

end Scheduler

end IncidentTriage
