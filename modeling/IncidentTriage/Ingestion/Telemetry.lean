import IncidentTriage.Ingestion.Known
import IncidentTriage.Ingestion.Knowledge
import IncidentTriage.Trace.Narrative

/-!
# Taking traces in

The traces of a poll are turned into narratives, and those that are new are added to the index.
Narratives without an identifier of their own are added each time. A trace that cannot be read is
logged and left out. When the index refuses the batch, the traces that the poll had claimed are
released, so that the next poll tries them again.
-/

namespace IncidentTriage.Ingestion
open IncidentTriage.Trace

/-- The identifier that stands for none. -/
def unknownId : String := "unknown"

/-- What a poll has gathered. -/
structure Gathered where
  documents : List Document := []
  claimed : List String := []
  skipped : Nat := 0

namespace Gathered

def addNarrative (g : Gathered) (n : Narrative) : Gathered :=
  { g with documents := g.documents ++ [{ text := n.text, metadata := n.metadata }] }

def addClaim (g : Gathered) (id : String) : Gathered :=
  { g with claimed := g.claimed ++ [id] }

def addSkip (g : Gathered) : Gathered :=
  { g with skipped := g.skipped + 1 }

end Gathered

/-- The identifier under which a trace that cannot be read is logged. -/
def shownId : Value → String
  | .object fields => ((Fields.get? fields "traceID").getD (.text "?")).display
  | _ => "?"

variable {ω : Type}

/-- A narrative of the poll is skipped if its trace is known, and gathered otherwise. -/
def gatherNarrative (index : Index ω) (g : Gathered) (n : Narrative) :
    Act (Known × ω) Gathered := do
  if n.traceId = unknownId then return g.addNarrative n
  if ← Known.claim n.traceId then
    Known.prepareReplacement index n.traceId
    return (g.addClaim n.traceId).addNarrative n
  else return g.addSkip

def gatherTrace (index : Index ω) (g : Gathered) (trace : Value) : Act (Known × ω) Gathered :=
  match Narrative.ofTrace trace with
  | .error e => do
    Act.note .error author
      s!"Failed to convert trace {shownId trace} to narrative: {e.toFault.tagged}"
    return g
  | .ok none => return g
  | .ok (some n) => gatherNarrative index g n

def gather (index : Index ω) : Gathered → List Value → Act (Known × ω) Gathered
  | g, [] => return g
  | g, trace :: rest => do
    let g ← gatherTrace index g trace
    gather index g rest

def releaseAll : List String → Act (Known × ω) Unit
  | [] => return
  | id :: rest => do
    Known.releaseNow id
    releaseAll rest

/-- Writes what a poll has gathered; the claims are released when that fails. -/
def write (index : Index ω) (splitters : Splitters) (g : Gathered) : Act (Known × ω) Nat := do
  Act.note .info author
    s!"Converted {g.documents.length} traces into narratives, starting embedding..."
  let count ← (Act.outside (ingest index splitters g.documents)).rescue fun f => do
    releaseAll g.claimed
    throw f
  Act.note .info author s!"Successfully ingested {count} trace documents"
  return count

/-- Takes in the traces that a poll has fetched; the count of those added. -/
def ingestFetched (index : Index ω) (splitters : Splitters) (traces : List Value) :
    Act (Known × ω) Nat := do
  if traces.isEmpty then
    Act.note .warning author "No traces found in Jaeger"
    return 0
  let g ← gather index {} traces
  if g.skipped ≠ 0 then
    Act.note .info author s!"Skipped {g.skipped} duplicate traces (already embedded)"
  if g.documents.isEmpty then
    Act.note .warning author "No documents generated from traces"
    return 0
  write index splitters g

def ingestTraces (fetch : String → Int → Act (Known × ω) (List Value)) (index : Index ω)
    (splitters : Splitters) (lookback : String) (limit : Int) : Act (Known × ω) Nat := do
  Act.note .info author s!"Starting telemetry ingestion (lookback: {lookback}, limit: {limit})"
  let traces ← fetch lookback limit
  ingestFetched index splitters traces

end IncidentTriage.Ingestion
