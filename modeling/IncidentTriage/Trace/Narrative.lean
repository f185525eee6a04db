import IncidentTriage.Trace.Report

/-!
# Narratives

A narrative is what is kept of one raw trace: its spans in the order of their start, the figures
drawn from them, the report, and the metadata under which the report is stored and found again. A
trace without spans has none.
-/

namespace IncidentTriage
open IncidentTriage.Trace

structure Narrative where
  traceId : String
  rootService : String
  rootOperation : String
  start : Int
  durationMs : Int
  hasErrors : Bool
  spans : List Span
  text : String

namespace Narrative

def spanCount (n : Narrative) : Nat :=
  n.spans.length

def metadata (n : Narrative) : Fields :=
  [("source", .text "jaeger-trace"),
    ("traceId", .text n.traceId),
    ("rootService", .text n.rootService),
    ("rootOperation", .text n.rootOperation),
    ("durationMs", .int n.durationMs),
    ("spanCount", .int n.spanCount),
    ("hasErrors", .text (if n.hasErrors then "true" else "false")),
    ("type", .text "telemetry")]

def earliest (first : Span) (rest : List Span) : Int :=
  rest.foldl (fun t s => min t s.start) first.start

def latest (first : Span) (rest : List Span) : Int :=
  rest.foldl (fun t s => max t s.finish) first.finish

def ofSpans? (traceId : String) : List Span → Option Narrative
  | [] => none
  | first :: rest =>
    let spans := first :: rest
    let root := (Span.root? spans).getD first
    let start := earliest first rest
    let durationMs := max (latest first rest - start) 0 / 1000
    some {
      traceId
      rootService := root.service
      rootOperation := root.operation
      start
      durationMs
      hasErrors := spans.any (·.hasError)
      spans
      text := report traceId spans root start durationMs }

/-- Spans in the order of their start, those that start together as they stood. -/
def inOrder (spans : List Span) : List Span :=
  spans.mergeSort fun a b => a.start ≤ b.start

/-- The raw spans of a raw trace; none and null are as good as an empty list. -/
def rawSpans : Value → Except Trace.Error (List Value)
  | .null => .ok []
  | .list spans => .ok spans
  | other => .error (.spansKind other.kindName)

def ofTrace : Value → Except Trace.Error (Option Narrative)
  | .object trace => do
    let raw ← rawSpans (Fields.get trace "spans")
    let table := processes (Fields.get trace "processes")
    let spans ← raw.mapM (Span.parse table)
    return ofSpans? (Span.orUnknown (Fields.get trace "traceID").fieldText) (inOrder spans)
  | other => .error (.traceKind other.kindName)

end Narrative

end IncidentTriage
