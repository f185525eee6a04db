import IncidentTriage.Trace.Span
import IncidentTriage.Calendar

/-!
# Reports

The text that tells the story of a trace: a heading, each span with what was kept of it, a note when
the trace is slow and a summary of its errors.
-/

namespace IncidentTriage.Trace
open IncidentTriage.Calendar

def slowTraceMs : Int := 500

/-- The members of a list, each where it first stands. -/
def distinct (names : List String) : List String :=
  names.foldl (fun seen n => if seen.contains n then seen else seen ++ [n]) []

def slowest? : List Span → Option Span
  | [] => none
  | s :: rest => some (rest.foldl (fun best t => if best.duration < t.duration then t else best) s)

def spanHeader (s : Span) : String :=
  s!"[{s.service}] {s.operation}  ({s.durationMs}ms)" ++
    if s.hasError then "  *** ERROR ***" else ""

/-- The error message of a failed span, unless it is empty. -/
def shownError (s : Span) : Option String :=
  if s.hasError then s.errorMessage.filter (!·.isEmpty) else none

def spanLines (s : Span) : List String :=
  [spanHeader s] ++ (s.tags.map fun t => s!"  {t.1}: {t.2}") ++
    ((shownError s).toList.map fun m => s!"  ERROR: {m}") ++
    (s.logs.map fun l => s!"  event: {l}") ++ [""]

def errorLine (s : Span) : String :=
  s!"ERROR in [{s.service}] {s.operation}: " ++ (shownError s).getD "unknown error"

def slowLines (durationMs : Int) (spans : List Span) : List String :=
  if slowTraceMs < durationMs then
    match slowest? spans with
    | some s => ["--- Performance Note ---",
        s!"This trace is SLOW ({durationMs}ms). " ++
          s!"Slowest span: [{s.service}] {s.operation} at {s.durationMs}ms."]
    | none => []
  else []

def errorLines (spans : List Span) : List String :=
  if spans.any (·.hasError) then
    "--- Error Summary ---" :: (spans.filter (·.hasError)).map errorLine
  else []

def headLines (traceId : String) (spans : List Span) (root : Span) (start durationMs : Int) :
    List String :=
  ["=== Distributed Trace ===",
    s!"Trace ID: {traceId}",
    s!"Time: {timeText start}",
    s!"Root Operation: {root.operation} ({root.service})",
    s!"Total Duration: {durationMs}ms",
    s!"Span Count: {spans.length}",
    "Has Errors: " ++ if spans.any (·.hasError) then "YES" else "no",
    "Services Involved: " ++ ", ".intercalate (distinct (spans.map (·.service))),
    "",
    "--- Span Breakdown ---",
    ""]

def reportLines (traceId : String) (spans : List Span) (root : Span) (start durationMs : Int) :
    List String :=
  headLines traceId spans root start durationMs ++ spans.flatMap spanLines ++
    slowLines durationMs spans ++ errorLines spans

def report (traceId : String) (spans : List Span) (root : Span) (start durationMs : Int) :
    String :=
  "\n".intercalate (reportLines traceId spans root start durationMs) ++ "\n"

end IncidentTriage.Trace
