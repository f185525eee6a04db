import IncidentTriage.Value.Text
import IncidentTriage.Value.Number
import IncidentTriage.Text.Lowercase
import IncidentTriage.Fault

/-!
# Spans

A span is one timed operation of a service. It is read from a raw value with a process table that
names the services. Of its tags only the interesting ones are kept; an error is flagged by a tag or
by an error message in a log entry. What is missing or malformed in a field has a stand-in, and only
a raw span that is no object is refused, or one whose logs are a number or a truth value.
-/

namespace IncidentTriage
open IncidentTriage.Text

namespace Trace

inductive Error
  | spanKind (kind : String)
  | traceKind (kind : String)
  | spansKind (kind : String)
  | logsKind (kind : String)
  | noSpans
  deriving DecidableEq, Repr

namespace Error

def message : Error → String
  | .spanKind kind => s!"span is {kind}, expected an object"
  | .traceKind kind => s!"trace is {kind}, expected an object"
  | .spansKind kind => s!"'spans' is {kind}, expected a list"
  | .logsKind kind => s!"'{kind}' object is not iterable"
  | .noSpans => "list index out of range"

def kind : Error → Fault.Kind
  | .logsKind _ => .type
  | .noSpans => .index
  | _ => .malformedTrace

def toFault (e : Error) : Fault :=
  ⟨e.kind, e.message⟩

end Error

def interestingKeys : List String :=
  ["error", "error.message", "exception.message", "otel.status_code", "otel.status_description"]

/-- Families of tags that are kept whole. -/
def interestingStems : List String :=
  ["http.", "db.", "net.", "rpc.", "product.", "order.", "payment."]

def isInteresting (key : String) : Bool :=
  interestingKeys.contains key || interestingStems.any fun s => s.toList.isPrefixOf key.toList

def isErrorMessageKey (key : String) : Bool :=
  key == "error.message" || key == "exception.message"

/-- Keys of a log entry whose value is part of its text. -/
def isLogTextKey (key : String) : Bool :=
  key == "message" || key == "event"

/-- The keys and values of a list of attributes; entries that are no objects are passed over. -/
def attributes : Value → List (String × String)
  | .list entries => entries.filterMap fun
    | .object fields =>
      some ((Fields.get fields "key").fieldText, (Fields.get fields "value").fieldText)
    | _ => none
  | _ => []

/-- Names of services by the identifier of their process. -/
abbrev Processes := List (String × String)

/-- The process table of a raw trace: the processes that name their service. -/
def processes : Value → Processes
  | .object fields => fields.filterMap fun
    | (id, .object process) =>
      let name := Fields.get process "serviceName"
      if name.isPresent then some (id, name.fieldText) else none
    | _ => none
  | _ => []

def serviceOf (table : Processes) (id : String) : String :=
  ((table.find? (·.1 = id)).map (·.2)).getD "unknown"

/-- The span that the first reference to a parent names. -/
def parentOf : Value → String
  | .list references =>
    (references.findSome? fun
      | .object fields =>
        match Fields.get fields "refType" with
        | .text "CHILD_OF" => some (Fields.get fields "spanID").fieldText
        | _ => none
      | _ => none).getD ""
  | _ => ""

/-- Tags by key: a key that comes again keeps its place and takes the new value. -/
abbrev Tags := List (String × String)

def Tags.set (tags : Tags) (key value : String) : Tags :=
  if tags.any (·.1 = key) then tags.map fun t => if t.1 = key then (key, value) else t
  else tags ++ [(key, value)]

def flagsError (key value : String) : Bool :=
  key == "error" && lowercase value == "true" || key == "otel.status_code" && value == "ERROR"

/-- What the tags and the logs of a span tell. -/
structure Findings where
  hasError : Bool := false
  errorMessage : Option String := none
  tags : Tags := []
  logs : List String := []

def Findings.addTag (f : Findings) (tag : String × String) : Findings :=
  { f with
    hasError := f.hasError || flagsError tag.1 tag.2
    errorMessage := if isErrorMessageKey tag.1 then some tag.2 else f.errorMessage
    tags := if isInteresting tag.1 then Tags.set f.tags tag.1 tag.2 else f.tags }

/-- What a field of a log entry adds to the entry's text. -/
def logText (field : String × String) : String :=
  if isLogTextKey field.1 then field.2
  else if isErrorMessageKey field.1 then "ERROR: " ++ field.2
  else ""

def Findings.addLogField (f : Findings) (field : String × String) : Findings :=
  if isErrorMessageKey field.1 then { f with hasError := true, errorMessage := some field.2 } else f

/-- A log entry is kept with the texts of its fields joined, unless they are empty. -/
def Findings.addLog (f : Findings) : Value → Findings
  | .object entry =>
    let fields := attributes (Fields.get entry "fields")
    let told := fields.foldl Findings.addLogField f
    let text := String.join (fields.map logText)
    if text.isEmpty then told else { told with logs := told.logs ++ [text] }
  | _ => f

/-- The entries that raw logs hold. A text or an object holds none that counts. -/
def logEntries (logs : Value) : Except Error (List Value) :=
  if logs.isPresent then
    match logs with
    | .list entries => .ok entries
    | .text _ | .object _ => .ok []
    | other => .error (.logsKind other.kindName)
  else .ok []

end Trace

structure Span where
  spanId : String
  parentId : String
  service : String
  operation : String
  start : Int
  duration : Int
  hasError : Bool
  errorMessage : Option String
  tags : Trace.Tags
  logs : List String

namespace Span
open IncidentTriage.Trace

def finish (s : Span) : Int :=
  s.start + s.duration

def durationMs (s : Span) : Int :=
  s.duration / 1000

/-- A span without a parent; an identifier of zeros names none. -/
def isRoot (s : Span) : Bool :=
  s.parentId.toList.all (· == '0')

/-- A text that is empty stands for an unknown name. -/
def orUnknown (s : String) : String :=
  if s.isEmpty then "unknown" else s

def parse (table : Processes) : Value → Except Error Span
  | .object raw => do
    let tagged := (attributes (Fields.get raw "tags")).foldl Findings.addTag {}
    let entries ← logEntries (Fields.get raw "logs")
    let found := entries.foldl Findings.addLog tagged
    return {
      spanId := (Fields.get raw "spanID").fieldText
      parentId := parentOf (Fields.get raw "references")
      service := serviceOf table (Fields.get raw "processID").fieldText
      operation := orUnknown (Fields.get raw "operationName").fieldText
      start := (Fields.get raw "startTime").toWhole
      duration := max (Fields.get raw "duration").toWhole 0
      hasError := found.hasError
      errorMessage := found.errorMessage
      tags := found.tags
      logs := found.logs }
  | other => .error (.spanKind other.kindName)

/-- The first span without a parent, and the first of all when every span has one. -/
def root? (spans : List Span) : Option Span :=
  (spans.find? isRoot).or spans.head?

def root (spans : List Span) : Except Error Span :=
  match root? spans with
  | some s => .ok s
  | none => .error .noSpans

end Span

end IncidentTriage
