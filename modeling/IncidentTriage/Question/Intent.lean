import IncidentTriage.Text.Lowercase
import IncidentTriage.Text.Quoted

/-!
# What a question asks for

A question is told apart by the words in it, in lower case: errors before performance, then a
service by name, then the architecture, and general questions last. A question on the architecture
that names a service stays one on the architecture. The service is the known name that stands first
in the question, and the longest of those that begin there.
-/

namespace IncidentTriage
open IncidentTriage.Text

inductive Intent
  | errorAnalysis
  | performanceAnalysis
  | serviceSpecific
  | architectureDocs
  | general
  deriving DecidableEq, Repr

namespace Intent

def all : List Intent :=
  [.errorAnalysis, .performanceAnalysis, .serviceSpecific, .architectureDocs, .general]

def name : Intent → String
  | .errorAnalysis => "ERROR_ANALYSIS"
  | .performanceAnalysis => "PERFORMANCE_ANALYSIS"
  | .serviceSpecific => "SERVICE_SPECIFIC"
  | .architectureDocs => "ARCHITECTURE_DOCS"
  | .general => "GENERAL"

def ofName? (s : String) : Option Intent :=
  all.find? fun i => i.name == s

def unknownMessage (s : String) : String :=
  s!"{quoted s} is not a valid QueryIntent"

end Intent

structure Classified where
  intent : Intent
  service : Option String
  deriving DecidableEq, Repr

namespace Question

def errorWords : List String :=
  ["error", "fail", "failed", "exception", "500", "4xx", "5xx", "crash", "broken", "bug", "issue",
    "wrong", "problem", "fault"]

def performanceWords : List String :=
  ["slow", "latency", "duration", "timeout", "performance", "p99", "p95", "bottleneck", "fast",
    "speed", "response time"]

def architectureWords : List String :=
  ["architecture", "design", "how does", "how do", "what is", "explain", "documentation", "pattern",
    "strategy", "structure", "why did we", "why do we", "tracing work", "decision"]

/-- `word` stands somewhere in the text. -/
def occurs (word : List Char) : List Char → Bool
  | [] => word.isEmpty
  | c :: rest => word.isPrefixOf (c :: rest) || occurs word rest

def mentions (words : List String) (cs : List Char) : Bool :=
  words.any fun w => occurs w.toList cs

/-- The longer of two names, the first of equally long ones. -/
def longer (a b : List Char) : List Char :=
  if a.length < b.length then b else a

/-- The longest of the names that the text begins with. -/
def nameAtHead? (names : List (List Char)) (cs : List Char) : Option (List Char) :=
  match names.filter fun n => n.isPrefixOf cs with
  | [] => none
  | n :: rest => some (rest.foldl longer n)

/-- The longest name at the first place where a name stands. -/
def firstName? (names : List (List Char)) : List Char → Option (List Char)
  | [] => none
  | c :: rest => (nameAtHead? names (c :: rest)).or (firstName? names rest)

/-- The names to look for: those given that are not empty, in lower case. -/
def wantedNames (services : List String) : List (List Char) :=
  (services.filter fun s => !s.isEmpty).map fun s => lower s.toList

/-- The service that a question in lower case names. -/
def serviceIn? (services : List String) (cs : List Char) : Option String :=
  (firstName? (wantedNames services) cs).map String.ofList

def classify (services : List String) (question : String) : Classified :=
  let cs := lower question.toList
  let service := serviceIn? services cs
  let intent : Intent :=
    if mentions errorWords cs then .errorAnalysis
    else if mentions performanceWords cs then .performanceAnalysis
    else if mentions architectureWords cs then .architectureDocs
    else if service.isSome then .serviceSpecific
    else .general
  ⟨intent, service⟩

end Question

end IncidentTriage
