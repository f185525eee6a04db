import IncidentTriage.Question.Intent
import IncidentTriage.Filter.Basic

/-!
# What is looked up for a question

How many chunks, how close they have to be, and the filter they have to meet, by what the question
asks for. A named service narrows every search but one of the documentation.
-/

namespace IncidentTriage

structure Retrieval where
  topK : Nat
  minScore : Float
  filter : Option String

namespace Retrieval

def topKFor : Intent → Nat
  | .errorAnalysis | .performanceAnalysis => 7
  | .serviceSpecific => 6
  | .architectureDocs | .general => 5

def minScoreFor : Intent → Float
  | .errorAnalysis => 0.40
  | .performanceAnalysis | .serviceSpecific => 0.45
  | .architectureDocs | .general => 0.50

def termsFor : Intent → Filter.Group
  | .errorAnalysis => [⟨"type", "telemetry"⟩, ⟨"hasErrors", "true"⟩]
  | .performanceAnalysis | .serviceSpecific => [⟨"type", "telemetry"⟩]
  | .architectureDocs => [⟨"type", "documentation"⟩]
  | .general => []

def serviceTerms (intent : Intent) : Option String → Filter.Group
  | none => []
  | some service =>
    if service.isEmpty || intent == .architectureDocs then [] else [⟨"rootService", service⟩]

def configure (q : Classified) : Retrieval where
  topK := topKFor q.intent
  minScore := minScoreFor q.intent
  filter :=
    match termsFor q.intent ++ serviceTerms q.intent q.service with
    | [] => none
    | terms => some (Filter.renderGroup terms)

end Retrieval

end IncidentTriage
