import IncidentTriage.Question.Prompt
import IncidentTriage.Question.Retrieval
import IncidentTriage.Breaker.Call

/-!
# Answering questions

A question is classified, chunks are looked up for it, and a language model is asked through a
circuit breaker to answer from them. When the model does not answer, the chunks themselves are
shown; when nothing can be looked up or nothing is found, a fixed message says so.
-/

namespace IncidentTriage.Question
open IncidentTriage.Text IncidentTriage.Decimal

variable {ω : Type}

def answerAuthor : String := "answer"
def queryAuthor : String := "query"

/-- The model's reply to the prompt, or the context when there is none. -/
def generate (clock : ω → Float) (model : String → Act (Breaker × ω) Value)
    (prompt context : String) : Act (Breaker × ω) Value := do
  let name := (← Act.own).config.name
  let attempt : Act (Breaker × ω) Value := do
    let state ← Breaker.readState clock
    Act.note .info answerAuthor
      s!"Calling LLM (circuit breaker: {name}, state: {state.name})..."
    let reply ← Breaker.call clock (model prompt)
    Act.note .info answerAuthor "LLM responded successfully"
    return reply
  attempt.rescue fun f => do
    if f.kind.isA .circuitOpen then
      Act.note .warning answerAuthor
        s!"Circuit breaker OPEN for {name}, rejecting call instantly"
    else
      Act.record [⟨.error, answerAuthor, "LLM call failed " ++ s!"[{f.kind.name}]: {f.text}", true⟩]
    return .text (fallbackAnswer context)

def knowledgeBaseUnavailable : String :=
  "The knowledge base is temporarily unavailable. Please try again in a few moments."

def insufficientContext : String :=
  "Insufficient context to answer that question. " ++
    "Try ingesting documents first via POST /ingest or wait for auto-ingestion."

def assistantUnavailable : String :=
  "The assistant is temporarily unavailable. Please try again in a few moments."

abbrev Search (ω : Type) := String → Retrieval → Act ω (List Document)

abbrev Generate (ω : Type) := String → String → Act ω Value

/-- The line that tells of a chunk that was found. -/
def chunkLine (d : Document) : String :=
  let id := if d.hasType "telemetry" then d.shown "traceId" else d.shown "source"
  "  Chunk: type=" ++ d.shown "type" ++ ", id=" ++ id ++ ", score=" ++ d.score.display

/-- The chunks for a question; none at all when they cannot be looked up. -/
def lookUp (search : Search ω) (question : String) (spec : Retrieval) :
    Act ω (Option (List Document)) :=
  Act.rescue (some <$> search question spec) fun f => do
    Act.note .error queryAuthor
      s!"Failed to retrieve context (embedding/ClickHouse may be down): {f.tagged}"
    return none

def answer (services : List String) (search : Search ω) (generate : Generate ω)
    (question : String) : Act ω Value := do
  Act.note .info queryAuthor s!"Received question: {question}"
  let q := classify services question
  let service := q.service.getD "None"
  Act.note .info queryAuthor s!"Query classified as {q.intent.name} (service: {service})"
  match ← lookUp search question (Retrieval.configure q) with
  | none => return .text knowledgeBaseUnavailable
  | some docs =>
    Act.note .info queryAuthor s!"Retrieved {docs.length} relevant chunks"
    Act.record (docs.map fun d => { level := .debug, author := queryAuthor, text := chunkLine d })
    if docs.isEmpty then return .text insufficientContext
    else generate (prompt services q (context docs) question) (context docs)

/-- An answer within `timeout` seconds. A fault that escapes is answered by a fixed message, and so
is an answer that is overdue; the two are told apart in the journal alone. -/
def ask (timeout : Float) (question : String) (answer : Act ω Value) : Act ω Value :=
  tryCatch answer fun f => do
    if f.kind == .overdue || f.kind == .timeout then
      Act.note .error queryAuthor
        ("Answering timed out after " ++ fixedText 1 timeout ++ "s: " ++ quoted question)
      return .text assistantUnavailable
    else if f.isCatchable then
      Act.record [⟨.error, queryAuthor, "Unexpected failure while answering " ++ quoted question,
        true⟩]
      return .text assistantUnavailable
    else throw f

end IncidentTriage.Question
