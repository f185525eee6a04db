import IncidentTriage.Question.Intent
import IncidentTriage.Document

/-!
# Prompts

The context of a question is the text of the chunks that were found, each under a heading that names
its trace or its file. The prompt asks for an answer from that context alone. When there is no
answer, the context itself is shown.
-/

namespace IncidentTriage.Question

/-- The heading that tells where a chunk comes from. -/
def heading (d : Document) : String :=
  if d.hasType "telemetry" then
    "[TRACE|service=" ++ d.shown "rootService" ++ "|traceId=" ++ d.shown "traceId" ++ "]\n"
  else if d.hasType "documentation" then "[DOC|source=" ++ d.shown "source" ++ "]\n"
  else ""

def annotate (d : Document) : String :=
  heading d ++ d.text

def context (docs : List Document) : String :=
  "\n\n---\n\n".intercalate (docs.map annotate)

def focus : Option String → String
  | none => ""
  | some service => if service.isEmpty then "" else "SERVICE FOCUS: " ++ service

def prompt (services : List String) (q : Classified) (context question : String) : String :=
  "\n".intercalate
    ["You are an incident triage assistant for a distributed microservices system (" ++
        ", ".intercalate services ++ ").",
      "",
      "QUERY TYPE: " ++ q.intent.name,
      focus q.service,
      "",
      "INSTRUCTIONS:",
      "- Answer ONLY based on the provided context below.",
      "- When referencing traces, ALWAYS cite the trace ID (e.g., \"Trace abc123 shows...\").",
      "- When referencing documentation, cite the source file name.",
      "- For error analysis: identify root cause, affected services, and error propagation path.",
      "- For performance analysis: identify the slowest spans and bottleneck services with " ++
        "durations.",
      "- If the context is insufficient, say so explicitly rather than speculating.",
      "- Be precise and concise. Use bullet points for multi-part answers.",
      "",
      "CONTEXT:",
      context,
      "",
      "QUESTION: " ++ question,
      "",
      "ANSWER:"]

def fallbackAnswer (context : String) : String :=
  "The AI assistant is temporarily unavailable, but I found relevant context from the knowledge " ++
    "base:\n\n" ++ context ++ "\n\nPlease try again shortly for a summarized answer."

end IncidentTriage.Question
