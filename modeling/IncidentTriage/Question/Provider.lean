import IncidentTriage.Act
import IncidentTriage.Settings
import IncidentTriage.Value.Text

/-!
# Providers of language models

A model is asked through one of two providers. Their requests carry the prompt as the message of a
user; one replies with choices, of which the first counts, the other with blocks, of which those
that hold text are joined. A reply without text is refused, and the blanks around it are dropped.
-/

namespace IncidentTriage
open IncidentTriage.Text

inductive Provider
  | openrouter
  | anthropic
  deriving DecidableEq, Repr

namespace Provider

def author : String := "llm"

def key : Provider → String
  | .openrouter => "openrouter"
  | .anthropic => "anthropic"

def all : List Provider := [.anthropic, .openrouter]

/-- The provider of a name, in any case of its letters. -/
def ofName? (name : String) : Option Provider :=
  all.find? fun p => p.key == lowercase name

def unknownMessage (name : String) : String :=
  "Unknown LLM provider: " ++ quoted name ++ " (expected one of " ++
    (ValueOf.list (all.map fun p => .text p.key)).literal ++ ")"

/-- What a connection to the provider is made with. Retries are left to the circuit breaker. -/
def connection (s : Settings) : Provider → Fields
  | .openrouter => [("api_key", .text s.openrouterApiKey), ("base_url", .text s.openrouterBaseUrl),
      ("timeout", .float s.llmTimeout), ("max_retries", .int 0)]
  | .anthropic => [("api_key", .text s.anthropicApiKey), ("timeout", .float s.llmTimeout),
      ("max_retries", .int 0)]

def defaultModel (s : Settings) : Provider → String
  | .openrouter => s.llmModel
  | .anthropic => s.anthropicModel

/-- A provider with the model to ask and the longest reply to accept. -/
structure Model where
  provider : Provider
  model : String
  maxTokens : Int

def model (s : Settings) (p : Provider) : Model :=
  ⟨p, p.defaultModel s, s.llmMaxTokens⟩

def request (m : Model) (prompt : String) : Fields :=
  [("model", .text m.model),
    ("messages", .list [.object [("role", .text "user"), ("content", .text prompt)]]),
    ("max_tokens", .int m.maxTokens)]

/-- What a provider replies: the contents of the choices, or the blocks. -/
inductive Reply
  | choices (contents : List Value)
  | blocks (blocks : List Value)

inductive ReplyError
  | noChoice
  | empty
  | notText (kind : String)
  | blockNotText (position : Nat) (kind : String)
  deriving DecidableEq, Repr

namespace ReplyError

def message : ReplyError → String
  | .noChoice => "list index out of range"
  | .empty => "LLM returned an empty response"
  | .notText kind => s!"'{kind}' object has no attribute 'strip'"
  | .blockNotText position kind =>
    s!"sequence item {position}: expected str instance, {kind} found"

def kind : ReplyError → Fault.Kind
  | .noChoice => .index
  | .empty => .value
  | .notText _ => .missingAttribute
  | .blockNotText _ _ => .type

end ReplyError

/-- The texts of the blocks that have one, in order. -/
def blockTexts (blocks : List Value) : List Value :=
  blocks.filterMap fun
    | .object fields => Fields.get? fields "text"
    | _ => none

/-- The texts side by side. `position` counts those before them. -/
def joinTexts : Nat → List Value → Except ReplyError String
  | _, [] => .ok ""
  | position, .text s :: rest => (joinTexts (position + 1) rest).map (s ++ ·)
  | position, v :: _ => .error (.blockNotText position v.kindName)

def Reply.text : Reply → Except ReplyError String
  | .choices [] => .error .noChoice
  | .choices (.text s :: _) => if s.isEmpty then .error .empty else .ok (trimmed s)
  | .choices (v :: _) => if v.isPresent then .error (.notText v.kindName) else .error .empty
  | .blocks parts =>
    match joinTexts 0 (blockTexts parts) with
    | .error e => .error e
    | .ok s => if s.isEmpty then .error .empty else .ok (trimmed s)

variable {ω : Type}

def generate (m : Model) (send : Fields → Act ω Reply) (prompt : String) : Act ω String := do
  let reply ← send (request m prompt)
  Act.ofOutcome (reply.text.mapError fun e => ⟨e.kind, e.message⟩)

def choose (name : String) : Act ω Provider := do
  match ofName? name with
  | none => Act.fail .value (unknownMessage name)
  | some p =>
    Act.note .info author s!"Using LLM provider {name}"
    return p

end Provider

end IncidentTriage
