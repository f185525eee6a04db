import IncidentTriage.Retry
import IncidentTriage.Settings
import IncidentTriage.Value.Json
import IncidentTriage.Value.Text

/-!
# The trace backend

Traces are fetched over HTTP: a listing of services, and the traces of one service at a time. There
are two tiers of retries. A single request is retried when it fails in transport or the server is
overloaded, and a request that fails for good counts as an empty list. A batch over all services is
retried while the listing is empty, since then the backend is most likely down.

The names of services come from the backend's documents and are wide texts. One that has half a
surrogate pair in it cannot stand in a request, and the transport may refuse the address that another
one gives. How deep a body may nest is up to the stack that it is read on.
-/

namespace IncidentTriage.Backend
open IncidentTriage.Text

structure Request where
  path : String
  query : List (String × String)

namespace Request

def services : Request :=
  ⟨"/api/services", []⟩

/-- The characters that stand for themselves in a query. -/
def isPlain (c : Char) : Bool :=
  c.isAlphanum || ['_', '.', '-', '~'].contains c

/-- The length of a text in a query: a blank becomes a plus sign, and every byte of another
character that does not stand for itself takes three. -/
def writtenLength (s : String) : Nat :=
  s.toList.foldl (fun n c => n + if isPlain c || c == ' ' then 1 else 3 * c.utf8Size) 0

/-- The length of the query: each name and each value, with an equals sign between them, and a
separator between one such pair and the next. -/
def queryLength (r : Request) : Nat :=
  r.query.foldl (fun n q => n + writtenLength q.1 + writtenLength q.2 + 2) 0 - 1

/-- A query of more than so many characters is refused, and why. -/
def overlong (most : Nat) (r : Request) : Option String :=
  if most < r.queryLength then some "URL component 'query' too long" else none

end Request

/-- What the client's surroundings bound, which is for the transport and the stack to say. The laws
of the client hold for any bounds; the defaults are those of one transport and one stack. -/
structure Bounds where
  /-- Why the address that the name of a service goes into is not one, if it is not. -/
  refusal : Request → Option String := Request.overlong 65536
  /-- How deep the lists and objects of a body may nest. -/
  nestingLimit : Nat := 982

/-- The request for the traces of a service, unless the name of the service cannot stand in one. -/
def Request.traces (bounds : Bounds) (service : Wide) (lookback : String) (limit : Int) :
    Except Fault Request :=
  match service.plain? with
  | none => .error ⟨.unicodeEncode, ""⟩
  | some name =>
    let r : Request :=
      ⟨"/api/traces", [("service", name), ("lookback", lookback), ("limit", toString limit)]⟩
    match bounds.refusal r with
    | some reason => .error ⟨.invalidUrl, reason⟩
    | none => .ok r

structure Reply where
  status : Nat
  body : List UInt8

/-- What the client asks of its surroundings. -/
structure Surroundings (ω : Type) extends Bounds where
  send : Request → Act ω Reply
  pause : Float → Act ω Unit
  pauseBatch : Float → Act ω Unit

/-- The faults of a request that are worth another try. -/
def retryable : List Fault.Kind :=
  [.transport, .transientStatus]

structure Client where
  internal : List String
  requests : RetryPolicy
  batches : RetryPolicy

namespace Client

/-- The policies of the settings, which are refused when they allow no attempt. -/
def ofSettings? (s : Settings) : Option Client := do
  let requests ← RetryPolicy.withAttempts
    { delay := s.jaegerCallDelay, retryOn := retryable } s.jaegerCallAttempts
  let batches ← RetryPolicy.withAttempts
    { delay := s.jaegerBatchDelay, backoff := s.jaegerBatchBackoff
      retryOn := [.backendUnavailable] }
    s.jaegerBatchAttempts
  return { internal := s.jaegerInternalServices, requests, batches }

def author : String := "jaeger"

def bodyFault : Json.Error → Fault
  | .undecodable => ⟨.unicodeDecode, ""⟩
  | .malformed => ⟨.jsonDecode, ""⟩
  | .tooLong digits => ⟨.value, Decimal.WholeError.tooLongMessage digits⟩
  | .tooDeep container => ⟨.recursion,
      s!"maximum recursion depth exceeded while decoding a JSON {container} from a unicode string"⟩

/-- The list under `data` in the body of a reply; a body without one stands for an empty list. -/
def dataOf (path : String) : Json.Content → Except Fault (List Json.Content)
  | .object fields =>
    match Fields.get fields "data" with
    | .null => .ok []
    | .list data => .ok data
    | other => .error ⟨.value, s!"'data' from {path} is {other.kindName}, expected a list"⟩
  | other => .error ⟨.value, s!"unexpected response body from {path}: {other.kindName}"⟩

/-- The list that a reply brings: only a status of success does, with a body that nests at most so
deep. -/
def readReply (depth : Nat) (path : String) (r : Reply) : Except Fault (List Json.Content) :=
  if r.status = 429 ∨ 500 ≤ r.status then .error ⟨.transientStatus, s!"HTTP {r.status} from {path}"⟩
  else if r.status < 200 ∨ 300 ≤ r.status then .error ⟨.httpStatus, ""⟩
  else
    match Json.readBytes depth r.body with
    | .ok v => dataOf path v
    | .error e => .error (bodyFault e)

variable {ω : Type}

def fetchOnce (around : Surroundings ω) (request : Except Fault Request) :
    Act ω (List Json.Content) := do
  let r ← Act.ofOutcome request
  let reply ← around.send r
  Act.ofOutcome (readReply around.nestingLimit r.path reply)

/-- The kind of a fault, with its text where the fault is about the value of a body. -/
def brief (f : Fault) : String :=
  if f.kind = .value then f.tagged else s!"[{f.kind.name}]"

/-- The list that a request brings, under the policy for requests. Faults of the transport and of
the body end as an empty list. -/
def fetch (c : Client) (around : Surroundings ω) (name : Wide) (r : Except Fault Request) :
    Act ω (List Json.Content) :=
  tryCatch
    (c.requests.call around.pause name (fetchOnce around r) (some fun _ => return []))
    fun f => do
      if f.kind.isA .http || f.kind.isA .value then
        Act.note .error author (name ++ s!" failed without retry: {brief f}")
        return []
      else throw f

def listServices (c : Client) (around : Surroundings ω) : Act ω (List Wide) := do
  let data ← c.fetch around "Jaeger /api/services" (.ok .services)
  let services := (data.filter ValueOf.isPresent).map ValueOf.wideDisplay
  Act.note .info author s!"Found {services.length} services in Jaeger"
  return services

def isObject : Json.Content → Bool
  | .object _ => true
  | _ => false

def listTraces (c : Client) (around : Surroundings ω) (service : Wide) (lookback : String)
    (limit : Int) : Act ω (List Json.Content) := do
  let data ← c.fetch around ("Jaeger /api/traces for '" ++ service ++ "'")
    (Request.traces around.toBounds service lookback limit)
  let traces := data.filter isObject
  if traces.length ≠ data.length then
    Act.note .warning author
      (s!"Dropped {data.length - traces.length} non-object traces for '" ++ service ++ "'")
  Act.note .info author
    (s!"Fetched {traces.length} traces for service '" ++ service ++ s!"' (lookback: {lookback})")
  return traces

/-- The traces of the given services, in their order. -/
def listEach (c : Client) (around : Surroundings ω) (lookback : String) (limit : Int) :
    List Wide → Act ω (List Json.Content)
  | [] => return []
  | service :: rest => do
    let traces ← c.listTraces around service lookback limit
    let more ← listEach c around lookback limit rest
    return traces ++ more

/-- The services whose traces are wanted: the backend's own are not. -/
def wanted (c : Client) (services : List Wide) : List Wide :=
  services.filter fun s => !(c.internal.map Wide.ofString).contains s

def batch (c : Client) (around : Surroundings ω) (lookback : String) (limit : Int) :
    Act ω (List Json.Content) := do
  let services ← c.listServices around
  if services.isEmpty then
    Act.fail .backendUnavailable "Jaeger returned no services; API may be down"
  let traces ← c.listEach around lookback limit (c.wanted services)
  Act.note .info author
    s!"Fetched {traces.length} total traces across {services.length} services"
  return traces

def batchFallback (f : Fault) : Act ω (List Json.Content) := do
  Act.note .error author
    (s!"Jaeger API unavailable after all retries: {f.tagged}. " ++
      "Trace ingestion skipped, will retry on next scheduled poll.")
  return []

/-- The traces of all services, under the policy for batches. -/
def listAllTraces (c : Client) (around : Surroundings ω) (lookback : String) (limit : Int) :
    Act ω (List Json.Content) :=
  c.batches.call around.pauseBatch "Jaeger trace batch" (c.batch around lookback limit)
    (some batchFallback)

end Client

end IncidentTriage.Backend
