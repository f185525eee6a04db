import IncidentTriage.Act
import IncidentTriage.Settings
import IncidentTriage.Http.Body
import IncidentTriage.Http.Description
import IncidentTriage.Http.Target

/-!
# The HTTP interface

Questions are posted, and ingestions are triggered, over HTTP. A request is led to a route by its
target, answered if its method is one of the route's, and refused with a report of its problems if
its body is not what the route takes.
-/

namespace IncidentTriage.Http
open IncidentTriage.Text

namespace Api

structure Request where
  method : String
  target : String
  body : List UInt8

inductive Response
  | reply (status : Nat) (body : Value)
  | unprocessable (problems : List Problem)
  | page (text : String)
  | bare (status : Nat)

/-- What the interface asks of the system. An ingestion answers with its count, or with null when it
was not begun. -/
structure Services (ω : Type) where
  ask : String → Act ω Value
  docs : Act ω Value
  traces : String → Int → Act ω Value
  /-- How deep the lists and objects of a body may nest, which is for the stack to say. -/
  nestingLimit : Nat := 940

def detail (status : Nat) (text : String) : Response :=
  .reply status (.object [("detail", .text text)])

/-- The content of a body that is not empty, or the answer to a body that cannot be read. -/
def bodyContent (depth : Nat) (body : List UInt8) : Except Response Json.Content :=
  match Json.readBytes depth body with
  | .ok v => .ok v
  | .error .malformed => .error (.unprocessable [⟨.jsonInvalid, [], .object []⟩])
  | .error _ => .error (detail 400 "There was an error parsing the body")

/-- The body of a reply about an ingestion: `counted` names the count, and `more` follows. -/
def ingestionBody (counted : String) (count : Value) (more : Fields) : Value :=
  match count with
  | .null => .object ([("status", .text "skipped"),
      ("reason", .text "ingestion already in progress"), (counted, .int 0)] ++ more)
  | count => .object ([("status", .text "completed"), (counted, count)] ++ more)

variable {ω : Type}

def answerAsk (services : Services ω) (body : List UInt8) : Act ω Response := do
  if body.isEmpty then return .unprocessable [Body.bodyProblem .missing .null]
  match bodyContent services.nestingLimit body with
  | .error r => return r
  | .ok v =>
    match Body.readAsk v with
    | .error problems => return .unprocessable problems
    | .ok question =>
      let answer ← services.ask question
      return .reply 200 (.object [("question", .text question), ("answer", answer)])

def answerIngest (services : Services ω) : Act ω Response := do
  return .reply 200 (ingestionBody "documentsIngested" (← services.docs) [])

def answerIngestTraces (settings : Settings) (services : Services ω) (body : List UInt8) :
    Act ω Response := do
  match if body.isEmpty then .ok .null else bodyContent services.nestingLimit body with
  | .error r => return r
  | .ok v =>
    match Body.readIngestTraces v with
    | .error problems => return .unprocessable problems
    | .ok (lookback?, limit?) =>
      let lookback := lookback?.getD settings.ingestTracesLookback
      let limit := limit?.getD settings.ingestTracesLimit
      let count ← services.traces lookback limit
      return .reply 200
        (ingestionBody "tracesIngested" count [("lookback", .text lookback), ("limit", .int limit)])

def pageText : String := "\n    <!DOCTYPE html>\n    <html>\n    </html>\n    "

def answerAt (settings : Settings) (services : Services ω) (body : List UInt8) :
    Route → Act ω Response
  | .ask => answerAsk services body
  | .ingest => answerIngest services
  | .ingestTraces => answerIngestTraces settings services body
  | .health => return .reply 200 (.object [("status", .text "ok")])
  | .description => return .reply 200 description
  | .page _ => return .page pageText

def Response.sent : Response → Except Fault Response
  | .reply status body => do
    finite (shared body)
    return .reply status (shared body)
  | .unprocessable problems => do
    Problem.reportable problems
    return .unprocessable problems
  | other => .ok other

def Response.status : Response → Nat
  | .reply status _ | .bare status => status
  | .unprocessable _ => 422
  | .page _ => 200

/-- The route that a target leads to. A path that leads nowhere is sent on to the same path without
the slashes at its end, if that leads to a route. -/
def routeOf (target : Target) : Except Fault (Option Route) := do
  let path := target.receivedPath
  let bare := String.ofList (path.toList.reverse.dropWhile (· == '/')).reverse
  if (Route.at? path).isNone && (Route.at? bare).isSome then
    return Route.at? (← target.sentOn bare).receivedPath
  return Route.at? path

def findRoute (target : String) : Except Fault (Option Route) := do
  let t ← (Target.read target.toList).mapError Target.Error.toFault
  let t ← t.atHost.mapError Target.Error.toFault
  t.checkPlace
  routeOf t

def answer (settings : Settings) (services : Services ω) (r : Request) : Act ω Response := do
  match ← Act.ofOutcome (findRoute r.target) with
  | none => return detail 404 "Not Found"
  | some route =>
    if route.methods.contains (capitalized r.method) then answerAt settings services r.body route
    else return detail 405 "Method Not Allowed"

/-- The response to a request. A request for the head of a response gets no body. -/
def respond (settings : Settings) (services : Services ω) (r : Request) : Act ω Response := do
  let response ← Act.ofOutcome (← answer settings services r).sent
  return if capitalized r.method = "HEAD" then .bare response.status else response

end Api

end IncidentTriage.Http
