import IncidentTriage.Http.Body
import IncidentTriage.Http.Route

/-!
# The description of the interface

The interface describes itself in a document: of each route that it serves the way to call it, the
schema of the body that it takes, and the schemas of its replies.
-/

namespace IncidentTriage.Http

/-- What a value of a document may be. -/
inductive Schema
  | any
  | null
  | text (rules : Fields)
  | whole (rules : Fields)
  | listOf (items : Schema)
  | someObject
  | anyOf (choices : List Schema)
  | named (name : String)
  | titled (title : String) (schema : Schema)
  | record (title : String) (fields : List (String × Schema)) (required : List String)

namespace Schema

def reference (name : String) : String :=
  "#/components/schemas/" ++ name

mutual

def fields : Schema → Fields
  | .any => []
  | .null => [("type", .text "null")]
  | .text rules => ("type", .text "string") :: rules
  | .whole rules => ("type", .text "integer") :: rules
  | .listOf items => [("items", .object (fields items)), ("type", .text "array")]
  | .someObject => [("type", .text "object")]
  | .anyOf choices => [("anyOf", .list (choicesOf choices))]
  | .named name => [("$ref", .text (reference name))]
  | .titled title schema => fields schema ++ [("title", .text title)]
  | .record title properties required =>
    [("properties", .object (propertiesOf properties)), ("type", .text "object")] ++
      (if required.isEmpty then [] else [("required", .list (required.map .text))]) ++
      [("title", .text title)]

def choicesOf : List Schema → List Value
  | [] => []
  | s :: rest => .object (fields s) :: choicesOf rest

def propertiesOf : List (String × Schema) → Fields
  | [] => []
  | (name, s) :: rest => (name, .object (fields s)) :: propertiesOf rest

end

def question : Schema :=
  .record "AskRequest" [("question", .titled "Question" (.text [("minLength", .int 1)]))]
    ["question"]

def answer : Schema :=
  .record "AskResponse"
    [("question", .titled "Question" (.text [])), ("answer", .titled "Answer" (.text []))]
    ["question", "answer"]

def ingestion : Schema :=
  .record "IngestTracesRequest"
    [("lookback", .titled "Lookback"
        (.anyOf [.text [("pattern", .text Body.lookbackPattern)], .null])),
      ("limit", .titled "Limit" (.anyOf [.whole [("exclusiveMinimum", .float 0.0)], .null]))]
    []

def problem : Schema :=
  .record "ValidationError"
    [("loc", .titled "Location" (.listOf (.anyOf [.text [], .whole []]))),
      ("msg", .titled "Message" (.text [])), ("type", .titled "Error Type" (.text [])),
      ("input", .titled "Input" .any), ("ctx", .titled "Context" .someObject)]
    ["loc", "msg", "type"]

def problems : Schema :=
  .record "HTTPValidationError"
    [("detail", .titled "Detail" (.listOf (.named "ValidationError")))] []

def all : List (String × Schema) :=
  [("AskRequest", question), ("AskResponse", answer), ("HTTPValidationError", problems),
    ("IngestTracesRequest", ingestion), ("ValidationError", problem)]

end Schema

/-- One way to call the interface. -/
structure Operation where
  route : Route
  words : List String
  body : Option (Schema × Bool)
  reply : Schema

namespace Operation

def all : List Operation :=
  [⟨.ask, ["ask"], some (.named "AskRequest", true), .named "AskResponse"⟩,
    ⟨.ingest, ["ingest"], none, .any⟩,
    ⟨.ingestTraces, ["ingest", "traces"],
      some (.titled "Req" (.anyOf [.named "IngestTracesRequest", .null]), false), .any⟩,
    ⟨.health, ["health"], none, .any⟩]

/-- The name of the method that an operation is called by. -/
def method (o : Operation) : String :=
  String.ofList ((o.route.methods.headD "").toList.map Char.toLower)

/-- The words of the operation, its path and its method. -/
def identifier (o : Operation) : String :=
  let path := o.route.path.toList.map fun c => if c == '/' then '_' else c
  "_".intercalate o.words ++ String.ofList path ++ "_" ++ o.method

def content (s : Schema) : String × Value :=
  ("content", .object [("application/json", .object [("schema", .object s.fields)])])

def response (status description : String) (s : Schema) : String × Value :=
  (status, .object [("description", .text description), content s])

/-- An operation that takes a body can refuse it. -/
def responses (o : Operation) : Fields :=
  response "200" "Successful Response" o.reply ::
    if o.body.isSome then [response "422" "Validation Error" (.named "HTTPValidationError")] else []

def requestBody : Schema × Bool → Fields
  | (s, true) => [("requestBody", .object [("required", .bool true), content s])]
  | (s, false) => [("requestBody", .object [content s])]

def entry (o : Operation) : String × Value :=
  let summary := " ".intercalate (o.words.map String.capitalize)
  (o.route.path, .object [(o.method, .object
    ([("summary", .text summary), ("operationId", .text o.identifier)] ++
      (o.body.map requestBody).getD [] ++ [("responses", .object o.responses)]))])

end Operation

def description : Value :=
  let schemas := Schema.all.map fun s => (s.1, ValueOf.object s.2.fields)
  .object [("openapi", .text "3.1.0"),
    ("info", .object [("title", .text "Trace RAG"), ("version", .text "1.0.0")]),
    ("paths", .object (Operation.all.map Operation.entry)),
    ("components", .object [("schemas", .object schemas)])]

end IncidentTriage.Http
