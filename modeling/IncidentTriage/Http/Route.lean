/-!
# Routes

Questions are posted, ingestions are triggered by a post, and whether the system is there can be
asked. Beside it stand the description of the interface, as a document, and pages that show it.
-/

namespace IncidentTriage.Http

inductive Route
  | ask
  | ingest
  | ingestTraces
  | health
  | description
  | page (path : String)
  deriving DecidableEq, Repr

namespace Route

def path : Route → String
  | .ask => "/ask"
  | .ingest => "/ingest"
  | .ingestTraces => "/ingest/traces"
  | .health => "/health"
  | .description => "/openapi.json"
  | .page path => path

def methods : Route → List String
  | .health => ["GET"]
  | .description | .page _ => ["GET", "HEAD"]
  | _ => ["POST"]

def pages : List String := ["/docs", "/docs/oauth2-redirect", "/redoc"]

def all : List Route :=
  .description :: pages.map .page ++ [.ask, .ingest, .ingestTraces, .health]

/-- A path is that of a route, perhaps with a line feed after it. -/
def isAt (r : Route) (path : String) : Bool :=
  path == r.path || path == r.path ++ "\n"

def at? (path : String) : Option Route :=
  all.find? (·.isAt path)

end Route

/-- Letters that are written as plain capitals where there are no small letters. -/
def capitals : List (Char × String) := [('ſ', "S"), ('ﬅ', "ST"), ('ﬆ', "ST")]

def capitalized (method : String) : String :=
  String.join (method.toList.map fun c => (capitals.lookup c).getD c.toUpper.toString)

end IncidentTriage.Http
