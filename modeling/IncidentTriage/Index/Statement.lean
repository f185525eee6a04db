import IncidentTriage.Act
import IncidentTriage.Document
import IncidentTriage.Filter.Sql
import IncidentTriage.Index.Hit
import IncidentTriage.Question.Retrieval

/-!
# The index in a column store

The chunks are rows of one table, each with its embedding. Before the first statement of any other
kind the table is created; it is created once. A search ranks rows by the cosine of the embeddings
and a deletion always has a condition. The connection and the embedding model are obtained when they
are first needed.
-/

namespace IncidentTriage.Index
open IncidentTriage.Filter

/-- A row to insert, but for its identifier and the time of its insertion, which nothing reads. -/
structure Row where
  content : String
  metadata : List (String × String)
  embedding : Value

/-- What is asked of the column store and of the embedding model. The rows that a query finds come
as they are: each should have a content, metadata and a similarity. -/
structure Client (ω : Type) where
  connect : Fields → Act ω Unit
  loadModel : String → Act ω Unit
  command : String → Option Parameters → Act ω Unit
  encode : List String → Act ω (List Value)
  insert : String → List String → List Row → Act ω Unit
  query : String → Parameters → Act ω (List Value)

/-- What has been done once for all: the connection and the model serve every index of the process,
the table is created by each. -/
structure Session where
  connected : Bool := false
  modelLoaded : Bool := false
  tableReady : Bool := false

namespace Session

variable {ω : Type}

def author : String := "vector_store"

def columns : List String :=
  ["ChunkId", "Content", "Metadata", "Embedding", "CreatedAt"]

def createStatement (table : String) : String :=
  "\nCREATE TABLE IF NOT EXISTS " ++ table ++ " (\n    ChunkId String,\n    Content String,\n" ++
    "    Metadata Map(LowCardinality(String), String),\n    Embedding Array(Float32),\n" ++
    "    CreatedAt DateTime64(3)\n) ENGINE = MergeTree\nORDER BY ChunkId\n"

def searchStatement (table condition : String) : String :=
  "\n        SELECT\n            Content,\n            Metadata,\n" ++
    "            1 - cosineDistance(Embedding, \x7bemb:Array(Float32)\x7d) AS similarity\n" ++
    "        FROM " ++ table ++ "\n        WHERE " ++ condition ++ "\n" ++
    "          AND similarity >= \x7bmin_score:Float32\x7d\n" ++
    "        ORDER BY similarity DESC\n        LIMIT \x7blimit:UInt32\x7d\n        "

def deleteStatement (table condition : String) : String :=
  "DELETE FROM " ++ table ++ " WHERE " ++ condition

def connection (s : Settings) : Fields :=
  [("host", .text s.chHost), ("port", .int s.chPort), ("username", .text s.chUser),
    ("password", .text s.chPassword), ("database", .text s.chDatabase)]

def ensureConnected (settings : Settings) (client : Client ω) : Act (Session × ω) Unit := do
  if !(← Act.own).connected then
    Act.outside (client.connect (connection settings))
    Act.modifyOwn fun session => { session with connected := true }

def ensureModel (settings : Settings) (client : Client ω) : Act (Session × ω) Unit := do
  if !(← Act.own).modelLoaded then
    Act.note .info author s!"Loading embedding model {settings.embeddingModel} ..."
    Act.outside (client.loadModel settings.embeddingModel)
    Act.modifyOwn fun session => { session with modelLoaded := true }

def ensureTable (settings : Settings) (client : Client ω) (table : String) :
    Act (Session × ω) Unit := do
  if !(← Act.own).tableReady then
    ensureConnected settings client
    Act.outside (client.command (createStatement table) none)
    Act.modifyOwn fun session => { session with tableReady := true }

def embed (settings : Settings) (client : Client ω) (texts : List String) :
    Act (Session × ω) (List Value) := do
  ensureModel settings client
  Act.outside (client.encode texts)

def rowOf (d : Document) (embedding : Value) : Row :=
  ⟨d.text, d.metadata.map fun f => (f.1, f.2.metadataText), embedding⟩

/-- Adds the chunks in one batch; the count of rows written. -/
def add (settings : Settings) (client : Client ω) (table : String) (docs : List Document) :
    Act (Session × ω) Nat := do
  if docs.isEmpty then return 0
  ensureTable settings client table
  let embeddings ← embed settings client (docs.map (·.text))
  let rows := docs.zipWith rowOf embeddings
  ensureConnected settings client
  Act.outside (client.insert table columns rows)
  Act.note .info author s!"Inserted {rows.length} chunks into {table}"
  return rows.length

def search (settings : Settings) (client : Client ω) (table question : String) (topK : Int)
    (minScore : Value) (filter : Option String) : Act (Session × ω) (List Hit) := do
  ensureTable settings client table
  let embeddings ← embed settings client [question]
  let params := [("emb", embeddings.headD .null), ("min_score", minScore),
    ("limit", .int topK)]
  let (condition, params) := toSqlWith params filter
  let condition ← Act.ofOutcome (condition.mapError Error.toFault)
  ensureConnected settings client
  let rows ← Act.outside (client.query (searchStatement table condition) params)
  Act.ofOutcome (rows.mapM Hit.ofRow)

/-- Deletes every chunk that meets the filter. There has to be one. -/
def delete (settings : Settings) (client : Client ω) (table : String) (filter : Option String) :
    Act (Session × ω) Unit := do
  match filter with
  | none => throw Error.missing.toFault
  | some expression =>
    if expression.isEmpty then throw Error.missing.toFault
    ensureTable settings client table
    let (condition, params) := toSqlWith [] filter
    let condition ← Act.ofOutcome (condition.mapError Error.toFault)
    ensureConnected settings client
    Act.outside (client.command (deleteStatement table condition) (some params))

end Session

end IncidentTriage.Index
