import IncidentTriage.Index.Basic
import IncidentTriage.Chunk.Splitter
import IncidentTriage.Settings

/-!
# Taking documents in

Documents are split into chunks, by one splitter for narratives and one for the rest, and all chunks
are added to the index in one batch. A chunk has the metadata of its document, its number, and the
count of the document's chunks.
-/

namespace IncidentTriage.Ingestion
open IncidentTriage.Chunk

def author : String := "ingestion"

structure Splitters where
  prose : Splitter
  narrative : Splitter

def Splitters.for (s : Splitters) (d : Document) : Splitter :=
  if d.hasType "telemetry" then s.narrative else s.prose

def chunkMetadata (metadata : Fields) (index count : Nat) : Fields :=
  Fields.set (Fields.set metadata "chunkIndex" (.int index)) "chunkCount" (.int count)

def chunksFrom (metadata : Fields) (count : Nat) : Nat → List String → List Document
  | _, [] => []
  | index, piece :: rest =>
    { text := piece, metadata := chunkMetadata metadata index count } ::
      chunksFrom metadata count (index + 1) rest

def Splitters.chunks (s : Splitters) (d : Document) : List Document :=
  let pieces := (s.for d).split d.text
  chunksFrom d.metadata pieces.length 0 pieces

variable {ω : Type}

def blankEntry (d : Document) : Entry :=
  { level := .debug, author
    text := "Document produced no chunks: " ++ (ValueOf.object d.metadata).literal }

/-- Adds the chunks of all documents; the count of documents that have any. -/
def ingest (index : Index ω) (splitters : Splitters) (docs : List Document) : Act ω Nat := do
  let (blank, full) := docs.partition fun d => (splitters.chunks d).isEmpty
  let chunks := full.flatMap splitters.chunks
  Act.record (blank.map blankEntry)
  if !chunks.isEmpty then index.add chunks
  Act.note .info author s!"Ingested {full.length} documents ({chunks.length} chunks)"
  return full.length

end IncidentTriage.Ingestion
