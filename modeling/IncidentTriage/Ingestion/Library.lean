import IncidentTriage.Ingestion.Knowledge
import IncidentTriage.Text.Utf8

/-!
# Taking the documentation in

The documentation is the files of one directory whose names end in `.md`, in the order of their
names. All of it is replaced at once: what the index holds of it is removed before the files are
added. Files that cannot be read are logged and left out, and without any readable file the index
is left alone.
-/

namespace IncidentTriage.Ingestion
open IncidentTriage.Text

inductive Content
  | bytes (data : List UInt8)
  | directory

structure File where
  name : String
  content : Content

/-- The files of the documentation directory, if it exists. -/
structure Shelf where
  path : String
  files : Option (List File)

/-- Every kind of line end becomes a line feed. -/
def unifyLineEnds : List Char → List Char
  | [] => []
  | '\r' :: '\n' :: rest => '\n' :: unifyLineEnds rest
  | '\r' :: rest => '\n' :: unifyLineEnds rest
  | c :: rest => c :: unifyLineEnds rest

def isDocumentation (f : File) : Bool :=
  ".md".toList.isSuffixOf f.name.toList

def File.text? (f : File) : Option String :=
  match f.content with
  | .directory => none
  | .bytes data => (Utf8.decode? data).map fun cs => String.ofList (unifyLineEnds cs)

def File.document (f : File) (text : String) : Document where
  text
  metadata := [("source", .text f.name), ("type", .text "documentation")]

/-- The documentation files in the order of their names. -/
def shelved (files : List File) : List File :=
  (files.filter isDocumentation).mergeSort fun a b => decide (a.name ≤ b.name)

def loadEntry (f : File) : Entry :=
  match f.text? with
  | some _ => { level := .info, author, text := s!"Loaded document: {f.name}" }
  | none => { level := .error, author, text := s!"Failed to load document {f.name}" }

def loaded (files : List File) : List Document :=
  (shelved files).filterMap fun f => f.text?.map f.document

variable {ω : Type}

def loadDocuments (shelf : Shelf) : Act ω (List Document) := do
  match shelf.files with
  | none =>
    Act.note .warning author s!"Documentation directory {shelf.path} does not exist"
    return []
  | some files =>
    Act.record ((shelved files).map loadEntry)
    return loaded files

/-- Replaces the documentation; the count of files that have chunks. -/
def ingestDocuments (shelf : Shelf) (index : Index ω) (splitters : Splitters) : Act ω Nat := do
  Act.note .info author s!"Starting document ingestion from {shelf.path}"
  let docs ← loadDocuments shelf
  if docs.isEmpty then
    Act.note .warning author "No documents found to ingest"
    return 0
  index.delete (Filter.equals "type" (.text "documentation"))
  let count ← ingest index splitters docs
  Act.note .info author s!"Successfully ingested {count} documents"
  return count

end IncidentTriage.Ingestion
