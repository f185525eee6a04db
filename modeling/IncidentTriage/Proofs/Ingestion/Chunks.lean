import IncidentTriage.Proofs.Chunk.First
import IncidentTriage.Proofs.Index.Store
import IncidentTriage.Proofs.Trace.Opening
import IncidentTriage.Proofs.Value.Fields
import IncidentTriage.Ingestion.Telemetry

/-!
# The chunks of a narrative

The chunks of a document are numbered from zero and all know their count. A narrative has at least
one chunk, and all of its chunks belong to its trace.
-/

namespace IncidentTriage
open IncidentTriage.Trace

/-- What is stored of a narrative. -/
def Narrative.document (n : Narrative) : Document :=
  { text := n.text, metadata := n.metadata }

namespace Ingestion
open IncidentTriage.Chunk

/-- The chunks are all the pieces of the narrative, in order, each with its number and their count
beside the narrative's own metadata. -/
structure Splitters.IsWhole (s : Splitters) (n : Narrative) (chunks : List Document) : Prop where
  texts : chunks.map (·.text) = s.narrative.split n.text
  numbers : chunks.map (·.about "chunkIndex") = (List.range chunks.length).map fun i => .int i
  count : ∀ d ∈ chunks, d.about "chunkCount" = .int chunks.length
  metadata : ∀ d ∈ chunks, ∀ key, key ≠ "chunkIndex" → key ≠ "chunkCount" →
    d.about key = Fields.get n.metadata key
  nonempty : chunks ≠ []

lemma about_chunkIndex (metadata : Fields) (i count : Nat) :
    Fields.get (chunkMetadata metadata i count) "chunkIndex" = .int i := by
  rw [chunkMetadata, Fields.get_set_of_ne _ _ (by decide), Fields.get_set_self]

lemma about_chunkCount (metadata : Fields) (i count : Nat) :
    Fields.get (chunkMetadata metadata i count) "chunkCount" = .int count := by
  rw [chunkMetadata, Fields.get_set_self]

lemma get?_other (metadata : Fields) (i count : Nat) {key : String} (hindex : key ≠ "chunkIndex")
    (hcount : key ≠ "chunkCount") :
    Fields.get? (chunkMetadata metadata i count) key = Fields.get? metadata key := by
  rw [chunkMetadata, Fields.get?_set, if_neg hcount, Fields.get?_set, if_neg hindex]

lemma about_other (metadata : Fields) (i count : Nat) {key : String} (hindex : key ≠ "chunkIndex")
    (hcount : key ≠ "chunkCount") :
    Fields.get (chunkMetadata metadata i count) key = Fields.get metadata key := by
  rw [Fields.get, get?_other metadata i count hindex hcount, Fields.get]

section Pieces

variable (metadata : Fields) (count i : Nat) (pieces : List String)

lemma texts_chunksFrom : (chunksFrom metadata count i pieces).map (·.text) = pieces := by
  induction pieces generalizing i with
  | nil => rfl
  | cons piece rest ih => simp only [chunksFrom, List.map_cons, ih]

lemma numbers_chunksFrom :
    (chunksFrom metadata count i pieces).map (·.about "chunkIndex") =
      (List.range' i pieces.length).map fun k => .int k := by
  induction pieces generalizing i with
  | nil => rfl
  | cons piece rest ih =>
    simp only [chunksFrom, List.map_cons, ih, List.length_cons, List.range'_succ]
    rw [Document.about, about_chunkIndex]

/-- Every chunk has the metadata of its document, with some number. -/
lemma exists_of_mem_chunksFrom {d : Document} (h : d ∈ chunksFrom metadata count i pieces) :
    ∃ k, d.metadata = chunkMetadata metadata k count := by
  induction pieces generalizing i with
  | nil => simp [chunksFrom] at h
  | cons piece rest ih =>
    rw [chunksFrom, List.mem_cons] at h
    rcases h with rfl | h
    · exact ⟨i, rfl⟩
    · exact ih (i + 1) h

end Pieces

section Chunks

variable (s : Splitters) (d : Document)

lemma texts_chunks : (s.chunks d).map (·.text) = (s.for d).split d.text :=
  texts_chunksFrom ..

lemma length_chunks : (s.chunks d).length = ((s.for d).split d.text).length := by
  rw [← texts_chunks, List.length_map]

lemma numbers_chunks : (s.chunks d).map (·.about "chunkIndex") =
    (List.range (s.chunks d).length).map fun i => .int i := by
  rw [length_chunks, List.range_eq_range']
  exact numbers_chunksFrom ..

variable {s d} {chunk : Document} (h : chunk ∈ s.chunks d)
include h

lemma count_of_mem_chunks : chunk.about "chunkCount" = .int (s.chunks d).length := by
  obtain ⟨k, hk⟩ := exists_of_mem_chunksFrom _ _ _ _ h
  rw [Document.about, hk, about_chunkCount, length_chunks]

lemma other_of_mem_chunks {key : String} (hindex : key ≠ "chunkIndex")
    (hcount : key ≠ "chunkCount") :
    Fields.get? chunk.metadata key = Fields.get? d.metadata key := by
  obtain ⟨k, hk⟩ := exists_of_mem_chunksFrom _ _ _ _ h
  rw [hk, get?_other _ _ _ hindex hcount]

end Chunks

lemma for_document (s : Splitters) (n : Narrative) : s.for n.document = s.narrative := by
  rw [Splitters.for, if_pos]
  rfl

/-- A chunk of a narrative belongs to its trace alone. -/
lemma belongsTo_of_mem_chunks {s : Splitters} {n : Narrative} {d : Document}
    (h : d ∈ s.chunks n.document) (id : String) : d.belongsTo id = (n.traceId == id) := by
  obtain ⟨k, hk⟩ := exists_of_mem_chunksFrom _ _ _ _ h
  rw [Document.belongsTo, Document.shown, Document.about, hk,
    about_other _ _ _ (by decide) (by decide)]
  rfl

lemma filter_chunks (s : Splitters) (n : Narrative) (id : String) :
    (s.chunks n.document).filter (·.belongsTo id) =
      if n.traceId == id then s.chunks n.document else [] := by
  split
  · rename_i h
    rw [List.filter_eq_self]
    exact fun d hd => (belongsTo_of_mem_chunks hd id).trans h
  · rename_i h
    rw [List.filter_eq_nil_iff]
    exact fun d hd hid => h ((belongsTo_of_mem_chunks hd id).symm.trans hid)

/-- Among the chunks of several narratives, those of a trace are the chunks of its narratives. -/
lemma filter_flatMap_chunks (s : Splitters) (ns : List Narrative) (id : String) :
    (ns.flatMap fun n => s.chunks n.document).filter (·.belongsTo id) =
      (ns.filter (·.traceId == id)).flatMap fun n => s.chunks n.document := by
  induction ns with
  | nil => rfl
  | cons n rest ih =>
    rw [List.flatMap_cons, List.filter_append, filter_chunks, ih, List.filter_cons]
    split <;> rfl

/-- The chunks made of a raw trace's narrative are the whole of it. -/
lemma isWhole_chunks (s : Splitters) {trace : Value} {n : Narrative}
    (h : Narrative.ofTrace trace = .ok (some n)) : s.IsWhole n (s.chunks n.document) := by
  have htexts : (s.chunks n.document).map (·.text) = s.narrative.split n.text := by
    rw [texts_chunks, for_document]
    rfl
  refine ⟨htexts, numbers_chunks s n.document, fun d hd => count_of_mem_chunks hd, ?_, ?_⟩
  · intro d hd key hindex hcount
    rw [Document.about, Fields.get, other_of_mem_chunks hd hindex hcount]
    rfl
  · obtain ⟨cs, hcs⟩ := Narrative.text_opening h
    intro hnil
    rw [hnil, List.map_nil] at htexts
    exact s.narrative.split_ne_nil hcs (by decide) (by decide) htexts.symm

end Ingestion

end IncidentTriage
