import IncidentTriage.Proofs.Chunk.Words
import IncidentTriage.Proofs.Ingestion.Batch
import IncidentTriage.Proofs.Ingestion.Chunks
import Mathlib.Data.List.SplitBy

/-!
# Batches that lose no word

The chunks of a batch, cut before every chunk that is the first of its document, are one run for each
document that has a word, and from its run the words of a document can be read off. This is about
splitters that cut texts into words.
-/

namespace IncidentTriage

namespace Document

def words (d : Document) : List (List Char) :=
  Text.words d.text.toList

/-- The chunk is the first of its document. -/
def opens (d : Document) : Bool :=
  match d.about "chunkIndex" with
  | .int i => i == 0
  | _ => false

end Document

namespace Ingestion
open IncidentTriage.Chunk

/-- Windows over words, for narratives and for the rest. -/
def Splitters.ofWords (prose narrative : Window) : Splitters :=
  ⟨⟨prose, .word⟩, ⟨narrative, .word⟩⟩

/-- The chunks of a batch, cut before every one that is the first of its document. -/
def runs (chunks : List Document) : List (List Document) :=
  chunks.splitBy fun _ next => !next.opens

/-- The run has everything of the document but the blanks of its text: its metadata, to which the
numbers of the chunks and their count are added, and its words, once those that neighbours share
are dropped. -/
structure Retells (w : Window) (d : Document) (run : List Document) : Prop where
  numbers : run.map (·.about "chunkIndex") = (List.range run.length).map fun i => .int i
  count : ∀ chunk ∈ run, chunk.about "chunkCount" = .int run.length
  metadata : ∀ chunk ∈ run, ∀ key, key ≠ "chunkIndex" → key ≠ "chunkCount" →
    Fields.get? chunk.metadata key = Fields.get? d.metadata key
  words : rejoin w.overlap (run.map (·.words)) = d.words

section Runs

lemma opens_chunk (text : String) (metadata : Fields) (i count : Nat) :
    Document.opens { text, metadata := chunkMetadata metadata i count } = (i == 0) := by
  rw [Document.opens, Document.about, about_chunkIndex]
  cases i <;> rfl

lemma isChain_chunksFrom (metadata : Fields) (count i : Nat) (pieces : List String) :
    (chunksFrom metadata count i pieces).IsChain fun _ next => !next.opens := by
  induction pieces generalizing i with
  | nil => exact List.isChain_nil
  | cons piece rest ih =>
    have hrest := ih (i + 1)
    cases rest with
    | nil => exact List.isChain_singleton _
    | cons next rest =>
      refine List.isChain_cons_cons.2 ⟨?_, hrest⟩
      rw [opens_chunk]
      rfl

variable (s : Splitters)

lemma opens_head {d : Document} (h : s.chunks d ≠ []) : ((s.chunks d).head h).opens = true := by
  revert h
  unfold Splitters.chunks
  cases (s.for d).split d.text with
  | nil => exact fun h => absurd rfl h
  | cons piece rest => exact fun _ => opens_chunk ..

/-- The runs are the chunks of the documents that have any. -/
lemma runs_flatMap (docs : List Document) :
    runs (docs.flatMap s.chunks) = (s.full docs).map s.chunks := by
  have hfull : ∀ d ∈ s.full docs, s.chunks d ≠ [] := by
    intro d hd
    simpa using (List.mem_filter.1 hd).2
  rw [← flatMap_full, List.flatMap_def, runs]
  -- No run is empty, and in each only the first chunk opens.
  apply List.splitBy_flatten
  · intro hnil
    obtain ⟨d, hd, hchunks⟩ := List.mem_map.1 hnil
    exact hfull d hd hchunks
  · intro run hrun
    obtain ⟨d, -, rfl⟩ := List.mem_map.1 hrun
    exact isChain_chunksFrom ..
  · have hpairwise : (s.full docs).Pairwise fun a b => ∃ (ha : s.chunks a ≠ [])
        (hb : s.chunks b ≠ []), (!((s.chunks b).head hb).opens) = false := by
      refine List.pairwise_of_forall_mem_list fun a ha b hb => ?_
      exact ⟨hfull a ha, hfull b hb, by rw [opens_head]; rfl⟩
    exact (List.pairwise_map.2 hpairwise).isChain

end Runs

section Words

variable {s : Splitters} {d : Document} (h : (s.for d).scheme = .word)
include h

lemma rejoin_chunks :
    rejoin (s.for d).window.overlap ((s.chunks d).map (·.words)) = d.words := by
  have hwords : (s.chunks d).map (·.words) =
      ((s.for d).split d.text).map fun piece => Text.words piece.toList := by
    rw [← texts_chunks, List.map_map]
    rfl
  rw [hwords, Splitter.rejoin_split h, Document.words]

lemma chunks_eq_nil_iff : s.chunks d = [] ↔ d.words = [] := by
  rw [← List.length_eq_zero_iff, length_chunks, List.length_eq_zero_iff, Splitter.split_eq_nil_iff h]
  rfl

lemma retells_chunks : Retells (s.for d).window d (s.chunks d) where
  numbers := numbers_chunks s d
  count := fun _ hchunk => count_of_mem_chunks hchunk
  metadata := fun _ hchunk _ hindex hcount => other_of_mem_chunks hchunk hindex hcount
  words := rejoin_chunks h

end Words

lemma scheme_for_ofWords (prose narrative : Window) (d : Document) :
    ((Splitters.ofWords prose narrative).for d).scheme = .word := by
  rw [Splitters.for]
  split <;> rfl

/-- Whatever the windows, what a batch of documents adds to the index loses no word: its runs retell
the documents that have a word, in their order, and are as many as the batch counts. -/
theorem ingest_loses_no_word (prose narrative : Window) (docs : List Document) :
    let s := Splitters.ofWords prose narrative
    ∃ chunks : List Document,
      (∀ (ω : Type) (index : Index ω),
        AddsOnce index chunks (runs chunks).length (ingest index s docs)) ∧
      List.Forall₂ (fun d run => Retells (s.for d).window d run)
        (docs.filter fun d => !d.words.isEmpty) (runs chunks) ∧
      (chunks = [] ↔ ∀ d ∈ docs, d.words = []) := by
  intro s
  have hscheme (d : Document) : (s.for d).scheme = .word := scheme_for_ofWords prose narrative d
  have hfull : s.full docs = docs.filter fun d => !d.words.isEmpty := by
    refine List.filter_congr fun d _ => ?_
    rw [Bool.eq_iff_iff]
    simpa using not_congr (chunks_eq_nil_iff (hscheme d))
  refine ⟨docs.flatMap s.chunks, fun ω index => ?_, ?_, ?_⟩
  · rw [runs_flatMap, List.length_map]
    exact addsOnce_ingest index s docs
  · rw [runs_flatMap, ← hfull, List.forall₂_map_right_iff, List.forall₂_same]
    exact fun d _ => retells_chunks (hscheme d)
  · rw [List.flatMap_eq_nil_iff]
    exact forall₂_congr fun d _ => chunks_eq_nil_iff (hscheme d)

end Ingestion

end IncidentTriage
