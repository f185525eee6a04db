import IncidentTriage.Proofs.Ingestion.Batch
import IncidentTriage.Proofs.Ingestion.Chunks
import IncidentTriage.Ingestion.Library

/-!
# The replacement of the documentation

Whatever documentation an index held, afterwards it holds the chunks of the files that can be read
now, and whatever else it held stays as it was, so that to take the documentation in twice is as good
as once. A failure on the way leaves either everything or everything but the documentation.
-/

namespace IncidentTriage

/-- The chunk shows as one of the documentation. -/
def Document.isDocumentation (d : Document) : Bool :=
  d.shown "type" == "documentation"

namespace Index

def Memory.documentation (m : Memory) : Memory :=
  m.filter (·.isDocumentation)

def Memory.others (m : Memory) : Memory :=
  m.filter fun d => !d.isDocumentation

/-- Nothing is done where there is a fault. -/
def interrupt {ω : Type} : Option Fault → Act ω Unit
  | some f => throw f
  | none => return

/-- An index in memory whose calls can fail, each before it has done anything. -/
def failing (onAdd onDelete : Option Fault) : Index Memory :=
  let kept := Index.inMemory id fun m _ => m
  { add := fun docs => do
      interrupt onAdd
      kept.add docs
    delete := fun filter => do
      interrupt onDelete
      kept.delete filter }

namespace Memory

/-- To add documentation to what is none of it changes nothing of the rest. -/
lemma others_append {m chunks : Memory} (hchunks : ∀ d ∈ chunks, d.isDocumentation = true) :
    (m.others ++ chunks).others = m.others := by
  have hnone : chunks.filter (fun d => !d.isDocumentation) = [] := by
    rw [List.filter_eq_nil_iff]
    intro d hd
    rw [hchunks d hd]
    decide
  rw [others, List.filter_append, hnone, List.append_nil, others, List.filter_filter]
  simp only [Bool.and_self]

lemma documentation_append {m chunks : Memory} (hchunks : ∀ d ∈ chunks, d.isDocumentation = true) :
    (m.others ++ chunks).documentation = chunks := by
  have hnone : m.others.filter (·.isDocumentation) = [] := by
    rw [others, List.filter_filter, List.filter_eq_nil_iff]
    simp
  rw [documentation, List.filter_append, hnone, List.nil_append, List.filter_eq_self]
  exact hchunks

end Memory

section Failing

variable (onAdd onDelete : Option Fault) (m : Memory) (journal : List Entry)

lemma perform_add_failing (docs : List Document) :
    ((failing onAdd onDelete).add docs).perform ⟨journal, m⟩ =
      match onAdd with
      | some f => (.error f, ⟨journal, m⟩)
      | none => (.ok (), ⟨journal, m ++ docs⟩) := by
  cases onAdd <;> rfl

lemma perform_delete_failing :
    ((failing onAdd onDelete).delete (Filter.equals "type" (.text "documentation"))).perform
        ⟨journal, m⟩ =
      match onDelete with
      | some f => (.error f, ⟨journal, m⟩)
      | none => (.ok (), ⟨journal, m.others⟩) := by
  have hkey : Filter.isKey "type".toList = true := by decide
  cases onDelete with
  | some f => rfl
  | none =>
    simp only [failing, inMemory, interrupt, Act.perform_bind, Act.perform_pure, Act.perform_world,
      Act.continued_ok, id_eq, delete_equals m hkey]
    rfl

end Failing

end Index

namespace Ingestion
open IncidentTriage.Index

/-- The documentation files that can be read, in the order of their names. -/
def Shelf.readable (shelf : Shelf) : List File :=
  (shelved (shelf.files.getD [])).filter (·.text?.isSome)

/-- The chunks of a file, none if it cannot be read. -/
def Splitters.chunksOf (s : Splitters) (f : File) : List Document :=
  (f.text?.map f.document).elim [] s.chunks

section Reading

variable (shelf : Shelf)

lemma perm_readable : shelf.readable.Perm
    ((shelf.files.getD []).filter fun f => f.text?.isSome && isDocumentation f) := by
  have hperm := List.mergeSort_perm ((shelf.files.getD []).filter isDocumentation)
    fun a b => decide (a.name ≤ b.name)
  have hfilter := hperm.filter (·.text?.isSome)
  rwa [List.filter_filter, ← shelved, ← Shelf.readable] at hfilter

lemma pairwise_readable : shelf.readable.Pairwise fun f g => f.name ≤ g.name := by
  have hsorted : (shelved (shelf.files.getD [])).Pairwise fun f g => decide (f.name ≤ g.name) := by
    apply List.pairwise_mergeSort
    · intro f g h hfg hgh
      rw [decide_eq_true_iff] at hfg hgh ⊢
      exact String.le_trans hfg hgh
    · intro f g
      rw [Bool.or_eq_true, decide_eq_true_iff, decide_eq_true_iff]
      exact String.le_total f.name g.name
  exact (hsorted.imp of_decide_eq_true).filter _

/-- What the files that can be read hold. -/
def Shelf.documents : List Document :=
  loaded (shelf.files.getD [])

lemma documents_eq_nil_iff : shelf.documents = [] ↔ shelf.readable = [] := by
  rw [Shelf.documents, loaded, List.filterMap_eq_nil_iff, Shelf.readable, List.filter_eq_nil_iff]
  simp

variable (s : Splitters)

lemma flatMap_chunksOf (files : List File) :
    (files.filterMap fun f => f.text?.map f.document).flatMap s.chunks =
      (files.filter (·.text?.isSome)).flatMap s.chunksOf := by
  induction files with
  | nil => rfl
  | cons f rest ih =>
    cases htext : f.text? with
    | none => simp [htext, ih]
    | some text => simp [htext, ih, Splitters.chunksOf]

lemma countP_chunksOf (files : List File) :
    (s.full (files.filterMap fun f => f.text?.map f.document)).length =
      (files.filter (·.text?.isSome)).countP fun f => !(s.chunksOf f).isEmpty := by
  induction files with
  | nil => rfl
  | cons f rest ih =>
    rw [Splitters.full, ← List.countP_eq_length_filter] at ih ⊢
    cases htext : f.text? with
    | none => simp [htext, ih]
    | some text => simp [htext, ih, Splitters.chunksOf, List.countP_cons]

/-- The chunks of a file are documentation. -/
lemma isDocumentation_of_mem_chunksOf {f : File} {d : Document} (h : d ∈ s.chunksOf f) :
    d.isDocumentation = true := by
  rw [Splitters.chunksOf] at h
  cases htext : f.text? with
  | none =>
    rw [htext] at h
    cases h
  | some text =>
    rw [htext] at h
    obtain ⟨k, hk⟩ := exists_of_mem_chunksFrom _ _ _ _ h
    rw [Document.isDocumentation, Document.shown, Document.about, hk,
      about_other _ _ _ (by decide) (by decide)]
    rfl

end Reading

section Replacing

variable {ω : Type} {index : Index ω} {shelf : Shelf} {s : Splitters}

lemma perform_loadDocuments (shelf : Shelf) (w : ω) (journal : List Entry) :
    ∃ journal', (loadDocuments shelf).perform ⟨journal, w⟩ =
      (.ok shelf.documents, ⟨journal', w⟩) := by
  rw [loadDocuments, Shelf.documents]
  cases shelf.files with
  | none =>
    have hnone : loaded [] = [] := by simp [loaded, shelved]
    rw [Option.getD_none, hnone]
    exact ⟨_, rfl⟩
  | some files => exact ⟨_, rfl⟩

/-- Without a file that can be read, nothing is asked of the index. -/
lemma perform_ingestDocuments_of_nil (index : Index ω) (s : Splitters) (h : shelf.readable = [])
    (scene : Scene ω) :
    ∃ journal, (ingestDocuments shelf index s).perform scene =
      (.ok 0, ⟨journal, scene.world⟩) := by
  have hdocs := (documents_eq_nil_iff shelf).2 h
  simp only [ingestDocuments, Act.perform_bind, Act.perform_note, Act.continued_ok]
  obtain ⟨journal, hload⟩ := perform_loadDocuments shelf scene.world (scene.journal ++ _)
  rw [hload, hdocs]
  exact ⟨_, rfl⟩

/-- What is done once the old documentation is removed. -/
def refill (shelf : Shelf) (index : Index ω) (s : Splitters) : Act ω Nat := do
  let count ← ingest index s shelf.documents
  Act.note .info author s!"Successfully ingested {count} documents"
  return count

lemma perform_ingestDocuments_of_ne (index : Index ω) (s : Splitters) (h : shelf.readable ≠ [])
    (w : ω) (journal : List Entry) :
    ∃ journal', (ingestDocuments shelf index s).perform ⟨journal, w⟩ =
      Act.continued (fun _ => refill shelf index s)
        ((index.delete (Filter.equals "type" (.text "documentation"))).perform ⟨journal', w⟩) := by
  have hdocs : shelf.documents.isEmpty = false := by
    rw [List.isEmpty_eq_false_iff]
    exact mt (documents_eq_nil_iff shelf).1 h
  simp only [ingestDocuments, Act.perform_bind, Act.perform_note, Act.continued_ok]
  obtain ⟨journal', hload⟩ := perform_loadDocuments shelf w (journal ++ _)
  rw [hload]
  simp only [Act.continued_ok, hdocs, Bool.false_eq_true, if_false, Act.perform_bind]
  exact ⟨journal', rfl⟩

/-- The chunks of the files that can be read. -/
def Splitters.chunksOn (s : Splitters) (shelf : Shelf) : List Document :=
  shelf.readable.flatMap s.chunksOf

/-- The count of the files that have chunks. -/
def Splitters.countOn (s : Splitters) (shelf : Shelf) : Nat :=
  shelf.readable.countP fun f => !(s.chunksOf f).isEmpty

lemma perform_refill {w w' : ω} {added : Except Fault Unit}
    (hadd : ∀ journal, (index.add (s.chunksOn shelf)).perform ⟨journal, w⟩ = (added, ⟨journal, w'⟩))
    (journal : List Entry) :
    ∃ journal', (refill shelf index s).perform ⟨journal, w⟩ =
      if s.chunksOn shelf = [] then (.ok (s.countOn shelf), ⟨journal', w⟩)
      else (added.map fun _ => s.countOn shelf, ⟨journal', w'⟩) := by
  have hchunks : shelf.documents.flatMap s.chunks = s.chunksOn shelf := flatMap_chunksOf s _
  have hcount : (s.full shelf.documents).length = s.countOn shelf := countP_chunksOf s _
  rw [← hchunks] at hadd ⊢
  obtain ⟨journal', hingest⟩ := perform_ingest_of_add hadd journal
  simp only [refill, Act.perform_bind, hingest, hcount]
  by_cases hnil : shelf.documents.flatMap s.chunks = []
  · simp only [if_pos hnil]
    exact ⟨_, rfl⟩
  · simp only [if_neg hnil]
    cases added with
    | error f => exact ⟨_, rfl⟩
    | ok _ => exact ⟨_, rfl⟩

/-- All that can come of the replacement of the documentation in an index whose calls can fail. -/
lemma perform_ingestDocuments_failing (s : Splitters) (h : shelf.readable ≠ [])
    (onAdd onDelete : Option Fault) (m : Memory) (journal : List Entry) :
    ∃ journal', (ingestDocuments shelf (failing onAdd onDelete) s).perform ⟨journal, m⟩ =
      match onDelete with
      | some f => (.error f, ⟨journal', m⟩)
      | none =>
        if s.chunksOn shelf = [] then (.ok (s.countOn shelf), ⟨journal', m.others⟩)
        else match onAdd with
          | some f => (.error f, ⟨journal', m.others⟩)
          | none => (.ok (s.countOn shelf), ⟨journal', m.others ++ s.chunksOn shelf⟩) := by
  obtain ⟨journal', hstart⟩ := perform_ingestDocuments_of_ne (failing onAdd onDelete) s h m journal
  rw [hstart, perform_delete_failing]
  cases onDelete with
  | some f => exact ⟨journal', rfl⟩
  | none =>
    have hadd := perform_add_failing onAdd none m.others
    cases onAdd with
    | some f => exact perform_refill (fun journal => hadd journal _) journal'
    | none => exact perform_refill (fun journal => hadd journal _) journal'

end Replacing

end Ingestion

end IncidentTriage
