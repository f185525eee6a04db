import IncidentTriage.Proofs.Index.Store
import IncidentTriage.Ingestion.Knowledge

/-!
# Taking in a batch of documents

All chunks of a batch of documents are added at once, or none of them.
-/

namespace IncidentTriage.Ingestion
open IncidentTriage.Index

/-- The documents that have a chunk. -/
def Splitters.full (s : Splitters) (docs : List Document) : List Document :=
  docs.filter fun d => !(s.chunks d).isEmpty

lemma flatMap_full (s : Splitters) (docs : List Document) :
    (s.full docs).flatMap s.chunks = docs.flatMap s.chunks := by
  induction docs with
  | nil => rfl
  | cons d rest ih =>
    rw [Splitters.full, List.filter_cons, ← Splitters.full, List.flatMap_cons]
    split
    · rw [List.flatMap_cons, ih]
    · rename_i h
      have hnil : s.chunks d = [] := by simpa using h
      rw [ih, hnil, List.nil_append]

/-- The act adds the chunks by one addition, or by none if there are no chunks, and ends with the
count if the addition is not refused. Beside that it only writes to the journal. -/
def AddsOnce {ω : Type} (index : Index ω) (chunks : List Document) (count : Nat)
    (act : Act ω Nat) : Prop :=
  ∀ scene, ∃ before after : List Entry, act.perform scene =
    if chunks = [] then (.ok count, ⟨scene.journal ++ before ++ after, scene.world⟩)
    else match (index.add chunks).perform ⟨scene.journal ++ before, scene.world⟩ with
      | (.ok _, added) => (.ok count, ⟨added.journal ++ after, added.world⟩)
      | (.error f, refused) => (.error f, refused)

lemma addsOnce_ingest {ω : Type} (index : Index ω) (s : Splitters) (docs : List Document) :
    AddsOnce index (docs.flatMap s.chunks) (s.full docs).length (ingest index s docs) := by
  have hfull : (docs.filter fun d => !(s.chunks d).isEmpty) = s.full docs := rfl
  intro scene
  simp only [ingest, List.partition_eq_filter_filter, Function.comp_def, hfull, flatMap_full,
    Act.perform_bind, Act.perform_record, Act.continued_ok]
  refine ⟨(docs.filter fun d => (s.chunks d).isEmpty).map blankEntry,
    [{ level := .info, author
       text := s!"Ingested {(s.full docs).length} documents ({(docs.flatMap s.chunks).length} chunks)" }],
    ?_⟩
  by_cases hnil : docs.flatMap s.chunks = []
  · simp only [hnil]
    rfl
  · have hne : (docs.flatMap s.chunks).isEmpty = false := by simpa using hnil
    simp only [if_neg hnil, hne, Bool.not_false, if_true, Act.perform_bind]
    rcases (index.add (docs.flatMap s.chunks)).perform _ with ⟨_ | _, added⟩ <;> rfl

/-- A batch ends as the addition of its chunks does. -/
lemma perform_ingest_of_add {ω : Type} {index : Index ω} {s : Splitters} {docs : List Document}
    {w w' : ω} {added : Except Fault Unit}
    (hadd : ∀ journal, (index.add (docs.flatMap s.chunks)).perform ⟨journal, w⟩ =
      (added, ⟨journal, w'⟩)) (journal : List Entry) :
    ∃ journal', (ingest index s docs).perform ⟨journal, w⟩ =
      if docs.flatMap s.chunks = [] then (.ok (s.full docs).length, ⟨journal', w⟩)
      else (added.map fun _ => (s.full docs).length, ⟨journal', w'⟩) := by
  obtain ⟨before, after, hperform⟩ := addsOnce_ingest index s docs ⟨journal, w⟩
  rw [hperform, hadd]
  split
  · exact ⟨_, rfl⟩
  · cases added with
    | error f => exact ⟨_, rfl⟩
    | ok _ => exact ⟨_, rfl⟩

lemma perform_ingest (s : Splitters) (docs : List Document) (scene : Scene Store) :
    ∃ journal, (ingest Store.index s docs).perform scene =
      if docs.flatMap s.chunks = [] then (.ok (s.full docs).length, ⟨journal, scene.world⟩)
      else match scene.world.refusesAdd with
        | some r => (.error r.fault, ⟨journal, scene.world⟩)
        | none => (.ok (s.full docs).length, ⟨journal,
            { scene.world with chunks := scene.world.chunks ++ docs.flatMap s.chunks }⟩) := by
  rcases scene with ⟨journal, chunks, _ | r, refusesDelete⟩
  · have hadd : ∀ journal, (Store.index.add (docs.flatMap s.chunks)).perform
        ⟨journal, ⟨chunks, none, refusesDelete⟩⟩ =
          (.ok (), ⟨journal, ⟨chunks ++ docs.flatMap s.chunks, none, refusesDelete⟩⟩) :=
      fun journal => Store.perform_add _ ⟨journal, _⟩
    exact perform_ingest_of_add hadd journal
  · have hadd : ∀ journal, (Store.index.add (docs.flatMap s.chunks)).perform
        ⟨journal, ⟨chunks, some r, refusesDelete⟩⟩ =
          (.error r.fault, ⟨journal, ⟨chunks, some r, refusesDelete⟩⟩) :=
      fun journal => Store.perform_add _ ⟨journal, _⟩
    exact perform_ingest_of_add hadd journal

end IncidentTriage.Ingestion
