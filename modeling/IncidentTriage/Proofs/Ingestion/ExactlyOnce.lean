import IncidentTriage.Proofs.Ingestion.Poll
import Mathlib.Data.List.Induction

/-!
# Exactly-once indexing

A process polls for traces again and again, may find its batches refused, and may be restarted,
which makes it forget what it knows while the index keeps its chunks. Whatever the index held at
first, the chunks of a known trace are always the pieces of one narrative: the one of the poll that
claimed the trace.
-/

namespace IncidentTriage.Ingestion
open IncidentTriage.Chunk IncidentTriage.Index

inductive Turn
  | poll (lookback : String) (limit : Int) (traces : List Value) (refusal : Option Refusal)
  | restart

def Holdings.after (s : Splitters) (h : Holdings) : Turn → Holdings
  | .poll lookback limit traces refusal => (h.poll s lookback limit traces refusal).2
  | .restart => { h with known := [] }

/-- What a new process and an index with the given chunks have come to after some turns. -/
def Holdings.run (s : Splitters) (chunks : Memory) (turns : List Turn) : Holdings :=
  turns.foldl (Holdings.after s) ⟨[], chunks⟩

namespace Holdings

lemma run_append_singleton (s : Splitters) (chunks : Memory) (turns : List Turn) (turn : Turn) :
    run s chunks (turns ++ [turn]) = (run s chunks turns).after s turn := by
  rw [run, List.foldl_append]
  rfl

lemma mem_known_poll (h : Holdings) (s : Splitters) (lookback : String) (limit : Int)
    (traces : List Value) (refusal : Option Refusal) (id : String) :
    id ∈ (h.poll s lookback limit traces refusal).2.known ↔
      id ∈ h.known ∨ refusal = none ∧ id ∈ identifiers (fresh h.known (narratives traces)) := by
  rw [poll_eq]
  by_cases hnew : fresh h.known (narratives traces) = []
  · rw [if_pos hnew, hnew]
    simp [identifiers]
  · rw [if_neg hnew]
    cases refusal with
    | none => simp
    | some r => simp

/-- A poll leaves the chunks of known traces alone. -/
lemma filter_poll_of_mem (h : Holdings) (s : Splitters) (lookback : String) (limit : Int)
    (traces : List Value) (refusal : Option Refusal) {id : String} (hu : id ≠ unknownId)
    (hk : id ∈ h.known) :
    (h.poll s lookback limit traces refusal).2.chunks.filter (·.belongsTo id) =
      h.chunks.filter (·.belongsTo id) := by
  have hid : id ∉ identifiers (fresh h.known (narratives traces)) :=
    fun hid => notMem_of_mem_identifiers_fresh hid hk
  rw [poll_eq]
  split
  · rfl
  · cases refusal with
    | some r => exact Memory.filter_without_of_notMem h.chunks hid
    | none =>
      dsimp only
      rw [List.filter_append, Memory.filter_without_of_notMem h.chunks hid, filter_flatMap_chunks,
        filter_fresh_of_mem _ hu hk, List.flatMap_nil, List.append_nil]

/-- Of a trace that a poll claims, the index then holds the chunks of the poll's first narrative. -/
lemma filter_poll_of_claimed (h : Holdings) (s : Splitters) (lookback : String) (limit : Int)
    (traces : List Value) {id : String}
    (hid : id ∈ identifiers (fresh h.known (narratives traces))) :
    ∃ n, (narratives traces).find? (·.traceId == id) = some n ∧
      (h.poll s lookback limit traces none).2.chunks.filter (·.belongsTo id) =
        s.chunks n.document := by
  obtain ⟨hu, hk, n, hn⟩ := mem_identifiers_fresh.1 hid
  have hnew : fresh h.known (narratives traces) ≠ [] := by
    intro hnil
    rw [hnil] at hid
    exact List.not_mem_nil hid
  refine ⟨n, hn, ?_⟩
  rw [poll_eq, if_neg hnew]
  dsimp only
  rw [List.filter_append, Memory.filter_without_of_mem h.chunks hid, filter_flatMap_chunks,
    filter_fresh _ hu hk, hn]
  simp

end Holdings

/-- Since the last restart some poll claimed the trace, which was not known before, and the chunks
stored of the trace are the whole of the first narrative that this poll found of it. -/
def IndexedOnce (s : Splitters) (chunks : Memory) (turns : List Turn) (id : String) : Prop :=
  ∃ earlier lookback limit traces later n,
    turns = earlier ++ .poll lookback limit traces none :: later ∧ .restart ∉ later ∧
      id ∉ (Holdings.run s chunks earlier).known ∧
      (narratives traces).find? (·.traceId == id) = some n ∧
      s.IsWhole n ((Holdings.run s chunks turns).chunks.filter (·.belongsTo id))

lemma IndexedOnce.poll {s : Splitters} {chunks : Memory} {turns : List Turn} {id : String}
    (hid : IndexedOnce s chunks turns id) (hu : id ≠ unknownId)
    (hk : id ∈ (Holdings.run s chunks turns).known) (lookback : String) (limit : Int)
    (traces : List Value) (refusal : Option Refusal) :
    IndexedOnce s chunks (turns ++ [.poll lookback limit traces refusal]) id := by
  obtain ⟨earlier, lookback', limit', traces', later, n, hturns, hlater, hnew, hn, hwhole⟩ := hid
  refine ⟨earlier, lookback', limit', traces', later ++ [.poll lookback limit traces refusal], n,
    by rw [hturns, List.append_assoc, List.cons_append], by simp [hlater], hnew, hn, ?_⟩
  rw [Holdings.run_append_singleton, Holdings.after,
    Holdings.filter_poll_of_mem _ s lookback limit traces refusal hu hk]
  exact hwhole

lemma indexedOnce_of_claimed (s : Splitters) (chunks : Memory) (turns : List Turn)
    (lookback : String) (limit : Int) (traces : List Value) {id : String}
    (hid : id ∈ identifiers (fresh (Holdings.run s chunks turns).known (narratives traces))) :
    IndexedOnce s chunks (turns ++ [.poll lookback limit traces none]) id := by
  obtain ⟨n, hn, hchunks⟩ := Holdings.filter_poll_of_claimed _ s lookback limit traces hid
  obtain ⟨trace, -, htrace⟩ := exists_of_mem_narratives (List.mem_of_find?_eq_some hn)
  refine ⟨turns, lookback, limit, traces, [], n, rfl, List.not_mem_nil,
    (mem_identifiers_fresh.1 hid).2.1, hn, ?_⟩
  rw [Holdings.run_append_singleton, Holdings.after, hchunks]
  exact isWhole_chunks s htrace

/-- What is known has an identifier of its own, and is indexed once. -/
lemma indexedOnce_of_mem_known (s : Splitters) (chunks : Memory) (turns : List Turn) {id : String}
    (hid : id ∈ (Holdings.run s chunks turns).known) :
    id ≠ unknownId ∧ IndexedOnce s chunks turns id := by
  induction turns using List.reverseRecOn with
  | nil => exact absurd hid List.not_mem_nil
  | append_singleton turns turn ih =>
    rw [Holdings.run_append_singleton] at hid
    cases turn with
    | restart => exact absurd hid List.not_mem_nil
    | poll lookback limit traces refusal =>
      rw [Holdings.after, Holdings.mem_known_poll] at hid
      rcases hid with hid | ⟨rfl, hid⟩
      · exact ⟨(ih hid).1, (ih hid).2.poll (ih hid).1 hid lookback limit traces refusal⟩
      · exact ⟨(mem_identifiers_fresh.1 hid).1,
          indexedOnce_of_claimed s chunks turns lookback limit traces hid⟩

/-- After any turns, every known trace is indexed exactly once, with the narrative of the poll that
claimed it. A poll that follows then answers with the number of narratives whose chunks it has
added, or has its batch refused and knows no more than before. -/
theorem known_traces_indexed_once (s : Splitters) (chunks : Memory) (turns : List Turn) :
    (∀ id ∈ (Holdings.run s chunks turns).known,
      id ≠ unknownId ∧ IndexedOnce s chunks turns id) ∧
    ∀ lookback limit traces refusal,
      let before := Holdings.run s chunks turns
      let stored := fresh before.known (narratives traces)
      let kept := before.chunks.without (identifiers stored)
      match before.poll s lookback limit traces refusal with
      | (.ok count, after) => count = stored.length ∧
          after.known = before.known ++ identifiers stored ∧
          after.chunks = kept ++ stored.flatMap fun n => s.chunks n.document
      | (.error f, after) => (∃ r, refusal = some r ∧ f = r.fault) ∧ stored ≠ [] ∧
          after = ⟨before.known, kept⟩ := by
  refine ⟨fun id hid => indexedOnce_of_mem_known s chunks turns hid, ?_⟩
  intro lookback limit traces refusal before stored kept
  have hpoll := before.poll_eq s lookback limit traces refusal
  dsimp only at hpoll
  rw [hpoll]
  by_cases hnew : stored = []
  · rw [if_pos hnew]
    simp [kept, hnew, identifiers, Memory.without_nil]
  · rw [if_neg hnew]
    cases refusal with
    | none => exact ⟨rfl, rfl, rfl⟩
    | some r => exact ⟨⟨r, rfl, rfl⟩, hnew, rfl⟩

end IncidentTriage.Ingestion
