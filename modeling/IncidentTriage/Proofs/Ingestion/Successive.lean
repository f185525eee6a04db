import IncidentTriage.Proofs.Ingestion.Poll
import Mathlib.Tactic.Common

/-!
# Polls one after another

A poll whose batch is refused takes nothing in, and whatever it has cleared from the index the next
poll on the same traces clears as well: that poll ends as if the failed one had not been. Two polls
that succeed come to the same end as one poll on the traces of both, since the second one clears no
chunk that the first one has added.
-/

namespace IncidentTriage

namespace Index.Memory

/-- What is removed again need not have been removed before. -/
lemma without_without_of_subset (m : Memory) {ids more : List String} (h : ids ⊆ more) :
    (m.without ids).without more = m.without more := by
  rw [without_without]
  refine List.filter_congr fun d _ => ?_
  have hany : ids.any d.belongsTo = true → more.any d.belongsTo = true := by
    simp only [List.any_eq_true]
    rintro ⟨id, hid, hd⟩
    exact ⟨id, h hid, hd⟩
  rw [List.any_append]
  cases hids : ids.any d.belongsTo with
  | false => rw [Bool.false_or]
  | true => rw [hany hids, Bool.true_or]

lemma without_append (m more : Memory) (ids : List String) :
    (m ++ more).without ids = m.without ids ++ more.without ids :=
  List.filter_append ..

/-- To remove several traces is to delete by the filter of each. -/
lemma foldlM_delete (m : Memory) (ids : List String) :
    (ids.foldlM (fun m id => m.delete (Filter.equals "traceId" (.text id))) m :
      Except Filter.Error Memory) = .ok (m.without ids) := by
  induction ids generalizing m with
  | nil => rw [List.foldlM_nil, without_nil]; rfl
  | cons id rest ih =>
    rw [List.foldlM_cons, delete_trace]
    change rest.foldlM _ (m.without [id]) = _
    rw [ih, without_without]
    rfl

end Index.Memory

namespace Ingestion
open IncidentTriage.Index

lemma narrative?_eq_none {trace : Value}
    (h : (∃ e, Narrative.ofTrace trace = .error e) ∨ Narrative.ofTrace trace = .ok none) :
    narrative? trace = none := by
  rcases h with ⟨e, he⟩ | hnone
  · rw [narrative?, he]
    rfl
  · rw [narrative?, hnone]
    rfl

lemma narratives_append (xs ys : List Value) :
    narratives (xs ++ ys) = narratives xs ++ narratives ys :=
  List.filterMap_append

lemma narratives_eq_nil {traces : List Value} (h : ∀ trace ∈ traces, narrative? trace = none) :
    narratives traces = [] :=
  List.filterMap_eq_nil_iff.2 h

/-- What one batch claims, the next one leaves alone. -/
lemma traceId_notMem_of_mem_fresh {known : Known} {ms ns : List Narrative} {m : Narrative}
    (hm : m ∈ fresh known ms) :
    m.traceId ∉ identifiers (fresh (known ++ identifiers (fresh known ms)) ns) := by
  intro hid
  have hu := (mem_identifiers.1 hid).1
  have hclaimed : m.traceId ∈ identifiers (fresh known ms) := mem_identifiers.2 ⟨hu, m, hm, rfl⟩
  exact notMem_of_mem_identifiers_fresh hid (List.mem_append_right _ hclaimed)

/-- To remove other traces leaves the chunks of narratives alone. -/
lemma without_flatMap_chunks (s : Splitters) {ns : List Narrative} {ids : List String}
    (h : ∀ n ∈ ns, n.traceId ∉ ids) :
    Memory.without (ns.flatMap fun n => s.chunks n.document) ids =
      ns.flatMap fun n => s.chunks n.document := by
  rw [Memory.without, List.filter_eq_self]
  intro d hd
  obtain ⟨n, hn, hchunk⟩ := List.mem_flatMap.1 hd
  rw [Bool.not_eq_true', List.any_eq_false]
  intro id hid
  rw [belongsTo_of_mem_chunks hchunk, beq_iff_eq]
  exact fun heq => h n hn (heq ▸ hid)

namespace Holdings

/-- A poll whose batch is not refused, be it empty or not. -/
lemma poll_none (h : Holdings) (s : Splitters) (lookback : String) (limit : Int)
    (traces : List Value) :
    let new := fresh h.known (narratives traces)
    h.poll s lookback limit traces none =
      (.ok new.length, ⟨h.known ++ identifiers new,
        h.chunks.without (identifiers new) ++ new.flatMap fun n => s.chunks n.document⟩) := by
  dsimp only
  rw [poll_eq]
  split
  · rename_i hnew
    simp [hnew, identifiers, Memory.without_nil]
  · rfl

/-- A poll sees nothing of its traces but their narratives. -/
lemma poll_congr (h : Holdings) (s : Splitters) (lookback : String) (limit : Int)
    {xs ys : List Value} (hxs : narratives xs = narratives ys) :
    h.poll s lookback limit xs none = h.poll s lookback limit ys none := by
  rw [poll_none, poll_none, hxs]

end Holdings

/-- A poll whose batch is refused raises the refusal and knows what was known before. The index has
lost the chunks of those traces that the poll claimed and whose removal was not refused, and no
others. Whichever those are, the next poll on the same traces has the answer, and leaves the
knowledge and the chunks, that it would have without the failed one. A poll that has nothing to
write is not refused and changes nothing. -/
theorem failed_poll_is_absorbed (h : Holdings) (s : Splitters) (lookback : String) (limit : Int)
    (traces : List Value) (r : Refusal) (refuses : String → Option Refusal) :
    let claimed := identifiers (fresh h.known (narratives traces))
    let failed := h.failedPoll s lookback limit traces r refuses
    (if fresh h.known (narratives traces) = [] then failed = (.ok 0, h)
      else failed.1 = .error r.fault ∧ failed.2.known = h.known ∧
        (claimed.filter (Store.permits refuses)).foldlM
          (fun m id => m.delete (Filter.equals "traceId" (.text id))) h.chunks =
            .ok failed.2.chunks) ∧
    failed.2.poll s lookback limit traces none = h.poll s lookback limit traces none := by
  intro claimed failed
  have hfailed := h.failedPoll_eq s lookback limit traces r refuses
  by_cases hnew : fresh h.known (narratives traces) = []
  · have hnothing : failed = (.ok 0, h) := hfailed.trans (if_pos hnew)
    rw [if_pos hnew, hnothing]
    exact ⟨rfl, rfl⟩
  · have hrefused : failed = (.error r.fault,
        ⟨h.known, h.chunks.without (claimed.filter (Store.permits refuses))⟩) :=
      hfailed.trans (if_neg hnew)
    rw [if_neg hnew, hrefused]
    refine ⟨⟨rfl, rfl, Memory.foldlM_delete _ _⟩, ?_⟩
    have hcleared : (h.chunks.without (claimed.filter (Store.permits refuses))).without claimed =
        h.chunks.without claimed :=
      Memory.without_without_of_subset _ (List.filter_subset_self _)
    rw [Holdings.poll_none, Holdings.poll_none, hcleared]

end Ingestion

end IncidentTriage
