import IncidentTriage.Proofs.Ingestion.Batch
import IncidentTriage.Proofs.Ingestion.Chunks
import IncidentTriage.Proofs.Ingestion.Fresh

/-!
# What a poll does

A poll claims the identifiers of its fresh narratives, clears the index of them, and adds the chunks
of all fresh narratives in one batch. When the batch is refused, the known traces are again those
from before the poll.
-/

namespace IncidentTriage.Ingestion
open IncidentTriage.Index

/-- The index after the removal of several traces. -/
def clearAll (s : Store) (ids : List String) : Store :=
  ids.foldl Store.clear s

lemma clearAll_append (s : Store) (ids more : List String) :
    clearAll s (ids ++ more) = clearAll (clearAll s ids) more :=
  List.foldl_append

lemma refusesAdd_clearAll (s : Store) (ids : List String) :
    (clearAll s ids).refusesAdd = s.refusesAdd := by
  induction ids generalizing s with
  | nil => rfl
  | cons id rest ih => rw [clearAll, List.foldl_cons, ← clearAll, ih, Store.refusesAdd_clear]

/-- Where removals are not refused, the chunks of all the traces are gone, and no others. -/
lemma chunks_clearAll {s : Store} (h : s.refusesDelete = none) (ids : List String) :
    (clearAll s ids).chunks = s.chunks.without ids := by
  induction ids generalizing s with
  | nil => rw [Memory.without_nil, clearAll, List.foldl_nil]
  | cons id rest ih =>
    have hclear : (s.clear id).refusesDelete = none := by rw [Store.refusesDelete_clear, h]
    rw [clearAll, List.foldl_cons, ← clearAll, ih hclear, Store.clear, h]
    exact Memory.without_without s.chunks [id] rest

lemma perform_claim (id : String) (scene : Scene (Known × Store)) :
    (Known.claim id).perform scene =
      if id ∈ scene.world.1 then (.ok false, scene)
      else (.ok true, { scene with world := (scene.world.1 ++ [id], scene.world.2) }) := by
  simp only [Known.claim, Act.perform_bind, Act.perform_own, Act.continued_ok, List.contains_eq_mem,
    decide_eq_true_eq]
  split
  · rfl
  · rename_i h
    simp [Known.mark, h, Except.map]

lemma perform_prepareReplacement (id : String) (scene : Scene (Known × Store)) :
    ∃ journal, (Known.prepareReplacement Store.index id).perform scene =
      (.ok (), ⟨journal, (scene.world.1, scene.world.2.clear id)⟩) := by
  rw [Known.prepareReplacement, Act.perform_rescue, Act.perform_outside, Store.perform_delete]
  cases h : scene.world.2.refusesDelete with
  | none => exact ⟨_, rfl⟩
  | some r => exact ⟨_, by simp only [Act.rescued_error, r.isCatchable]; rfl⟩

section Refusing

variable (refuses : String → Option Refusal)

/-- Before a trace is replaced its chunks are removed, unless the index refuses that. -/
lemma perform_prepareReplacement_refusing (id : String) (scene : Scene (Known × Store)) :
    ∃ journal, (Known.prepareReplacement (Store.refusing refuses) id).perform scene =
      (.ok (), ⟨journal, (scene.world.1,
        clearAll scene.world.2 ([id].filter (Store.permits refuses)))⟩) := by
  cases h : Store.permits refuses id with
  | true =>
    rw [List.filter_cons_of_pos h, List.filter_nil, Known.prepareReplacement,
      Store.delete_of_permits h]
    exact perform_prepareReplacement id scene
  | false =>
    obtain ⟨r, hr⟩ := Store.perform_delete_of_not_permits h ⟨scene.journal, scene.world.2⟩
    rw [List.filter_cons_of_neg (by simp [h]), List.filter_nil, Known.prepareReplacement,
      Act.perform_rescue, Act.perform_outside, hr, Act.rescued_error, if_pos r.isCatchable]
    exact ⟨_, rfl⟩

lemma perform_gatherTrace (g : Gathered) (trace : Value) (scene : Scene (Known × Store)) :
    ∃ journal, (gatherTrace (Store.refusing refuses) g trace).perform scene =
      match narrative? trace with
      | none => (.ok g, ⟨journal, scene.world⟩)
      | some n => (gatherNarrative (Store.refusing refuses) g n).perform scene := by
  rw [gatherTrace, narrative?]
  rcases Narrative.ofTrace trace with e | _ | n
  · exact ⟨_, rfl⟩
  · exact ⟨scene.journal, rfl⟩
  · exact ⟨scene.journal, rfl⟩

/-- A narrative of the poll is gathered if it is fresh, and its trace, if it has an identifier of
its own, is then claimed and, as far as the index permits it, cleared. -/
lemma perform_gatherNarrative (g : Gathered) (n : Narrative) (scene : Scene (Known × Store)) :
    let new := fresh scene.world.1 [n]
    ∃ journal skipped, (gatherNarrative (Store.refusing refuses) g n).perform scene =
      (.ok ⟨g.documents ++ new.map (·.document), g.claimed ++ identifiers new, skipped⟩,
        ⟨journal, (scene.world.1 ++ identifiers new,
          clearAll scene.world.2 ((identifiers new).filter (Store.permits refuses)))⟩) := by
  dsimp only
  rw [gatherNarrative, fresh, fresh, fresh]
  by_cases hu : n.traceId = unknownId
  · rw [if_pos hu, if_pos hu, identifiers_cons_unknown hu]
    exact ⟨scene.journal, g.skipped,
      by simp [Gathered.addNarrative, Narrative.document, identifiers, clearAll]⟩
  · rw [if_neg hu, if_neg hu]
    simp only [Act.perform_bind, perform_claim]
    by_cases hk : n.traceId ∈ scene.world.1
    · rw [if_pos hk, if_pos hk]
      exact ⟨scene.journal, g.skipped + 1, by simp [Gathered.addSkip, identifiers, clearAll]⟩
    · rw [if_neg hk, if_neg hk, identifiers_cons hu]
      obtain ⟨journal, hprepare⟩ := perform_prepareReplacement_refusing refuses n.traceId
        ⟨scene.journal, (scene.world.1 ++ [n.traceId], scene.world.2)⟩
      refine ⟨journal, g.skipped, ?_⟩
      simp only [Act.continued_ok, if_true, Act.perform_bind, hprepare]
      rfl

/-- A poll gathers the fresh narratives, claims them and clears the index of those whose removal is
not refused. -/
lemma perform_gather (g : Gathered) (traces : List Value) (scene : Scene (Known × Store)) :
    let new := fresh scene.world.1 (narratives traces)
    ∃ journal skipped, (gather (Store.refusing refuses) g traces).perform scene =
      (.ok ⟨g.documents ++ new.map (·.document), g.claimed ++ identifiers new, skipped⟩,
        ⟨journal, (scene.world.1 ++ identifiers new,
          clearAll scene.world.2 ((identifiers new).filter (Store.permits refuses)))⟩) := by
  dsimp only
  induction traces generalizing g scene with
  | nil => exact ⟨scene.journal, g.skipped, by simp [gather, narratives, fresh, identifiers, clearAll]⟩
  | cons trace rest ih =>
    obtain ⟨journal, htrace⟩ := perform_gatherTrace refuses g trace scene
    rw [gather, Act.perform_bind, htrace, narratives]
    cases hn : narrative? trace with
    | none =>
      rw [List.filterMap_cons_none hn]
      exact ih g ⟨journal, scene.world⟩
    | some n =>
      obtain ⟨journal', skipped, hnarrative⟩ := perform_gatherNarrative refuses g n scene
      rw [List.filterMap_cons_some hn, ← narratives, ← List.singleton_append, fresh_append,
        identifiers_append, List.filter_append, clearAll_append, List.map_append,
        ← List.append_assoc, ← List.append_assoc, ← List.append_assoc]
      dsimp only
      rw [hnarrative]
      exact ih _ _

end Refusing

lemma perform_releaseAll (ids : List String) (scene : Scene (Known × Store)) :
    (releaseAll ids).perform scene =
      (.ok (), { scene with
        world := (scene.world.1.filter fun id => !ids.contains id, scene.world.2) }) := by
  induction ids generalizing scene with
  | nil => simp [releaseAll]
  | cons id rest ih =>
    rw [releaseAll, Act.perform_bind, Known.releaseNow, Act.perform_modifyOwn, Act.continued_ok, ih]
    dsimp only
    rw [filter_release]

lemma chunks_fresh_ne_nil (s : Splitters) {known : Known} {traces : List Value} {n : Narrative}
    (h : n ∈ fresh known (narratives traces)) : s.chunks n.document ≠ [] := by
  obtain ⟨trace, -, htrace⟩ := exists_of_mem_narratives (mem_of_mem_fresh h)
  exact (isWhole_chunks s htrace).nonempty

/-- All narratives of a poll have chunks. -/
lemma full_fresh (s : Splitters) (known : Known) (traces : List Value) :
    s.full ((fresh known (narratives traces)).map (·.document)) =
      (fresh known (narratives traces)).map (·.document) := by
  rw [Splitters.full, List.filter_eq_self]
  intro d hd
  obtain ⟨n, hn, rfl⟩ := List.mem_map.1 hd
  simpa using chunks_fresh_ne_nil s hn

lemma flatMap_fresh_eq_nil (s : Splitters) (known : Known) (traces : List Value) :
    ((fresh known (narratives traces)).map (·.document)).flatMap s.chunks = [] ↔
      fresh known (narratives traces) = [] := by
  constructor
  · intro h
    rw [List.flatMap_eq_nil_iff] at h
    rw [List.eq_nil_iff_forall_not_mem]
    exact fun n hn => chunks_fresh_ne_nil s hn (h _ (List.mem_map_of_mem hn))
  · intro h
    rw [h]
    rfl

/-- The batch of a poll is added as a whole, or refused and all claims of the poll released. -/
lemma perform_write (refuses : String → Option Refusal) (s : Splitters) (g : Gathered)
    (scene : Scene (Known × Store)) (hchunks : g.documents.flatMap s.chunks ≠ []) :
    ∃ journal, (write (Store.refusing refuses) s g).perform scene =
      match scene.world.2.refusesAdd with
      | some r => (.error r.fault,
          ⟨journal, (scene.world.1.filter fun id => !g.claimed.contains id, scene.world.2)⟩)
      | none => (.ok (s.full g.documents).length, ⟨journal, (scene.world.1,
          { scene.world.2 with chunks := scene.world.2.chunks ++ g.documents.flatMap s.chunks })⟩) := by
  have hadd : ingest (Store.refusing refuses) s g.documents = ingest Store.index s g.documents := rfl
  simp only [write, hadd, Act.perform_bind, Act.perform_note, Act.continued_ok, Act.perform_rescue,
    Act.perform_outside]
  generalize scene.journal ++ [_] = noted
  obtain ⟨journal, hingest⟩ := perform_ingest s g.documents ⟨noted, scene.world.2⟩
  rw [hingest, if_neg hchunks]
  dsimp only
  cases scene.world.2.refusesAdd with
  | none => exact ⟨_, rfl⟩
  | some r =>
    refine ⟨journal, ?_⟩
    simp only [Act.rescued_error, r.isCatchable, if_true, Act.perform_bind, perform_releaseAll,
      Act.continued_ok, Act.perform_throw, Act.continued_error]

/-- A poll adds the chunks of its fresh narratives in one batch and answers with their number. When
the batch is refused nothing is known that was not known before. -/
theorem perform_ingestTraces (refuses : String → Option Refusal) (s : Splitters) (lookback : String)
    (limit : Int) (traces : List Value) (scene : Scene (Known × Store)) :
    let new := fresh scene.world.1 (narratives traces)
    let cleared := clearAll scene.world.2 ((identifiers new).filter (Store.permits refuses))
    ∃ journal, (ingestTraces (fun _ _ => return traces) (Store.refusing refuses) s lookback
        limit).perform scene =
      if new = [] then (.ok 0, ⟨journal, scene.world⟩)
      else match scene.world.2.refusesAdd with
        | some r => (.error r.fault, ⟨journal, (scene.world.1, cleared)⟩)
        | none => (.ok new.length, ⟨journal, (scene.world.1 ++ identifiers new,
            { cleared with
              chunks := cleared.chunks ++ new.flatMap fun n => s.chunks n.document })⟩) := by
  dsimp only
  simp only [ingestTraces, Act.perform_bind, Act.perform_note, Act.continued_ok, Act.perform_pure]
  unfold ingestFetched
  cases traces with
  | nil => exact ⟨_, rfl⟩
  | cons trace rest =>
    obtain ⟨journal, skipped, hgather⟩ := perform_gather refuses {} (trace :: rest)
      ⟨scene.journal ++ [{
        level := .info, author,
        text := s!"Starting telemetry ingestion (lookback: {lookback}, limit: {limit})" }],
        scene.world⟩
    simp only [List.nil_append] at hgather
    simp only [List.isEmpty_cons, Bool.false_eq_true, if_false, Act.perform_bind, hgather,
      Act.continued_ok]
    obtain ⟨journal', hnote⟩ := Act.perform_noteIf (skipped ≠ 0) .info author
      s!"Skipped {skipped} duplicate traces (already embedded)" _ _
    rw [hnote]
    by_cases hnew : fresh scene.world.1 (narratives (trace :: rest)) = []
    · simp only [hnew, identifiers, clearAll, List.map_nil, List.filter_nil, List.append_nil,
        List.foldl_nil, List.isEmpty_nil, if_true]
      exact ⟨_, rfl⟩
    · have hne : ((fresh scene.world.1 (narratives (trace :: rest))).map (·.document)).isEmpty =
          false := by simpa using hnew
      have hchunks := mt (flatMap_fresh_eq_nil s scene.world.1 (trace :: rest)).1 hnew
      obtain ⟨journal'', hwrite⟩ := perform_write refuses s
        ⟨_, identifiers (fresh scene.world.1 (narratives (trace :: rest))), skipped⟩ _ hchunks
      simp only [hne, Bool.false_eq_true, if_false, if_neg hnew]
      refine ⟨journal'', ?_⟩
      rw [hwrite]
      simp only [refusesAdd_clearAll, full_fresh, filter_known_append, List.length_map,
        List.flatMap_map]

/-- What a process knows, and what the index holds. -/
structure Holdings where
  known : Known
  chunks : Memory

namespace Holdings

/-- The end of an act on what is known and on an index that may refuse batches, and what it leaves
behind. -/
def perform {α : Type} (h : Holdings) (refusal : Option Refusal) (act : Act (Known × Store) α) :
    Except Fault α × Holdings :=
  let (answer, scene) := act.perform ⟨[], (h.known, { chunks := h.chunks, refusesAdd := refusal })⟩
  (answer, ⟨scene.world.1, scene.world.2.chunks⟩)

/-- A poll that finds the given traces. -/
def poll (h : Holdings) (s : Splitters) (lookback : String) (limit : Int) (traces : List Value)
    (refusal : Option Refusal) : Except Fault Nat × Holdings :=
  h.perform refusal (ingestTraces (fun _ _ => return traces) Store.index s lookback limit)

/-- A poll whose batch is refused, as are the removals by some filters. -/
def failedPoll (h : Holdings) (s : Splitters) (lookback : String) (limit : Int)
    (traces : List Value) (r : Refusal) (refuses : String → Option Refusal) :
    Except Fault Nat × Holdings :=
  h.perform (some r)
    (ingestTraces (fun _ _ => return traces) (Store.refusing refuses) s lookback limit)

lemma failedPoll_eq (h : Holdings) (s : Splitters) (lookback : String) (limit : Int)
    (traces : List Value) (r : Refusal) (refuses : String → Option Refusal) :
    let new := fresh h.known (narratives traces)
    h.failedPoll s lookback limit traces r refuses =
      if new = [] then (.ok 0, h)
      else (.error r.fault,
        ⟨h.known, h.chunks.without ((identifiers new).filter (Store.permits refuses))⟩) := by
  dsimp only
  obtain ⟨journal, hpoll⟩ := perform_ingestTraces refuses s lookback limit traces
    ⟨[], (h.known, { chunks := h.chunks, refusesAdd := some r })⟩
  rw [failedPoll, perform, hpoll]
  dsimp only
  split
  · rfl
  · simp only [chunks_clearAll]

/-- The answer of a poll and what it leaves behind. -/
lemma poll_eq (h : Holdings) (s : Splitters) (lookback : String) (limit : Int) (traces : List Value)
    (refusal : Option Refusal) :
    let new := fresh h.known (narratives traces)
    h.poll s lookback limit traces refusal =
      if new = [] then (.ok 0, h)
      else match refusal with
        | some r => (.error r.fault, ⟨h.known, h.chunks.without (identifiers new)⟩)
        | none => (.ok new.length, ⟨h.known ++ identifiers new,
            h.chunks.without (identifiers new) ++ new.flatMap fun n => s.chunks n.document⟩) := by
  dsimp only
  obtain ⟨journal, hpoll⟩ := perform_ingestTraces (fun _ => none) s lookback limit traces
    ⟨[], (h.known, { chunks := h.chunks, refusesAdd := refusal })⟩
  have hall : ∀ ids : List String, ids.filter (Store.permits fun _ => none) = ids :=
    fun ids => List.filter_eq_self.2 fun _ _ => rfl
  rw [Store.refusing_none, hall] at hpoll
  rw [poll, perform, hpoll]
  dsimp only
  split
  · rfl
  · cases refusal <;> simp only [chunks_clearAll]

end Holdings

end IncidentTriage.Ingestion
