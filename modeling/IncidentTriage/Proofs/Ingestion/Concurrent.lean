import IncidentTriage.Proofs.Ingestion.Interleaving
import Mathlib.Data.List.Induction

/-!
# Polls at the same time

However the steps of several polls fall, what a poll holds was claimed by it last and has not been
written, so that nobody else can claim it, clear it, write it or release it. What has been written
was written once, and nothing of it is removed or added later.
-/

namespace IncidentTriage.Ingestion
open IncidentTriage.Index

namespace Polls

/-- One batch alone contained chunks of the trace, and these are what the index holds of it: the
whole of one narrative. -/
def WrittenOnce (s : Splitters) (p : Polls) (id : String) : Prop :=
  ∃ batch n trace, batchesOf p.history id = [batch] ∧
    p.holdings.chunks.filter (·.belongsTo id) = batch.filter (·.belongsTo id) ∧
    Narrative.ofTrace trace = .ok (some n) ∧ n.traceId = id ∧
    s.IsWhole n (batch.filter (·.belongsTo id))

lemma WrittenOnce.of_same {s : Splitters} {p q : Polls} {id : String} (h : WrittenOnce s p id)
    (hbatches : batchesOf q.history id = batchesOf p.history id)
    (hchunks : q.holdings.chunks.filter (·.belongsTo id) =
      p.holdings.chunks.filter (·.belongsTo id)) : WrittenOnce s q id := by
  obtain ⟨batch, n, trace, hbatch, hstored, hwhole⟩ := h
  exact ⟨batch, n, trace, hbatches.trans hbatch, hchunks.trans hstored, hwhole⟩

/-- What a run holds is known, was claimed by it last and has not been written; nothing is left in
the index of what it has cleared; what has been written was written once. Only what the releasing
run claimed last has been released. -/
structure Sound (s : Splitters) (p : Polls) : Prop where
  wellFormed : ∀ phase ∈ p.runs, phase.WellFormed
  own : ∀ i, unknownId ∉ p.held i
  known_iff : ∀ id, id ≠ unknownId →
    (id ∈ p.holdings.known ↔ (∃ i, id ∈ p.held i) ∨ batchesOf p.history id ≠ [])
  claimed : ∀ i, ∀ id ∈ p.held i, lastClaim p.history id = some i
  unwritten : ∀ i, ∀ id ∈ p.held i, batchesOf p.history id = []
  cleared : ∀ i, ∀ id ∈ p.clearedIds i, p.holdings.chunks.filter (·.belongsTo id) = []
  written : ∀ id, id ≠ unknownId → batchesOf p.history id ≠ [] → WrittenOnce s p id
  released : ∀ before i id later, p.history = before ++ (i, .released id) :: later →
    lastClaim before id = some i

lemma released_concat {history : List (Nat × Deed)} {i : Nat} {deed : Deed}
    (hhistory : ∀ before j id later, history = before ++ (j, .released id) :: later →
      lastClaim before id = some j)
    (hdeed : ∀ id, deed = .released id → lastClaim history id = some i)
    (before : List (Nat × Deed)) (j : Nat) (id : String) (later : List (Nat × Deed))
    (hsplit : history ++ [(i, deed)] = before ++ (j, .released id) :: later) :
    lastClaim before id = some j := by
  cases later using List.reverseRecOn with
  | nil =>
    obtain ⟨rfl, hlast⟩ := List.append_inj' hsplit rfl
    rw [List.singleton_inj, Prod.mk.injEq] at hlast
    rw [hdeed id hlast.2, hlast.1]
  | append_singleton later last =>
    rw [← List.cons_append, ← List.append_assoc] at hsplit
    exact hhistory before j id later (List.append_inj' hsplit rfl).1

section Sound

variable {s : Splitters} {p : Polls} {i : Nat} {phase next : Phase}

lemma Sound.known_of_held (hs : Sound s p) {j : Nat} {id : String} (hid : id ∈ p.held j) :
    id ∈ p.holdings.known :=
  (hs.known_iff id fun hu => hs.own j (hu ▸ hid)).2 (.inl ⟨j, hid⟩)

/-- No trace is held by two runs. -/
lemma Sound.exclusive (hs : Sound s p) {j k : Nat} {id : String} (hj : id ∈ p.held j)
    (hk : id ∈ p.held k) : j = k :=
  Option.some.inj ((hs.claimed j id hj).symm.trans (hs.claimed k id hk))

lemma Sound.held_of_cleared (_ : Sound s p) {j : Nat} {id : String} (hid : id ∈ p.clearedIds j) :
    id ∈ p.held j := by
  unfold clearedIds at hid
  unfold held
  cases hj : p.runs[j]? with
  | none => rw [hj] at hid; exact absurd hid List.not_mem_nil
  | some phase =>
    rw [hj] at hid
    exact phase.clearedIds_subset hid

lemma Sound.wellFormed_advance (hs : Sound s p) (i : Nat) {next : Progress}
    (hwf : next.phase.WellFormed) : ∀ phase ∈ (p.advance i next).runs, phase.WellFormed := by
  intro phase hphase
  rcases List.mem_or_eq_of_mem_set hphase with hphase | rfl
  · exact hs.wellFormed phase hphase
  · exact hwf

lemma Sound.quiet (hs : Sound s p) (hi : p.runs[i]? = some phase) (hwf : next.WellFormed)
    (hheld : next.held = phase.held) (hcleared : next.clearedIds ⊆ phase.clearedIds) :
    Sound s (p.advance i ⟨p.holdings, next, none⟩) := by
  have hheld' : ∀ j, (p.advance i ⟨p.holdings, next, none⟩).held j = p.held j :=
    held_advance_same hi hheld
  constructor
  case wellFormed => exact hs.wellFormed_advance i hwf
  case own => simpa only [hheld'] using hs.own
  case known_iff => simpa only [hheld', history_advance_none, holdings_advance] using hs.known_iff
  case claimed => simpa only [hheld', history_advance_none] using hs.claimed
  case unwritten => simpa only [hheld', history_advance_none] using hs.unwritten
  case cleared =>
    intro j id hid
    exact hs.cleared j id (mem_clearedIds_of_advance hi hcleared hid)
  case written =>
    intro id hid hwritten
    rw [history_advance_none] at hwritten
    exact (hs.written id hid hwritten).of_same (by rw [history_advance_none]) rfl
  case released => simpa only [history_advance_none] using hs.released

/-- A claim of a trace that is not known is sound. -/
lemma Sound.claims (hs : Sound s p) (hi : p.runs[i]? = some phase) (hwf : next.WellFormed)
    {id : String} (hid : id ≠ unknownId) (hknown : id ∉ p.holdings.known)
    (hheld : next.held = phase.held ++ [id]) (hcleared : next.clearedIds ⊆ phase.clearedIds) :
    Sound s (p.advance i
      ⟨⟨p.holdings.known ++ [id], p.holdings.chunks⟩, next, some (.claimed id)⟩) := by
  have hmem : ∀ j x, x ∈ (p.advance i ⟨⟨p.holdings.known ++ [id], p.holdings.chunks⟩, next,
      some (.claimed id)⟩).held j ↔ x ∈ p.held j ∨ j = i ∧ x ∈ [id] :=
    mem_held_advance hi hheld
  have hbatches : ∀ x, batchesOf (p.history ++ [(i, .claimed id)]) x = batchesOf p.history x :=
    batchesOf_concat p.history i (by simp)
  have hunwritten : batchesOf p.history id = [] := by
    by_contra hne
    exact hknown ((hs.known_iff id hid).2 (.inr hne))
  constructor
  case wellFormed => exact hs.wellFormed_advance i hwf
  case own =>
    intro j hj
    rcases (hmem j _).1 hj with hj | ⟨-, hj⟩
    · exact hs.own j hj
    · exact hid (List.mem_singleton.1 hj).symm
  case known_iff =>
    intro x hx
    simp only [holdings_advance, history_advance_some, hbatches, hmem, List.mem_append,
      List.mem_singleton, hs.known_iff x hx, exists_or, exists_eq_left]
    exact or_right_comm
  case claimed =>
    intro j x hx
    rw [history_advance_some]
    rcases (hmem j x).1 hx with hold | ⟨hj, hnew⟩
    · rw [lastClaim_concat]
      · exact hs.claimed j x hold
      · rintro ⟨rfl⟩
        exact hknown (hs.known_of_held hold)
    · rw [List.mem_singleton.1 hnew, hj]
      exact lastClaim_claimed p.history i id
  case unwritten =>
    intro j x hx
    rw [history_advance_some, hbatches]
    rcases (hmem j x).1 hx with hold | ⟨-, hnew⟩
    · exact hs.unwritten j x hold
    · rw [List.mem_singleton.1 hnew]
      exact hunwritten
  case cleared =>
    intro j x hx
    exact hs.cleared j x (mem_clearedIds_of_advance hi hcleared hx)
  case written =>
    intro x hx hwritten
    rw [history_advance_some, hbatches] at hwritten
    exact (hs.written x hx hwritten).of_same (hbatches x) rfl
  case released => exact released_concat hs.released (by simp)

/-- The removal of a trace that its run holds is sound. -/
lemma Sound.clears (hs : Sound s p) (hi : p.runs[i]? = some phase) (hwf : next.WellFormed)
    {id : String} (hid : id ∈ phase.held) (hheld : next.held = phase.held)
    (hcleared : next.clearedIds = phase.clearedIds ++ [id]) :
    Sound s (p.advance i
      ⟨⟨p.holdings.known, p.holdings.chunks.without [id]⟩, next, some (.cleared id)⟩) := by
  have hheld' : ∀ j, (p.advance i
      ⟨⟨p.holdings.known, p.holdings.chunks.without [id]⟩, next, some (.cleared id)⟩).held j =
        p.held j := held_advance_same hi hheld
  have hbatches : ∀ x, batchesOf (p.history ++ [(i, .cleared id)]) x = batchesOf p.history x :=
    batchesOf_concat p.history i (by simp)
  have hunwritten : batchesOf p.history id = [] :=
    hs.unwritten i id (held_of_getElem? hi ▸ hid)
  have hother : ∀ x, x ≠ id → (p.holdings.chunks.without [id]).filter (·.belongsTo x) =
      p.holdings.chunks.filter (·.belongsTo x) := by
    intro x hx
    exact Memory.filter_without_of_notMem _ (by simpa using hx)
  constructor
  case wellFormed => exact hs.wellFormed_advance i hwf
  case own => simpa only [hheld'] using hs.own
  case known_iff =>
    simpa only [hheld', hbatches, history_advance_some, holdings_advance] using hs.known_iff
  case claimed =>
    intro j x hx
    rw [history_advance_some, lastClaim_concat _ _ (by simp)]
    exact hs.claimed j x (hheld' j ▸ hx)
  case unwritten => simpa only [hheld', hbatches, history_advance_some] using hs.unwritten
  case cleared =>
    intro j x hx
    rw [holdings_advance]
    by_cases hxid : x = id
    · rw [hxid]
      exact Memory.filter_without_of_mem _ (List.mem_singleton_self id)
    · rw [hother x hxid]
      rw [clearedIds_advance hi] at hx
      split at hx
      · rw [hcleared, List.mem_append, List.mem_singleton, or_iff_left hxid] at hx
        exact hs.cleared i x (clearedIds_of_getElem? hi ▸ hx)
      · exact hs.cleared j x hx
  case written =>
    intro x hx hwritten
    rw [history_advance_some, hbatches] at hwritten
    have hxid : x ≠ id := fun h => hwritten (h ▸ hunwritten)
    exact (hs.written x hx hwritten).of_same (hbatches x) (hother x hxid)
  case released => exact released_concat hs.released (by simp)

/-- The release of a trace that its run holds is sound. -/
lemma Sound.releases (hs : Sound s p) (hi : p.runs[i]? = some phase) (hwf : next.WellFormed)
    {id : String} (hheld : phase.held = id :: next.held) (hcleared : next.clearedIds = []) :
    Sound s (p.advance i
      ⟨⟨p.holdings.known.release id, p.holdings.chunks⟩, next, some (.released id)⟩) := by
  have hid : id ∈ p.held i := by
    rw [held_of_getElem? hi, hheld]
    exact List.mem_cons_self
  have hgone : id ∉ next.held := by
    have hnodup := (hs.wellFormed phase (List.mem_of_getElem? hi)).nodup
    rw [hheld, List.nodup_cons] at hnodup
    exact hnodup.1
  have hbatches : ∀ x, batchesOf (p.history ++ [(i, .released id)]) x = batchesOf p.history x :=
    batchesOf_concat p.history i (by simp)
  have hmem : ∀ j x, x ∈ (p.advance i ⟨⟨p.holdings.known.release id, p.holdings.chunks⟩, next,
      some (.released id)⟩).held j ↔ x ∈ p.held j ∧ x ≠ id := by
    intro j x
    rw [held_advance hi]
    split
    · rename_i hj
      rw [hj, held_of_getElem? hi, hheld, List.mem_cons]
      constructor
      · exact fun hx => ⟨.inr hx, fun h => hgone (h ▸ hx)⟩
      · exact fun hx => hx.1.resolve_left hx.2
    · rename_i hj
      exact ⟨fun hx => ⟨hx, fun h => hj (hs.exclusive (h ▸ hx) hid)⟩, And.left⟩
  constructor
  case wellFormed => exact hs.wellFormed_advance i hwf
  case own => exact fun j hj => hs.own j ((hmem j _).1 hj).1
  case known_iff =>
    intro x hx
    have hrelease : x ∈ p.holdings.known.release id ↔ x ∈ p.holdings.known ∧ x ≠ id := by
      simp [Known.release]
    simp only [holdings_advance, history_advance_some, hbatches, hmem, hrelease,
      hs.known_iff x hx, exists_and_right, or_and_right]
    apply or_congr_right
    rw [and_iff_left_iff_imp]
    rintro hwritten rfl
    exact hwritten (hs.unwritten i x hid)
  case claimed =>
    intro j x hx
    rw [history_advance_some, lastClaim_concat _ _ (by simp)]
    exact hs.claimed j x ((hmem j x).1 hx).1
  case unwritten =>
    intro j x hx
    rw [history_advance_some, hbatches]
    exact hs.unwritten j x ((hmem j x).1 hx).1
  case cleared =>
    intro j x hx
    refine hs.cleared j x (mem_clearedIds_of_advance hi ?_ hx)
    rw [hcleared]
    exact List.nil_subset _
  case written =>
    intro x hx hwritten
    rw [history_advance_some, hbatches] at hwritten
    exact (hs.written x hx hwritten).of_same (hbatches x) rfl
  case released =>
    apply released_concat hs.released
    rintro x ⟨rfl⟩
    exact hs.claimed i id hid

/-- To add all that a run holds, once the index is cleared of it, is sound. -/
lemma Sound.adds (hs : Sound s p) (hi : p.runs[i]? = some phase) (hwf : next.WellFormed)
    {ns : List Narrative} (hphase : phase.held = identifiers ns)
    (hphase' : phase.clearedIds = identifiers ns)
    (hns : ∀ n ∈ ns, ∃ trace, Narrative.ofTrace trace = .ok (some n))
    (hheld : next.held = []) (hcleared : next.clearedIds = []) :
    Sound s (p.advance i
      ⟨⟨p.holdings.known, p.holdings.chunks ++ s.batch ns⟩, next, some (.added (s.batch ns))⟩) := by
  have hold : p.held i = identifiers ns := (held_of_getElem? hi).trans hphase
  have hmem : ∀ j x, x ∈ (p.advance i ⟨⟨p.holdings.known, p.holdings.chunks ++ s.batch ns⟩, next,
      some (.added (s.batch ns))⟩).held j ↔ x ∈ p.held j ∧ x ∉ identifiers ns := by
    intro j x
    rw [held_advance hi]
    split
    · rename_i hj
      rw [hheld, hj, hold]
      simp
    · rename_i hj
      refine ⟨fun hx => ⟨hx, fun h => hj (hs.exclusive hx (hold ▸ h))⟩, And.left⟩
  have hbatches : ∀ x, x ≠ unknownId →
      batchesOf (p.history ++ [(i, .added (s.batch ns))]) x =
        batchesOf p.history x ++ if x ∈ identifiers ns then [s.batch ns] else [] := by
    intro x hx
    rw [batchesOf_append, batchesOf_added s hns i hx]
  have hunwritten : ∀ x ∈ identifiers ns, batchesOf p.history x = [] :=
    fun x hx => hs.unwritten i x (hold ▸ hx)
  have hchunks : ∀ x, x ≠ unknownId → x ∉ identifiers ns →
      (p.holdings.chunks ++ s.batch ns).filter (·.belongsTo x) =
        p.holdings.chunks.filter (·.belongsTo x) := by
    intro x hx hnot
    rw [List.filter_append, Splitters.batch, filter_flatMap_chunks,
      filter_of_notMem_identifiers hx hnot, List.flatMap_nil, List.append_nil]
  constructor
  case wellFormed => exact hs.wellFormed_advance i hwf
  case own => exact fun j hj => hs.own j ((hmem j _).1 hj).1
  case known_iff =>
    intro x hx
    simp only [holdings_advance, history_advance_some, hbatches x hx, hmem, hs.known_iff x hx,
      exists_and_right]
    by_cases hxns : x ∈ identifiers ns
    · have hheld : ∃ j, x ∈ p.held j := ⟨i, hold ▸ hxns⟩
      simp [hxns, hheld]
    · simp [hxns]
  case claimed =>
    intro j x hx
    rw [history_advance_some, lastClaim_concat _ _ (by simp)]
    exact hs.claimed j x ((hmem j x).1 hx).1
  case unwritten =>
    intro j x hx
    obtain ⟨hx, hnot⟩ := (hmem j x).1 hx
    rw [history_advance_some, hbatches x fun hu => hs.own j (hu ▸ hx), if_neg hnot,
      List.append_nil]
    exact hs.unwritten j x hx
  case cleared =>
    intro j x hx
    have hx' : x ∈ p.clearedIds j ∧ j ≠ i := by
      rw [clearedIds_advance hi] at hx
      split at hx
      · rw [hcleared] at hx
        exact absurd hx List.not_mem_nil
      · exact ⟨hx, ‹_›⟩
    have hxj := hs.held_of_cleared hx'.1
    have hnot : x ∉ identifiers ns := fun h => hx'.2 (hs.exclusive hxj (hold ▸ h))
    rw [holdings_advance, hchunks x (fun hu => hs.own j (hu ▸ hxj)) hnot]
    exact hs.cleared j x hx'.1
  case written =>
    intro x hx hwritten
    rw [history_advance_some, hbatches x hx] at hwritten
    by_cases hxns : x ∈ identifiers ns
    · have hgone : p.holdings.chunks.filter (·.belongsTo x) = [] := by
        apply hs.cleared i x
        rw [clearedIds_of_getElem? hi, hphase']
        exact hxns
      have hnodup := (hs.wellFormed phase (List.mem_of_getElem? hi)).nodup
      obtain ⟨n, trace, hwhole⟩ := isWhole_filter_batch s hns (hphase ▸ hnodup) hxns
      refine ⟨s.batch ns, n, trace, ?_, ?_, hwhole⟩
      · rw [history_advance_some, hbatches x hx, hunwritten x hxns, if_pos hxns, List.nil_append]
      · rw [holdings_advance, List.filter_append, hgone, List.nil_append]
    · have hsame : batchesOf (p.history ++ [(i, .added (s.batch ns))]) x = batchesOf p.history x := by
        rw [hbatches x hx, if_neg hxns, List.append_nil]
      rw [if_neg hxns, List.append_nil] at hwritten
      exact (hs.written x hx hwritten).of_same hsame (hchunks x hx hxns)
  case released => exact released_concat hs.released (by simp)

/-- What one run does in a step is sound. -/
lemma Sound.of_move (hs : Sound s p) (hi : p.runs[i]? = some phase) {progress : Progress}
    (hwf : progress.phase.WellFormed) (hmove : Phase.Move s p.holdings phase progress) :
    Sound s (p.advance i progress) := by
  cases hmove with
  | quiet hheld hcleared => exact hs.quiet hi hwf hheld hcleared
  | claims id hid hknown hheld hcleared => exact hs.claims hi hwf hid hknown hheld hcleared
  | clears id hid hheld hcleared => exact hs.clears hi hwf hid hheld hcleared
  | adds ns hphase hphase' hns hheld hcleared =>
    exact hs.adds hi hwf hphase hphase' hns hheld hcleared
  | releases id hheld hcleared => exact hs.releases hi hwf hheld hcleared

lemma Sound.start (hs : Sound s p) (traces : List Value) :
    Sound s (p.after s (.start traces)) := by
  have hheld : ∀ j, (p.after s (.start traces)).held j = p.held j :=
    getD_map_concat p.runs rfl
  have hcleared : ∀ j, (p.after s (.start traces)).clearedIds j = p.clearedIds j :=
    getD_map_concat p.runs rfl
  have hhistory : (p.after s (.start traces)).history = p.history := rfl
  have hholdings : (p.after s (.start traces)).holdings = p.holdings := rfl
  constructor
  case wellFormed =>
    intro phase hphase
    rcases List.mem_append.1 hphase with hphase | hphase
    · exact hs.wellFormed phase hphase
    · rw [List.mem_singleton.1 hphase]
      exact Phase.wellFormed_start traces
  case own => simpa only [hheld] using hs.own
  case known_iff => simpa only [hheld, hhistory, hholdings] using hs.known_iff
  case claimed => simpa only [hheld, hhistory] using hs.claimed
  case unwritten => simpa only [hheld, hhistory] using hs.unwritten
  case cleared => simpa only [hcleared, hholdings] using hs.cleared
  case written => exact hs.written
  case released => exact hs.released

lemma Sound.step (hs : Sound s p) (i : Nat) (refusal : Option Refusal) :
    Sound s (p.after s (.step i refusal)) := by
  rw [after]
  cases hi : p.runs[i]? with
  | none => exact hs
  | some phase =>
    have hwf := hs.wellFormed phase (List.mem_of_getElem? hi)
    have hknown : ∀ id ∈ phase.held, id ∈ p.holdings.known :=
      fun id hid => hs.known_of_held (held_of_getElem? hi ▸ hid)
    exact hs.of_move hi (Phase.wellFormed_step s refusal p.holdings hwf hknown)
      (Phase.step_move s refusal p.holdings hwf)

lemma sound_run (s : Splitters) (chunks : Memory) (events : List Event) :
    Sound s (run s chunks events) := by
  induction events using List.reverseRecOn with
  | nil => constructor <;> simp [run, held, clearedIds, batchesOf, batches]
  | append_singleton events event ih =>
    rw [run, List.foldl_append, ← run]
    cases event with
    | start traces => exact ih.start traces
    | step i refusal => exact ih.step i refusal

end Sound

/-- However the steps of any number of polls fall, whatever the index held at first and whichever
batches it refuses: no trace is held by two polls; a poll holds and releases only what it was the
last to claim; at most one batch contains chunks of a trace; and once all polls are done, a trace is
known exactly if a batch contained it, which then is all that the index holds of it. A poll that
takes its steps undisturbed is the whole poll. -/
theorem interleaved_polls_index_once (s : Splitters) (chunks : Memory) (events : List Event) :
    let p := run s chunks events
    (∀ i j id, id ∈ p.held i → id ∈ p.held j → i = j) ∧
    (∀ i id, id ∈ p.held i → lastClaim p.history id = some i) ∧
    (∀ before i id later, p.history = before ++ (i, .released id) :: later →
      lastClaim before id = some i) ∧
    (∀ id, id ≠ unknownId → (batchesOf p.history id).length ≤ 1) ∧
    ((∀ phase ∈ p.runs, ∃ answer, phase = .done answer) → ∀ id, id ≠ unknownId →
      (id ∈ p.holdings.known ↔ batchesOf p.history id ≠ []) ∧
      (id ∈ p.holdings.known → WrittenOnce s p id)) ∧
    ∀ (h : Holdings) refusal lookback limit traces,
      let whole := h.poll s lookback limit traces refusal
      Leads s refusal (h, .gathering traces []) (whole.2, .done whole.1) := by
  have hs := sound_run s chunks events
  refine ⟨fun i j id => hs.exclusive, hs.claimed, hs.released, ?_, ?_, ?_⟩
  · intro id hid
    by_cases hwritten : batchesOf (run s chunks events).history id = []
    · rw [hwritten]
      exact Nat.zero_le 1
    · obtain ⟨batch, n, trace, hbatch, -⟩ := hs.written id hid hwritten
      rw [hbatch]
      exact Nat.le_refl 1
  · intro hdone id hid
    have hnone : ¬ ∃ i, id ∈ (run s chunks events).held i := by
      rintro ⟨i, hheld⟩
      cases hi : (run s chunks events).runs[i]? with
      | none =>
        rw [held, hi] at hheld
        exact List.not_mem_nil hheld
      | some phase =>
        obtain ⟨answer, rfl⟩ := hdone phase (List.mem_of_getElem? hi)
        rw [held_of_getElem? hi] at hheld
        exact List.not_mem_nil hheld
    have hknown := hs.known_iff id hid
    rw [or_iff_right hnone] at hknown
    exact ⟨hknown, fun h => hs.written id hid (hknown.1 h)⟩
  · exact fun h refusal lookback limit traces =>
      leads_to_poll s refusal lookback limit traces h

end Polls

end IncidentTriage.Ingestion
