import IncidentTriage.Proofs.Ingestion.Steps

/-!
# The steps of several polls

Any number of polls take their steps in any order, on one set of known traces and one index. What
each of them does to these is kept as a history.
-/

namespace IncidentTriage.Ingestion
open IncidentTriage.Index

/-- Polls that have been started, and all that they have done to what they share, the oldest deed
first. -/
structure Polls where
  holdings : Holdings
  runs : List Phase := []
  history : List (Nat × Deed) := []

/-- A poll starts, or one of them takes its next step, in which the index may refuse a batch. -/
inductive Polls.Event
  | start (traces : List Value)
  | step (run : Nat) (refusal : Option Refusal)

namespace Polls

def advance (p : Polls) (i : Nat) (next : Progress) : Polls where
  holdings := next.holdings
  runs := p.runs.set i next.phase
  history := p.history ++ next.deed.toList.map fun deed => (i, deed)

def after (s : Splitters) (p : Polls) : Event → Polls
  | .start traces => { p with runs := p.runs ++ [.gathering traces []] }
  | .step i refusal =>
    match p.runs[i]? with
    | none => p
    | some phase => p.advance i (phase.step s refusal p.holdings)

/-- The polls after some events, when nothing was known at first. -/
def run (s : Splitters) (chunks : Memory) (events : List Event) : Polls :=
  events.foldl (after s) { holdings := ⟨[], chunks⟩ }

/-- The identifiers that a run holds. -/
def held (p : Polls) (i : Nat) : List String :=
  (p.runs[i]?.map Phase.held).getD []

def clearedIds (p : Polls) (i : Nat) : List String :=
  (p.runs[i]?.map Phase.clearedIds).getD []

/-- The batches that have been added. -/
def batches (history : List (Nat × Deed)) : List (List Document) :=
  history.filterMap fun
    | (_, .added chunks) => some chunks
    | _ => none

/-- The run that claimed the trace last. -/
def lastClaim (history : List (Nat × Deed)) (id : String) : Option Nat :=
  (history.filterMap fun
    | (i, .claimed other) => if other = id then some i else none
    | _ => none).getLast?

/-- The batches that have been added and contain chunks of the trace. -/
def batchesOf (history : List (Nat × Deed)) (id : String) : List (List Document) :=
  (batches history).filter fun chunks => chunks.any (·.belongsTo id)

lemma batchesOf_append (history more : List (Nat × Deed)) (id : String) :
    batchesOf (history ++ more) id = batchesOf history id ++ batchesOf more id := by
  simp [batchesOf, batches]

lemma batchesOf_concat (history : List (Nat × Deed)) (i : Nat) {deed : Deed}
    (h : ∀ chunks, deed ≠ .added chunks) (id : String) :
    batchesOf (history ++ [(i, deed)]) id = batchesOf history id := by
  rw [batchesOf_append]
  cases deed with
  | added chunks => exact absurd rfl (h chunks)
  | _ => exact List.append_nil _

lemma batchesOf_added (s : Splitters) {ns : List Narrative}
    (hns : ∀ n ∈ ns, ∃ trace, Narrative.ofTrace trace = .ok (some n)) (i : Nat) {id : String}
    (hu : id ≠ unknownId) :
    batchesOf [(i, .added (s.batch ns))] id = if id ∈ identifiers ns then [s.batch ns] else [] := by
  have hbatches : batchesOf [(i, .added (s.batch ns))] id =
      if (s.batch ns).any (·.belongsTo id) then [s.batch ns] else [] := List.filter_cons
  simp only [hbatches, any_belongsTo_batch s hns hu]

lemma lastClaim_claimed (history : List (Nat × Deed)) (i : Nat) (id : String) :
    lastClaim (history ++ [(i, .claimed id)]) id = some i := by
  simp [lastClaim]

lemma lastClaim_concat (history : List (Nat × Deed)) (i : Nat) {deed : Deed} {id : String}
    (h : deed ≠ .claimed id) : lastClaim (history ++ [(i, deed)]) id = lastClaim history id := by
  cases deed with
  | claimed other =>
    have hother : other ≠ id := fun hid => h (congrArg Deed.claimed hid)
    simp [lastClaim, hother]
  | _ => simp [lastClaim]

section Advance

@[simp] lemma holdings_advance (p : Polls) (i : Nat) (next : Progress) :
    (p.advance i next).holdings = next.holdings := rfl

@[simp] lemma history_advance_none (p : Polls) (i : Nat) (h : Holdings) (next : Phase) :
    (p.advance i ⟨h, next, none⟩).history = p.history := List.append_nil _

@[simp] lemma history_advance_some (p : Polls) (i : Nat) (h : Holdings) (next : Phase)
    (deed : Deed) :
    (p.advance i ⟨h, next, some deed⟩).history = p.history ++ [(i, deed)] := rfl

variable {p : Polls} {i : Nat} {phase : Phase}

lemma held_of_getElem? (hi : p.runs[i]? = some phase) : p.held i = phase.held := by
  rw [held, hi, Option.map_some, Option.getD_some]

lemma clearedIds_of_getElem? (hi : p.runs[i]? = some phase) :
    p.clearedIds i = phase.clearedIds := by
  rw [clearedIds, hi, Option.map_some, Option.getD_some]

lemma held_advance (hi : p.runs[i]? = some phase) (next : Progress) (j : Nat) :
    (p.advance i next).held j = if j = i then next.phase.held else p.held j := by
  have hlt := (List.getElem?_eq_some_iff.1 hi).1
  by_cases hj : j = i
  · subst hj
    simp [held, advance, hlt]
  · simp [held, advance, hj, List.getElem?_set_ne (Ne.symm hj)]

lemma clearedIds_advance (hi : p.runs[i]? = some phase) (next : Progress) (j : Nat) :
    (p.advance i next).clearedIds j = if j = i then next.phase.clearedIds else p.clearedIds j := by
  have hlt := (List.getElem?_eq_some_iff.1 hi).1
  by_cases hj : j = i
  · subst hj
    simp [clearedIds, advance, hlt]
  · simp [clearedIds, advance, hj, List.getElem?_set_ne (Ne.symm hj)]

lemma mem_held_advance (hi : p.runs[i]? = some phase) {next : Progress} {ids : List String}
    (hnext : next.phase.held = phase.held ++ ids) (j : Nat) (id : String) :
    id ∈ (p.advance i next).held j ↔ id ∈ p.held j ∨ j = i ∧ id ∈ ids := by
  rw [held_advance hi]
  by_cases hj : j = i
  · rw [if_pos hj, hj, held_of_getElem? hi, hnext, List.mem_append]
    simp
  · simp [hj]

lemma held_advance_same (hi : p.runs[i]? = some phase) {next : Progress}
    (hnext : next.phase.held = phase.held) (j : Nat) : (p.advance i next).held j = p.held j := by
  rw [held_advance hi]
  split
  · rename_i hj
    rw [hj, held_of_getElem? hi, hnext]
  · rfl

lemma mem_clearedIds_of_advance (hi : p.runs[i]? = some phase) {next : Progress}
    (hnext : next.phase.clearedIds ⊆ phase.clearedIds) {j : Nat} {id : String}
    (hid : id ∈ (p.advance i next).clearedIds j) : id ∈ p.clearedIds j := by
  rw [clearedIds_advance hi] at hid
  split at hid
  · rename_i hj
    rw [hj, clearedIds_of_getElem? hi]
    exact hnext hid
  · exact hid

end Advance

/-- A run that has nothing yet changes nothing of what the others have. -/
lemma getD_map_concat (runs : List Phase) {new : Phase} {f : Phase → List String}
    (hnew : f new = []) (j : Nat) :
    ((runs ++ [new])[j]?.map f).getD [] = (runs[j]?.map f).getD [] := by
  rw [List.getElem?_append]
  split
  · rfl
  · rename_i hj
    rw [List.getElem?_eq_none (Nat.not_lt.1 hj)]
    rcases j - runs.length with _ | k
    · exact hnew
    · rfl

end Polls

end IncidentTriage.Ingestion
