import IncidentTriage.Proofs.Ingestion.Poll
import Mathlib.Logic.Relation

/-!
# A poll in steps

A poll works on what is known and on the index in atomic steps: a claim of one identifier, the
removal of one trace, the addition of its batch, and, when the batch was refused, the release of one
identifier after another. Between these steps others may work on both. A poll that nobody disturbs
comes to the same end as the whole poll made at once.
-/

namespace IncidentTriage.Ingestion
open IncidentTriage.Index

/-- How far a poll has come, and what it has gathered. -/
inductive Phase
  | gathering (rest : List Value) (gathered : List Narrative)
  | clearing (n : Narrative) (rest : List Value) (gathered : List Narrative)
  | writing (gathered : List Narrative)
  | releasing (ids : List String) (fault : Fault)
  | done (answer : Except Fault Nat)

/-- What a step has done to the things that are shared. -/
inductive Deed
  | claimed (id : String)
  | cleared (id : String)
  | added (chunks : List Document)
  | released (id : String)

structure Progress where
  holdings : Holdings
  phase : Phase
  deed : Option Deed := none

/-- The chunks of several narratives. -/
def Splitters.batch (s : Splitters) (ns : List Narrative) : List Document :=
  ns.flatMap fun n => s.chunks n.document

namespace Phase

/-- The next step of a poll. The index refuses a batch that is added in this step if it has a
refusal. -/
def step (s : Splitters) (refusal : Option Refusal) (h : Holdings) : Phase → Progress
  | gathering [] [] => { holdings := h, phase := done (.ok 0) }
  | gathering [] ns => { holdings := h, phase := writing ns }
  | gathering (trace :: rest) ns =>
    match narrative? trace with
    | none => { holdings := h, phase := gathering rest ns }
    | some n =>
      if n.traceId = unknownId then { holdings := h, phase := gathering rest (ns ++ [n]) }
      else match h.perform refusal (Known.claim n.traceId) with
        | (.ok true, after) =>
          { holdings := after, phase := clearing n rest ns, deed := some (.claimed n.traceId) }
        | (_, after) => { holdings := after, phase := gathering rest ns }
  | clearing n rest ns =>
    { holdings := (h.perform refusal (Known.prepareReplacement Store.index n.traceId)).2
      phase := gathering rest (ns ++ [n])
      deed := some (.cleared n.traceId) }
  | writing ns =>
    match h.perform refusal (Act.outside (ingest Store.index s (ns.map (·.document)))) with
    | (.ok count, after) =>
      { holdings := after, phase := done (.ok count), deed := some (.added (s.batch ns)) }
    | (.error f, after) => { holdings := after, phase := releasing (identifiers ns) f }
  | releasing [] f => { holdings := h, phase := done (.error f) }
  | releasing (id :: rest) f =>
    { holdings := (h.perform refusal (Known.releaseNow id)).2
      phase := releasing rest f
      deed := some (.released id) }
  | done answer => { holdings := h, phase := done answer }

end Phase

namespace Holdings

variable (h : Holdings) (refusal : Option Refusal)

lemma perform_claim (id : String) :
    h.perform refusal (Known.claim id) =
      if id ∈ h.known then (.ok false, h) else (.ok true, ⟨h.known ++ [id], h.chunks⟩) := by
  rw [perform, Ingestion.perform_claim]
  by_cases hid : id ∈ h.known
  · simp only [if_pos hid]
  · simp only [if_neg hid]

lemma perform_prepareReplacement (id : String) :
    h.perform refusal (Known.prepareReplacement Store.index id) =
      (.ok (), ⟨h.known, h.chunks.without [id]⟩) := by
  obtain ⟨journal, hprepare⟩ := Ingestion.perform_prepareReplacement id
    ⟨[], (h.known, { chunks := h.chunks, refusesAdd := refusal })⟩
  rw [perform, hprepare]
  rfl

lemma perform_ingest (s : Splitters) (ns : List Narrative) (hns : s.batch ns ≠ []) :
    h.perform refusal (Act.outside (ingest Store.index s (ns.map (·.document)))) =
      match refusal with
      | some r => (.error r.fault, h)
      | none => (.ok (s.full (ns.map (·.document))).length, ⟨h.known, h.chunks ++ s.batch ns⟩) := by
  obtain ⟨journal, hingest⟩ := Ingestion.perform_ingest s (ns.map (·.document))
    ⟨[], { chunks := h.chunks, refusesAdd := refusal }⟩
  rw [List.flatMap_map, ← Splitters.batch, if_neg hns] at hingest
  rw [perform, Act.perform_outside, hingest]
  cases refusal <;> rfl

end Holdings

namespace Phase

section Gathering

variable (s : Splitters) (refusal : Option Refusal) {h : Holdings} {trace : Value} {n : Narrative}
  (rest : List Value) (ns : List Narrative)

lemma step_of_none (hn : narrative? trace = none) :
    step s refusal h (gathering (trace :: rest) ns) = ⟨h, gathering rest ns, none⟩ := by
  rw [step, hn]

lemma step_of_unknown (hn : narrative? trace = some n) (hu : n.traceId = unknownId) :
    step s refusal h (gathering (trace :: rest) ns) = ⟨h, gathering rest (ns ++ [n]), none⟩ := by
  simp only [step, hn, if_pos hu]

lemma step_of_known (hn : narrative? trace = some n) (hu : n.traceId ≠ unknownId)
    (hk : n.traceId ∈ h.known) :
    step s refusal h (gathering (trace :: rest) ns) = ⟨h, gathering rest ns, none⟩ := by
  simp only [step, hn, if_neg hu, Holdings.perform_claim, if_pos hk]

lemma step_of_new (hn : narrative? trace = some n) (hu : n.traceId ≠ unknownId)
    (hk : n.traceId ∉ h.known) :
    step s refusal h (gathering (trace :: rest) ns) =
      ⟨⟨h.known ++ [n.traceId], h.chunks⟩, clearing n rest ns, some (.claimed n.traceId)⟩ := by
  simp only [step, hn, if_neg hu, Holdings.perform_claim, if_neg hk]

lemma step_gathered (h : Holdings) {ns : List Narrative} (hne : ns ≠ []) :
    step s refusal h (gathering [] ns) = ⟨h, writing ns, none⟩ := by
  obtain ⟨n, ns, rfl⟩ := List.exists_cons_of_ne_nil hne
  rfl

end Gathering

lemma step_clearing (s : Splitters) (refusal : Option Refusal) (h : Holdings) (n : Narrative)
    (rest : List Value) (ns : List Narrative) :
    step s refusal h (clearing n rest ns) =
      ⟨⟨h.known, h.chunks.without [n.traceId]⟩, gathering rest (ns ++ [n]),
        some (.cleared n.traceId)⟩ := by
  rw [step, Holdings.perform_prepareReplacement]

lemma step_writing (s : Splitters) (refusal : Option Refusal) (h : Holdings) {ns : List Narrative}
    (hns : s.batch ns ≠ []) :
    step s refusal h (writing ns) =
      match refusal with
      | some r => ⟨h, releasing (identifiers ns) r.fault, none⟩
      | none => ⟨⟨h.known, h.chunks ++ s.batch ns⟩,
          done (.ok (s.full (ns.map (·.document))).length), some (.added (s.batch ns))⟩ := by
  rw [step, Holdings.perform_ingest h refusal s ns hns]
  cases refusal <;> rfl

/-- The identifiers a poll has claimed and neither written nor released. -/
def held : Phase → List String
  | gathering _ ns => identifiers ns
  | clearing n _ ns => identifiers ns ++ [n.traceId]
  | writing ns => identifiers ns
  | releasing ids _ => ids
  | done _ => []

/-- The identifiers whose chunks a poll has removed and not written yet. -/
def clearedIds : Phase → List String
  | gathering _ ns => identifiers ns
  | clearing _ _ ns => identifiers ns
  | writing ns => identifiers ns
  | _ => []

lemma clearedIds_subset (phase : Phase) : phase.clearedIds ⊆ phase.held := by
  cases phase with
  | clearing n rest ns => exact List.subset_append_left _ _
  | releasing ids f => exact List.nil_subset _
  | _ => exact List.Subset.refl _

/-- The narratives a poll has in hand. -/
def inHand : Phase → List Narrative
  | gathering _ ns => ns
  | clearing n _ ns => ns ++ [n]
  | writing ns => ns
  | _ => []

/-- A poll holds each identifier once, writes only what is not empty, and has its narratives from
raw traces. -/
structure WellFormed (phase : Phase) : Prop where
  nodup : phase.held.Nodup
  ofTrace : ∀ n ∈ phase.inHand, ∃ trace, Narrative.ofTrace trace = .ok (some n)
  clearing_known : ∀ n rest ns, phase = clearing n rest ns → n.traceId ≠ unknownId
  writing_ne_nil : phase ≠ writing []

lemma wellFormed_start (traces : List Value) : (gathering traces []).WellFormed :=
  ⟨List.nodup_nil, by simp [inHand], by simp, by simp⟩

/-- All that a step of a well-formed poll can do: nothing that is shared, a claim, the removal of a
trace it holds, the addition of all that it holds, or a release. -/
inductive Move (s : Splitters) (h : Holdings) (phase : Phase) : Progress → Prop
  | quiet {next : Phase} (hheld : next.held = phase.held)
      (hcleared : next.clearedIds ⊆ phase.clearedIds) : Move s h phase ⟨h, next, none⟩
  | claims {next : Phase} (id : String) (hid : id ≠ unknownId) (hknown : id ∉ h.known)
      (hheld : next.held = phase.held ++ [id]) (hcleared : next.clearedIds ⊆ phase.clearedIds) :
      Move s h phase ⟨⟨h.known ++ [id], h.chunks⟩, next, some (.claimed id)⟩
  | clears {next : Phase} (id : String) (hid : id ∈ phase.held) (hheld : next.held = phase.held)
      (hcleared : next.clearedIds = phase.clearedIds ++ [id]) :
      Move s h phase ⟨⟨h.known, h.chunks.without [id]⟩, next, some (.cleared id)⟩
  | adds {next : Phase} (ns : List Narrative) (hphase : phase.held = identifiers ns)
      (hphase' : phase.clearedIds = identifiers ns)
      (hns : ∀ n ∈ ns, ∃ trace, Narrative.ofTrace trace = .ok (some n))
      (hheld : next.held = []) (hcleared : next.clearedIds = []) :
      Move s h phase ⟨⟨h.known, h.chunks ++ s.batch ns⟩, next, some (.added (s.batch ns))⟩
  | releases {next : Phase} (id : String) (hheld : phase.held = id :: next.held)
      (hcleared : next.clearedIds = []) :
      Move s h phase ⟨⟨h.known.release id, h.chunks⟩, next, some (.released id)⟩

end Phase

lemma batch_ne_nil (s : Splitters) {ns : List Narrative} (hne : ns ≠ [])
    (hns : ∀ n ∈ ns, ∃ trace, Narrative.ofTrace trace = .ok (some n)) : s.batch ns ≠ [] := by
  obtain ⟨n, rest, rfl⟩ := List.exists_cons_of_ne_nil hne
  obtain ⟨trace, htrace⟩ := hns n List.mem_cons_self
  rw [Splitters.batch, List.flatMap_cons]
  exact List.append_ne_nil_of_left_ne_nil (isWhole_chunks s htrace).nonempty _

/-- A batch contains chunks of the traces it is made of and of no others. -/
lemma any_belongsTo_batch (s : Splitters) {ns : List Narrative}
    (hns : ∀ n ∈ ns, ∃ trace, Narrative.ofTrace trace = .ok (some n)) {id : String}
    (hu : id ≠ unknownId) : (s.batch ns).any (·.belongsTo id) = true ↔ id ∈ identifiers ns := by
  simp only [List.any_eq_true, Splitters.batch, List.mem_flatMap, mem_identifiers]
  constructor
  · rintro ⟨d, ⟨n, hn, hd⟩, hid⟩
    rw [belongsTo_of_mem_chunks hd, beq_iff_eq] at hid
    exact ⟨hu, n, hn, hid⟩
  · rintro ⟨-, n, hn, hid⟩
    obtain ⟨trace, htrace⟩ := hns n hn
    obtain ⟨d, hd⟩ := List.exists_mem_of_ne_nil _ (isWhole_chunks s htrace).nonempty
    refine ⟨d, ⟨n, hn, hd⟩, ?_⟩
    rw [belongsTo_of_mem_chunks hd, beq_iff_eq]
    exact hid

/-- Of a batch, the chunks of a trace that occurs in it are the whole of one narrative. -/
lemma isWhole_filter_batch (s : Splitters) {ns : List Narrative} {id : String}
    (hns : ∀ n ∈ ns, ∃ trace, Narrative.ofTrace trace = .ok (some n))
    (hnodup : (identifiers ns).Nodup) (hid : id ∈ identifiers ns) :
    ∃ n trace, Narrative.ofTrace trace = .ok (some n) ∧ n.traceId = id ∧
      s.IsWhole n ((s.batch ns).filter (·.belongsTo id)) := by
  obtain ⟨n, hn, hnid, hfilter⟩ := exists_filter_eq_singleton hnodup hid
  obtain ⟨trace, htrace⟩ := hns n hn
  refine ⟨n, trace, htrace, hnid, ?_⟩
  rw [Splitters.batch, filter_flatMap_chunks, hfilter, List.flatMap_singleton]
  exact isWhole_chunks s htrace

lemma identifiers_singleton {n : Narrative} (hn : n.traceId ≠ unknownId) :
    identifiers [n] = [n.traceId] := identifiers_cons hn []

namespace Phase

lemma step_move (s : Splitters) (refusal : Option Refusal) (h : Holdings) {phase : Phase}
    (hwf : phase.WellFormed) : Move s h phase (phase.step s refusal h) := by
  cases phase with
  | gathering rest ns =>
    cases rest with
    | nil => cases ns with
      | nil => exact .quiet rfl (List.Subset.refl _)
      | cons n ns => exact .quiet rfl (List.Subset.refl _)
    | cons trace rest => cases hn : narrative? trace with
      | none =>
        rw [step_of_none s refusal rest ns hn]
        exact .quiet rfl (List.Subset.refl _)
      | some n =>
        by_cases hu : n.traceId = unknownId
        · have hids : identifiers (ns ++ [n]) = identifiers ns := by
            rw [identifiers_append, identifiers_cons_unknown hu]
            exact List.append_nil _
          rw [step_of_unknown s refusal rest ns hn hu]
          exact .quiet hids (by rw [clearedIds, hids]; exact List.Subset.refl _)
        · by_cases hk : n.traceId ∈ h.known
          · rw [step_of_known s refusal rest ns hn hu hk]
            exact .quiet rfl (List.Subset.refl _)
          · rw [step_of_new s refusal rest ns hn hu hk]
            exact .claims n.traceId hu hk rfl (List.Subset.refl _)
  | clearing n rest ns =>
    have hu := hwf.clearing_known n rest ns rfl
    have hids : identifiers (ns ++ [n]) = identifiers ns ++ [n.traceId] := by
      rw [identifiers_append, identifiers_singleton hu]
    rw [step_clearing]
    exact .clears n.traceId (by simp [held]) hids hids
  | writing ns =>
    have hne : ns ≠ [] := fun hnil => hwf.writing_ne_nil (by rw [hnil])
    rw [step_writing s refusal h (batch_ne_nil s hne hwf.ofTrace)]
    cases refusal with
    | none => exact .adds ns rfl rfl hwf.ofTrace rfl rfl
    | some r => exact .quiet rfl (List.nil_subset _)
  | releasing ids f => cases ids with
    | nil => exact .quiet rfl (List.Subset.refl _)
    | cons id ids => exact .releases id rfl rfl
  | done answer => exact .quiet rfl (List.Subset.refl _)

lemma nodup_of_move {s : Splitters} {h : Holdings} {phase : Phase} {p : Progress}
    (hmove : Move s h phase p) (hnodup : phase.held.Nodup)
    (hknown : ∀ id ∈ phase.held, id ∈ h.known) : p.phase.held.Nodup := by
  cases hmove with
  | quiet hheld => rw [hheld]; exact hnodup
  | claims id _ hid hheld =>
    rw [hheld, List.nodup_append]
    refine ⟨hnodup, List.nodup_cons.2 ⟨List.not_mem_nil, List.nodup_nil⟩, ?_⟩
    rintro other hother _ hmem rfl
    exact hid (List.mem_singleton.1 hmem ▸ hknown other hother)
  | clears id _ hheld => rw [hheld]; exact hnodup
  | adds ns _ _ _ hheld => rw [hheld]; exact List.nodup_nil
  | releases id hheld =>
    rw [hheld, List.nodup_cons] at hnodup
    exact hnodup.2

/-- A step of a well-formed poll leads to a well-formed poll, if what it holds is known. -/
lemma wellFormed_step (s : Splitters) (refusal : Option Refusal) (h : Holdings) {phase : Phase}
    (hwf : phase.WellFormed) (hknown : ∀ id ∈ phase.held, id ∈ h.known) :
    (phase.step s refusal h).phase.WellFormed := by
  have hnodup := nodup_of_move (step_move s refusal h hwf) hwf.nodup hknown
  obtain ⟨-, hof, -, -⟩ := hwf
  cases phase with
  | gathering rest ns =>
    cases rest with
    | nil => cases ns with
      | nil => exact ⟨hnodup, by simp [step, inHand], by simp [step], by simp [step]⟩
      | cons n ns => exact ⟨hnodup, hof, by simp [step], by simp [step]⟩
    | cons trace rest => cases hn : narrative? trace with
      | none =>
        rw [step_of_none s refusal rest ns hn] at hnodup ⊢
        exact ⟨hnodup, hof, by simp, by simp⟩
      | some n =>
        have hof' : ∀ m ∈ ns ++ [n], ∃ trace, Narrative.ofTrace trace = .ok (some m) := by
          intro m hm
          rcases List.mem_append.1 hm with hm | hm
          · exact hof m hm
          · rw [List.mem_singleton.1 hm]
            exact ⟨trace, narrative?_eq_some hn⟩
        by_cases hu : n.traceId = unknownId
        · rw [step_of_unknown s refusal rest ns hn hu] at hnodup ⊢
          exact ⟨hnodup, hof', by simp, by simp⟩
        · by_cases hk : n.traceId ∈ h.known
          · rw [step_of_known s refusal rest ns hn hu hk] at hnodup ⊢
            exact ⟨hnodup, hof, by simp, by simp⟩
          · rw [step_of_new s refusal rest ns hn hu hk] at hnodup ⊢
            refine ⟨hnodup, hof', ?_, by simp⟩
            rintro m _ _ ⟨rfl, -, -⟩
            exact hu
  | clearing n rest ns => exact ⟨hnodup, hof, by simp [step], by simp [step]⟩
  | writing ns =>
    simp only [step] at hnodup ⊢
    split at hnodup <;> exact ⟨hnodup, by simp [inHand], by simp, by simp⟩
  | releasing ids f => cases ids with
    | nil => exact ⟨hnodup, by simp [step, inHand], by simp [step], by simp [step]⟩
    | cons id ids => exact ⟨hnodup, by simp [step, inHand], by simp [step], by simp [step]⟩
  | done answer => exact ⟨hnodup, by simp [step, inHand], by simp [step], by simp [step]⟩

end Phase

section Undisturbed

variable (s : Splitters) (refusal : Option Refusal)

/-- The steps of a poll that nobody disturbs. -/
def Leads : Holdings × Phase → Holdings × Phase → Prop :=
  Relation.ReflTransGen fun x y =>
    y = ((x.2.step s refusal x.1).holdings, (x.2.step s refusal x.1).phase)

variable {s refusal}

lemma Leads.of_step {h after : Holdings} {phase next : Phase} {deed : Option Deed}
    {y : Holdings × Phase} (hstep : phase.step s refusal h = ⟨after, next, deed⟩)
    (hrest : Leads s refusal (after, next) y) : Leads s refusal (h, phase) y :=
  Relation.ReflTransGen.head (by rw [hstep]) hrest

variable (s refusal)

lemma leads_gathering (traces : List Value) (ns : List Narrative) (h : Holdings) :
    Leads s refusal (h, .gathering traces ns)
      (⟨h.known ++ identifiers (fresh h.known (narratives traces)),
        h.chunks.without (identifiers (fresh h.known (narratives traces)))⟩,
        .gathering [] (ns ++ fresh h.known (narratives traces))) := by
  induction traces generalizing ns h with
  | nil =>
    simp only [narratives, List.filterMap_nil, fresh, identifiers, List.map_nil, List.filter_nil,
      List.append_nil, Memory.without_nil]
    exact Relation.ReflTransGen.refl
  | cons trace rest ih =>
    cases hn : narrative? trace with
    | none =>
      rw [narratives, List.filterMap_cons_none hn, ← narratives]
      exact .of_step (Phase.step_of_none s refusal rest ns hn) (ih ns h)
    | some n =>
      rw [narratives, List.filterMap_cons_some hn, ← narratives, fresh]
      by_cases hu : n.traceId = unknownId
      · rw [if_pos hu, identifiers_cons_unknown hu, List.append_cons]
        exact .of_step (Phase.step_of_unknown s refusal rest ns hn hu) (ih (ns ++ [n]) h)
      · by_cases hk : n.traceId ∈ h.known
        · rw [if_neg hu, if_pos hk]
          exact .of_step (Phase.step_of_known s refusal rest ns hn hu hk) (ih ns h)
        · rw [if_neg hu, if_neg hk, identifiers_cons hu]
          refine .of_step (Phase.step_of_new s refusal rest ns hn hu hk) ?_
          refine .of_step (Phase.step_clearing s refusal _ n rest ns) ?_
          have hrest := ih (ns ++ [n]) ⟨h.known ++ [n.traceId], h.chunks.without [n.traceId]⟩
          simpa [Memory.without_without] using hrest

lemma leads_releasing (ids : List String) (f : Fault) (h : Holdings) :
    Leads s refusal (h, .releasing ids f)
      (⟨h.known.filter fun id => !ids.contains id, h.chunks⟩, .done (.error f)) := by
  induction ids generalizing h with
  | nil =>
    have hkept : h.known.filter (fun id => !([] : List String).contains id) = h.known := by simp
    rw [hkept]
    exact .of_step rfl Relation.ReflTransGen.refl
  | cons id rest ih =>
    have hrest := ih ⟨h.known.release id, h.chunks⟩
    rw [filter_release] at hrest
    exact .of_step rfl hrest

/-- A poll that nobody disturbs comes to the same end, step by step, as the whole poll. -/
lemma leads_to_poll (lookback : String) (limit : Int) (traces : List Value) (h : Holdings) :
    Leads s refusal (h, .gathering traces [])
      ((h.poll s lookback limit traces refusal).2,
        .done (h.poll s lookback limit traces refusal).1) := by
  have hgather := leads_gathering s refusal traces [] h
  have hfull := full_fresh s h.known traces
  have hkept := filter_known_append h.known (narratives traces)
  have htraces : ∀ n ∈ fresh h.known (narratives traces),
      ∃ trace, Narrative.ofTrace trace = .ok (some n) := by
    intro n hn
    obtain ⟨trace, -, htrace⟩ := exists_of_mem_narratives (mem_of_mem_fresh hn)
    exact ⟨trace, htrace⟩
  refine hgather.trans ?_
  rw [Holdings.poll_eq, List.nil_append]
  generalize fresh h.known (narratives traces) = new at hfull hkept htraces ⊢
  by_cases hnew : new = []
  · rw [if_pos hnew, hnew]
    simp only [identifiers, List.map_nil, List.filter_nil, List.append_nil, Memory.without_nil]
    exact Leads.of_step rfl Relation.ReflTransGen.refl
  · have hwrite := Phase.step_writing s refusal
      ⟨h.known ++ identifiers new, h.chunks.without (identifiers new)⟩
      (batch_ne_nil s hnew htraces)
    rw [if_neg hnew]
    refine Leads.of_step (Phase.step_gathered s refusal _ hnew) ?_
    cases refusal with
    | none =>
      refine Leads.of_step hwrite ?_
      rw [hfull, List.length_map]
      exact Relation.ReflTransGen.refl
    | some r =>
      have hrelease := leads_releasing s (some r) (identifiers new) r.fault
        ⟨h.known ++ identifiers new, h.chunks.without (identifiers new)⟩
      rw [hkept] at hrelease
      exact Leads.of_step hwrite hrelease

end Undisturbed

end IncidentTriage.Ingestion
