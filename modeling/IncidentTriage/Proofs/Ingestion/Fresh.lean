import IncidentTriage.Ingestion.Telemetry
import Mathlib.Tactic.Common

/-!
# Fresh narratives

Of the narratives of a poll those are fresh that have no identifier of their own, and the first of
each identifier that is not known. They are what the poll takes in, and their identifiers are what
it claims.
-/

namespace IncidentTriage.Ingestion

/-- The narrative of a raw trace. There is none of a trace that cannot be read or has no spans. -/
def narrative? (trace : Value) : Option Narrative :=
  (Narrative.ofTrace trace).toOption.join

def narratives (traces : List Value) : List Narrative :=
  traces.filterMap narrative?

/-- The narratives that a poll takes in when some traces are known. -/
def fresh : Known → List Narrative → List Narrative
  | _, [] => []
  | known, n :: rest =>
    if n.traceId = unknownId then n :: fresh known rest
    else if n.traceId ∈ known then fresh known rest
    else n :: fresh (known ++ [n.traceId]) rest

/-- The identifiers of the narratives that have one of their own. -/
def identifiers (ns : List Narrative) : List String :=
  (ns.map (·.traceId)).filter (· ≠ unknownId)

lemma narrative?_eq_some {trace : Value} {n : Narrative} (h : narrative? trace = some n) :
    Narrative.ofTrace trace = .ok (some n) := by
  unfold narrative? at h
  rcases htrace : Narrative.ofTrace trace with e | n?
  · simp [htrace, Except.toOption] at h
  · rw [htrace] at h
    rw [show n? = some n from h]

lemma exists_of_mem_narratives {traces : List Value} {n : Narrative} (h : n ∈ narratives traces) :
    ∃ trace ∈ traces, Narrative.ofTrace trace = .ok (some n) := by
  obtain ⟨trace, htrace, hn⟩ := List.mem_filterMap.1 h
  exact ⟨trace, htrace, narrative?_eq_some hn⟩

lemma identifiers_cons_unknown {n : Narrative} (h : n.traceId = unknownId) (ns : List Narrative) :
    identifiers (n :: ns) = identifiers ns := by
  simp [identifiers, h]

lemma identifiers_cons {n : Narrative} (h : n.traceId ≠ unknownId) (ns : List Narrative) :
    identifiers (n :: ns) = n.traceId :: identifiers ns := by
  simp [identifiers, h]

lemma identifiers_append (ms ns : List Narrative) :
    identifiers (ms ++ ns) = identifiers ms ++ identifiers ns := by
  simp [identifiers]

/-- What is taken in of a second batch is what is fresh once the first one is known. -/
lemma fresh_append (known : Known) (ms ns : List Narrative) :
    fresh known (ms ++ ns) =
      fresh known ms ++ fresh (known ++ identifiers (fresh known ms)) ns := by
  induction ms generalizing known with
  | nil => simp [fresh, identifiers]
  | cons m rest ih =>
    rw [List.cons_append, fresh, fresh]
    split
    · rename_i hu
      rw [identifiers_cons_unknown hu, ih, List.cons_append]
    · split
      · exact ih known
      · rename_i hu hk
        rw [identifiers_cons hu, ih, List.cons_append, List.append_assoc, List.singleton_append]

lemma mem_of_mem_fresh {known : Known} {ns : List Narrative} {n : Narrative}
    (h : n ∈ fresh known ns) : n ∈ ns := by
  induction ns generalizing known with
  | nil => simp [fresh] at h
  | cons m rest ih =>
    rw [fresh] at h
    split at h
    · rcases List.mem_cons.1 h with rfl | h
      · exact List.mem_cons_self
      · exact List.mem_cons_of_mem _ (ih h)
    · split at h
      · exact List.mem_cons_of_mem _ (ih h)
      · rcases List.mem_cons.1 h with rfl | h
        · exact List.mem_cons_self
        · exact List.mem_cons_of_mem _ (ih h)

/-- What a poll claims was not known. -/
lemma notMem_of_mem_identifiers_fresh {known : Known} {ns : List Narrative} {id : String}
    (h : id ∈ identifiers (fresh known ns)) : id ∉ known := by
  induction ns generalizing known with
  | nil => simp [fresh, identifiers] at h
  | cons n rest ih =>
    rw [fresh] at h
    split at h
    · rename_i hu
      rw [identifiers_cons_unknown hu] at h
      exact ih h
    · rename_i hu
      split at h
      · exact ih h
      · rename_i hk
        rw [identifiers_cons hu, List.mem_cons] at h
        rcases h with rfl | h
        · exact hk
        · exact fun hid => ih h (List.mem_append_left _ hid)

lemma mem_identifiers {ns : List Narrative} {id : String} :
    id ∈ identifiers ns ↔ id ≠ unknownId ∧ ∃ n ∈ ns, n.traceId = id := by
  simp [identifiers, and_comm]

lemma filter_of_notMem_identifiers {ns : List Narrative} {id : String} (hu : id ≠ unknownId)
    (hid : id ∉ identifiers ns) : ns.filter (·.traceId == id) = [] := by
  rw [List.filter_eq_nil_iff]
  intro n hn hn'
  exact hid (mem_identifiers.2 ⟨hu, n, hn, beq_iff_eq.1 hn'⟩)

/-- Where each identifier occurs once, one narrative has the identifier. -/
lemma exists_filter_eq_singleton {ns : List Narrative} {id : String}
    (hnodup : (identifiers ns).Nodup) (hid : id ∈ identifiers ns) :
    ∃ n ∈ ns, n.traceId = id ∧ ns.filter (·.traceId == id) = [n] := by
  have hu := (mem_identifiers.1 hid).1
  induction ns with
  | nil => exact absurd hid List.not_mem_nil
  | cons n rest ih =>
    by_cases hn : n.traceId = unknownId
    · rw [identifiers_cons_unknown hn] at hnodup hid
      obtain ⟨m, hm, hmid, hfilter⟩ := ih hnodup hid
      refine ⟨m, List.mem_cons_of_mem n hm, hmid, ?_⟩
      rw [List.filter_cons_of_neg (by simpa [hn] using hu.symm), hfilter]
    · rw [identifiers_cons hn, List.nodup_cons] at hnodup
      rw [identifiers_cons hn] at hid
      rcases List.mem_cons.1 hid with rfl | hid
      · refine ⟨n, List.mem_cons_self, rfl, ?_⟩
        rw [List.filter_cons_of_pos (by simp), filter_of_notMem_identifiers hn hnodup.1]
      · have hne : n.traceId ≠ id := fun h => hnodup.1 (h ▸ hid)
        obtain ⟨m, hm, hmid, hfilter⟩ := ih hnodup.2 hid
        refine ⟨m, List.mem_cons_of_mem n hm, hmid, ?_⟩
        rw [List.filter_cons_of_neg (by simpa using hne), hfilter]

lemma filter_fresh_of_mem {known : Known} (ns : List Narrative) {id : String} (hu : id ≠ unknownId)
    (hk : id ∈ known) : (fresh known ns).filter (·.traceId == id) = [] := by
  rw [List.filter_eq_nil_iff]
  intro n hn heq
  rw [beq_iff_eq] at heq
  exact notMem_of_mem_identifiers_fresh (mem_identifiers.2 ⟨hu, n, hn, heq⟩) hk

/-- Of each identifier that is not known a poll takes in the first narrative, and no other. -/
lemma filter_fresh {known : Known} (ns : List Narrative) {id : String} (hu : id ≠ unknownId)
    (hk : id ∉ known) :
    (fresh known ns).filter (·.traceId == id) = (ns.find? (·.traceId == id)).toList := by
  induction ns generalizing known with
  | nil => rfl
  | cons n rest ih =>
    rw [fresh]
    by_cases hid : n.traceId = id
    · have hrest : (fresh (known ++ [n.traceId]) rest).filter (·.traceId == id) = [] :=
        filter_fresh_of_mem rest hu (by simp [hid])
      rw [if_neg (by rw [hid]; exact hu), if_neg (by rw [hid]; exact hk),
        List.filter_cons_of_pos (by simp [hid]), hrest, List.find?_cons_of_pos (by simp [hid])]
      rfl
    · rw [List.find?_cons_of_neg (by simp [hid])]
      split
      · rw [List.filter_cons_of_neg (by simp [hid]), ih hk]
      · split
        · exact ih hk
        · have hid' : id ≠ n.traceId := fun h => hid h.symm
          rw [List.filter_cons_of_neg (by simp [hid]), ih (by simp [hk, hid'])]

lemma mem_identifiers_fresh {known : Known} {ns : List Narrative} {id : String} :
    id ∈ identifiers (fresh known ns) ↔
      id ≠ unknownId ∧ id ∉ known ∧ ∃ n, ns.find? (·.traceId == id) = some n := by
  constructor
  · intro h
    have hk := notMem_of_mem_identifiers_fresh h
    obtain ⟨hu, n, hn, hid⟩ := mem_identifiers.1 h
    refine ⟨hu, hk, ?_⟩
    rw [← Option.isSome_iff_exists, List.find?_isSome]
    exact ⟨n, mem_of_mem_fresh hn, by simp [hid]⟩
  · rintro ⟨hu, hk, n, hn⟩
    have hmem : n ∈ (fresh known ns).filter (·.traceId == id) := by
      rw [filter_fresh ns hu hk, hn]
      exact List.mem_singleton_self n
    rw [List.mem_filter, beq_iff_eq] at hmem
    exact mem_identifiers.2 ⟨hu, n, hmem⟩

lemma filter_release (known : Known) (id : String) (ids : List String) :
    (known.release id).filter (fun other => !ids.contains other) =
      known.filter fun other => !(id :: ids).contains other := by
  rw [Known.release, List.filter_filter]
  congr 1
  funext other
  rw [List.contains_cons, Bool.not_or, Bool.and_comm]
  congr 1
  by_cases h : other = id <;> simp [h]

/-- Releasing what was claimed leaves what was known before. -/
lemma filter_known_append (known : Known) (ns : List Narrative) :
    ((known ++ identifiers (fresh known ns)).filter fun id =>
      !(identifiers (fresh known ns)).contains id) = known := by
  have hkept : known.filter (fun id => !(identifiers (fresh known ns)).contains id) = known := by
    rw [List.filter_eq_self]
    intro id hid
    have : id ∉ identifiers (fresh known ns) := fun h => notMem_of_mem_identifiers_fresh h hid
    simpa using this
  have hgone : (identifiers (fresh known ns)).filter
      (fun id => !(identifiers (fresh known ns)).contains id) = [] := by
    rw [List.filter_eq_nil_iff]
    intro id hid
    simpa using hid
  rw [List.filter_append, hkept, hgone, List.append_nil]

end IncidentTriage.Ingestion
