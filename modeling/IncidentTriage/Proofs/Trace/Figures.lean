import IncidentTriage.Proofs.Trace.Refused
import Mathlib.Algebra.Group.Int.Defs

/-!
# The figures of a narrative

A narrative has the spans of its raw trace in the order of their starts. Its other figures are drawn
from them: it begins with the first of them and lasts until the latest end, so that no span lasts
longer, and it has the first span for a root that can be one. Its metadata say the same. None of this
depends on what the raw spans hold for times, since what is no number counts as zero and no span ends
before it starts.
-/

namespace IncidentTriage.Narrative
open IncidentTriage.Trace

/-- The spans sorted by their starts. Those that start together stand as they did before. -/
structure SortsStably (spans sorted : List Span) : Prop where
  perm : sorted.Perm spans
  pairwise : sorted.Pairwise fun s t => s.start ≤ t.start
  ties : ∀ time, sorted.filter (·.start = time) = spans.filter (·.start = time)

/-- The first span that can be the root or, where none can, the first of all. -/
def HasRoot (spans : List Span) (root : Span) : Prop :=
  ∃ before after, spans = before ++ root :: after ∧ (∀ s ∈ before, s.isRoot = false) ∧
    ((∃ s ∈ spans, s.isRoot = true) → root.isRoot = true) ∧
    ((∀ s ∈ spans, s.isRoot = false) → before = [])

/-- The narrative sums up the spans that were read. -/
structure SumsUp (n : Narrative) (spans : List Span) : Prop where
  sorted : SortsStably spans n.spans
  count : n.spanCount = spans.length ∧ 1 ≤ n.spanCount
  start : n.spans.head?.map (·.start) = some n.start ∧ ∀ s ∈ spans, n.start ≤ s.start
  lasts : ∃ last ∈ spans, (∀ s ∈ spans, s.finish ≤ last.finish) ∧
    n.durationMs = (last.finish - n.start) / 1000
  nonneg : 0 ≤ n.durationMs
  longest : ∀ s ∈ spans, s.durationMs ≤ n.durationMs
  hasErrors : n.hasErrors = true ↔ ∃ s ∈ spans, s.hasError = true
  root : ∃ root, HasRoot n.spans root ∧ n.rootService = root.service ∧
    n.rootOperation = root.operation ∧
    n.metadata = [("source", .text "jaeger-trace"), ("traceId", .text n.traceId),
      ("rootService", .text root.service), ("rootOperation", .text root.operation),
      ("durationMs", .int n.durationMs), ("spanCount", .int spans.length),
      ("hasErrors", .text (if n.hasErrors then "true" else "false")), ("type", .text "telemetry")]

section Sorting

/-- Spans that start together are in order as they stand, and so the sorting leaves them there. -/
lemma filter_inOrder (spans : List Span) (time : Int) :
    (inOrder spans).filter (·.start = time) = spans.filter (·.start = time) := by
  have hsorted : (spans.filter (·.start = time)).Pairwise
      fun s t => decide (s.start ≤ t.start) = true := by
    refine List.pairwise_of_forall_mem_list fun s hs t ht => ?_
    have hstart := of_decide_eq_true (List.mem_filter.1 hs).2
    have hother := of_decide_eq_true (List.mem_filter.1 ht).2
    exact decide_eq_true (Int.le_of_eq (hstart.trans hother.symm))
  have hsub : (spans.filter (·.start = time)).Sublist (inOrder spans) :=
    List.sublist_mergeSort startsBefore_trans startsBefore_total hsorted List.filter_sublist
  have hfiltered := hsub.filter (·.start = time)
  rw [List.filter_filter] at hfiltered
  simp only [Bool.and_self] at hfiltered
  exact (hfiltered.eq_of_length ((perm_inOrder spans).filter _).length_eq.symm).symm

lemma sortsStably_inOrder (spans : List Span) : SortsStably spans (inOrder spans) :=
  ⟨perm_inOrder spans, pairwise_inOrder spans, filter_inOrder spans⟩

/-- In order, the first span is the earliest. -/
lemma head?_of_min {spans : List Span} {time : Int}
    (h : spans.Pairwise fun s t => s.start ≤ t.start) (hmin : (spans.map (·.start)).min? = some time) :
    spans.head?.map (·.start) = some time := by
  cases spans with
  | nil => cases hmin
  | cons first rest =>
    have hmem := (List.min?_eq_some_iff.1 hmin).1
    have hle := (List.min?_eq_some_iff.1 hmin).2 first.start (by simp)
    obtain ⟨s, hs, rfl⟩ := List.mem_map.1 hmem
    rw [List.head?_cons, Option.map_some]
    rcases List.mem_cons.1 hs with rfl | hs
    · rfl
    · rw [Int.le_antisymm ((List.pairwise_cons.1 h).1 s hs) hle]

lemma hasRoot_of_root? {spans : List Span} {root : Span} (h : Span.root? spans = some root) :
    HasRoot spans root := by
  rw [Span.root?, Option.or_eq_some_iff] at h
  rcases h with hfind | ⟨hnone, hhead⟩
  · obtain ⟨hroot, before, after, rfl, hbefore⟩ := List.find?_eq_some_iff_append.1 hfind
    refine ⟨before, after, rfl, fun s hs => by simpa using hbefore s hs, fun _ => hroot, fun hall => ?_⟩
    have := hall root (by simp)
    simp [hroot] at this
  · obtain ⟨rest, rfl⟩ := List.head?_eq_some_iff.1 hhead
    rw [List.find?_eq_none] at hnone
    refine ⟨[], rest, rfl, by simp, ?_, fun _ => rfl⟩
    rintro ⟨s, hs, hroot⟩
    exact absurd hroot (hnone s hs)

end Sorting

section Reading

variable {ε α β : Type}

lemma forall₂_of_mapM {f : α → Except ε β} {xs : List α} {ys : List β} (h : xs.mapM f = .ok ys) :
    List.Forall₂ (fun x y => f x = .ok y) xs ys := by
  induction xs generalizing ys with
  | nil =>
    cases h
    exact .nil
  | cons x xs ih =>
    obtain ⟨y, rest, hy, hrest, rfl⟩ := mapM_cons_eq_ok_iff.1 h
    exact .cons hy (ih hrest)

lemma duration_nonneg {table : Processes} {v : Value} {s : Span} (h : Span.parse table v = .ok s) :
    0 ≤ s.duration := by
  cases v with
  | object raw =>
    rw [parse_object] at h
    cases hfound : findings raw with
    | error e =>
      rw [hfound] at h
      cases h
    | ok found =>
      rw [hfound] at h
      cases h
      exact Int.le_max_right _ _
  | _ => cases h

lemma durations_nonneg {table : Processes} {raw : List Value} {spans : List Span}
    (h : List.Forall₂ (fun v s => Span.parse table v = .ok s) raw spans) :
    ∀ s ∈ spans, 0 ≤ s.duration := by
  induction h with
  | nil => simp
  | cons hs _ ih => exact List.forall_mem_cons.2 ⟨duration_nonneg hs, ih⟩

/-- A narrative comes from spans that could all be read. -/
lemma exists_read {trace : Value} {n : Narrative} (h : ofTrace trace = .ok (some n)) :
    ∃ fields raw spans, trace = .object fields ∧ Fields.get fields "spans" = .list raw ∧
      raw.mapM (Span.parse (processes (Fields.get fields "processes"))) = .ok spans ∧
      ofSpans? (Span.orUnknown (Fields.get fields "traceID").fieldText) (inOrder spans) = some n := by
  have houtcome := outcome trace
  rw [h] at houtcome
  cases houtcome with
  | told hreads hwhole hne hcount =>
    cases trace with
    | object fields =>
      cases hraw : Fields.get fields "spans" with
      | list raw =>
        cases hspans : raw.mapM (Span.parse (processes (Fields.get fields "processes"))) with
        | error e =>
          simp [ofTrace, hraw, rawSpans, hspans, bind, Except.bind] at h
        | ok spans =>
          rw [ofTrace_of_spans hraw hspans, Except.ok.injEq] at h
          exact ⟨fields, raw, spans, rfl, hraw, hspans, h⟩
      | _ => simp [listed, hraw] at hne
    | _ => simp [listed] at hne

end Reading

/-- No span that was read lasts longer than from the earliest start to the latest end. -/
lemma durationMs_le {s : Span} {start finish : Int} (hstart : start ≤ s.start)
    (hfinish : s.finish ≤ finish) : s.durationMs ≤ (finish - start) / 1000 := by
  have hduration : s.duration ≤ finish - start := by
    rw [Span.finish] at hfinish
    omega
  exact Int.ediv_le_ediv (by decide) hduration

lemma Tells.sumsUp {n : Narrative} {traceId : String} {spans : List Span}
    (h : Tells n traceId (inOrder spans)) (hdurations : ∀ s ∈ spans, 0 ≤ s.duration) :
    SumsUp n spans := by
  have hperm := perm_inOrder spans
  have hmem (s : Span) : s ∈ n.spans ↔ s ∈ spans := by rw [h.told, hperm.mem_iff]
  have hcount : n.spanCount = spans.length := by rw [spanCount, h.told, hperm.length_eq]
  have hstart := List.min?_eq_some_iff.1 h.start
  obtain ⟨finish, hmax, hlasts⟩ := h.durationMs
  have hfinish := List.max?_eq_some_iff.1 hmax
  obtain ⟨root, hroot, hservice, hoperation⟩ := h.root
  rw [← h.told] at hstart hfinish hroot
  have hearliest : ∀ s ∈ spans, n.start ≤ s.start :=
    fun s hs => hstart.2 _ (List.mem_map_of_mem ((hmem s).2 hs))
  have hlatest : ∀ s ∈ spans, s.finish ≤ finish :=
    fun s hs => hfinish.2 _ (List.mem_map_of_mem ((hmem s).2 hs))
  obtain ⟨last, hlast, rfl⟩ := List.mem_map.1 hfinish.1
  have hlast' := (hmem last).1 hlast
  -- The latest end is no earlier than the earliest start, because no duration is negative.
  have hspan : n.start ≤ last.finish := by
    have := hearliest last hlast'
    have := hdurations last hlast'
    rw [Span.finish]
    omega
  rw [Int.max_eq_left (by omega)] at hlasts
  refine ⟨?_, ⟨hcount, ?_⟩, ⟨?_, hearliest⟩, ⟨last, hlast', hlatest, hlasts⟩, ?_, ?_, ?_, root,
    hasRoot_of_root? hroot, hservice, hoperation, ?_⟩
  · rw [h.told]
    exact sortsStably_inOrder spans
  · rw [hcount]
    exact List.length_pos_of_mem hlast'
  · rw [h.told]
    exact head?_of_min (pairwise_inOrder spans) h.start
  · rw [hlasts]
    omega
  · intro s hs
    rw [hlasts]
    exact durationMs_le (hearliest s hs) (hlatest s hs)
  · rw [h.hasErrors, List.any_eq_true]
    simp only [hperm.mem_iff]
  · rw [metadata, hcount, hservice, hoperation]

/-- A narrative sums up the spans of its raw trace, whatever stands there for their times. -/
theorem figures_sum_up_spans {trace : Value} {n : Narrative} (h : ofTrace trace = .ok (some n)) :
    ∃ fields raw spans, trace = .object fields ∧ Fields.get fields "spans" = .list raw ∧
      List.Forall₂ (fun v s => Span.parse (processes (Fields.get fields "processes")) v = .ok s)
        raw spans ∧ SumsUp n spans := by
  obtain ⟨fields, raw, spans, rfl, hraw, hspans, hn⟩ := exists_read h
  have hread := forall₂_of_mapM hspans
  have hne : inOrder spans ≠ [] := by
    intro hnil
    rw [hnil] at hn
    cases hn
  obtain ⟨n', hn', htells⟩ := exists_tells (Span.orUnknown (Fields.get fields "traceID").fieldText) hne
  rw [hn, Option.some.injEq] at hn'
  subst hn'
  exact ⟨fields, raw, spans, rfl, hraw, hread, htells.sumsUp (durations_nonneg hread)⟩

theorem figures_sum_up_spans_of_odd_times :
    let late : Value := .object [("startTime", .text "4_000 "), ("duration", .bool true)]
    let early : Value := .object [("startTime", .int (-2000)), ("duration", .text "7000"),
      ("references", .list [.object [("refType", .text "CHILD_OF"), ("spanID", .text "a")]])]
    let long : Value := .object [("startTime", .text "soon"), ("duration", .int (10 ^ 20))]
    let backward : Value := .object [("startTime", .list []), ("duration", .int (-1))]
    let trace : Value := .object [("spans", .list [late, early, long, backward])]
    ∃ n, ofTrace trace = .ok (some n) ∧ ∃ fields raw spans, trace = .object fields ∧
      Fields.get fields "spans" = .list raw ∧
      List.Forall₂ (fun v s => Span.parse (processes (Fields.get fields "processes")) v = .ok s)
        raw spans ∧ SumsUp n spans := by
  intro late early long backward trace
  have hspans : Fields.get [("spans", .list [late, early, long, backward])] "spans" =
      .list [late, early, long, backward] := rfl
  obtain ⟨n, hn⟩ := exists_narrative hspans rfl (List.cons_ne_nil _ _)
  exact ⟨n, hn, figures_sum_up_spans hn⟩

end IncidentTriage.Narrative
