import IncidentTriage.Proofs.Trace.SpanOrder

/-!
# Raw traces that are refused

A raw trace is refused if it is broken, which means that it is no object, that its spans are no list,
or that one of them is no object. There is one more thing that it is refused for, though the rest of
it can be read: a span whose logs are a number or true. Whatever else a field holds has a stand-in,
and the narrative has as many spans as the raw trace.
-/

namespace IncidentTriage

section Lists

variable {ε α β : Type} {f : α → Except ε β} {p : α → Bool}

/-- Of a list that is gone through, only the first member that is picked out can fail. -/
lemma mapM_of_find?_eq_some (hf : ∀ x, p x = false → ∃ y, f x = .ok y) {xs : List α} {x : α} {e : ε}
    (hx : xs.find? p = some x) (he : f x = .error e) : xs.mapM f = .error e := by
  induction xs with
  | nil => cases hx
  | cons x' rest ih =>
    rw [List.mapM_cons]
    cases hp : p x' with
    | true =>
      rw [List.find?_cons_of_pos hp, Option.some.injEq] at hx
      rw [hx, he]
      rfl
    | false =>
      rw [List.find?_cons_of_neg (by simp [hp])] at hx
      obtain ⟨y, hy⟩ := hf x' hp
      rw [hy, ih hx]
      rfl

lemma exists_mapM_of_find?_eq_none (hf : ∀ x, p x = false → ∃ y, f x = .ok y) {xs : List α}
    (hxs : xs.find? p = none) : ∃ ys, xs.mapM f = .ok ys ∧ ys.length = xs.length := by
  induction xs with
  | nil => exact ⟨[], rfl, rfl⟩
  | cons x rest ih =>
    rw [List.find?_eq_none, List.forall_mem_cons, Bool.not_eq_true, ← List.find?_eq_none] at hxs
    obtain ⟨y, hy⟩ := hf x hxs.1
    obtain ⟨ys, hys, hlength⟩ := ih hxs.2
    refine ⟨y :: ys, mapM_cons_eq_ok_iff.2 ⟨y, ys, hy, hys, rfl⟩, ?_⟩
    rw [List.length_cons, List.length_cons, hlength]

end Lists

namespace Trace

/-- What the tags and the logs of a raw span tell, if its logs can be gone through. -/
def findings (raw : Fields) : Except Error Findings :=
  (logEntries (Fields.get raw "logs")).map fun entries =>
    entries.foldl Findings.addLog ((attributes (Fields.get raw "tags")).foldl Findings.addTag {})

lemma logEntries_list (entries : List Value) : logEntries (.list entries) = .ok entries := by
  cases entries <;> rfl

/-- A raw span read from what it tells and what it names. -/
lemma parse_object (table : Processes) (raw : Fields) :
    Span.parse table (.object raw) = (findings raw).map fun found => {
      spanId := (Fields.get raw "spanID").fieldText
      parentId := parentOf (Fields.get raw "references")
      service := serviceOf table (Fields.get raw "processID").fieldText
      operation := Span.orUnknown (Fields.get raw "operationName").fieldText
      start := (Fields.get raw "startTime").toWhole
      duration := max (Fields.get raw "duration").toWhole 0
      hasError := found.hasError
      errorMessage := found.errorMessage
      tags := found.tags
      logs := found.logs } := by
  rw [Span.parse, findings]
  rcases logEntries (Fields.get raw "logs") with e | entries <;> rfl

end Trace

namespace Narrative
open IncidentTriage.Trace

def IsObject (v : Value) : Prop :=
  ∃ fields, v = .object fields

/-- The raw spans that a raw trace lists. -/
def listed : Value → List Value
  | .object trace =>
    match Fields.get trace "spans" with
    | .list raw => raw
    | _ => []
  | _ => []

/-- The raw trace is no object, its spans are neither null nor a list, or one of them is no object. -/
def IsBroken : Value → Prop
  | .object trace =>
    (Fields.get trace "spans" ≠ .null ∧ ∀ raw, Fields.get trace "spans" ≠ .list raw) ∨
      ∃ v ∈ listed (.object trace), ¬ IsObject v
  | _ => True

/-- Logs that cannot be gone through: a number other than zero, or true. Zero and false are as good as
no logs. -/
def areNoCollection : Value → Bool
  | .bool b => b
  | .int n => n != 0
  | .float x => x != 0.0
  | _ => false

/-- The raw span is no object, or its logs cannot be gone through. -/
def isUnreadable : Value → Bool
  | .object raw => areNoCollection (Fields.get raw "logs")
  | _ => true

/-- The first raw span that cannot be read is an object, so that it fails for its logs. -/
def FailsForLogs (trace : Value) : Prop :=
  ∃ v, (listed trace).find? isUnreadable = some v ∧ IsObject v

lemma logEntries_of_noCollection {logs : Value} (h : areNoCollection logs = true) :
    logEntries logs = .error (.logsKind logs.kindName) := by
  cases logs <;> simp_all [areNoCollection, logEntries, ValueOf.isPresent]

lemma exists_logEntries {logs : Value} (h : areNoCollection logs = false) :
    ∃ entries, logEntries logs = .ok entries := by
  cases logs with
  | list entries => exact ⟨entries, logEntries_list entries⟩
  | _ => simp_all [areNoCollection, logEntries, ValueOf.isPresent]

section Spans

variable (table : Processes)

lemma exists_parse {v : Value} (h : isUnreadable v = false) : ∃ s, Span.parse table v = .ok s := by
  cases v with
  | object raw =>
    obtain ⟨entries, hentries⟩ := exists_logEntries h
    rw [parse_object, findings, hentries]
    exact ⟨_, rfl⟩
  | _ => cases h

lemma parse_of_noCollection {raw : Fields} (h : areNoCollection (Fields.get raw "logs") = true) :
    Span.parse table (.object raw) = .error (.logsKind (Fields.get raw "logs").kindName) := by
  rw [parse_object, findings, logEntries_of_noCollection h]
  rfl

lemma parse_of_not_isObject {v : Value} (h : ¬ IsObject v) :
    Span.parse table v = .error (.spanKind v.kindName) := by
  cases v with
  | object raw => exact absurd ⟨raw, rfl⟩ h
  | _ => rfl

end Spans

/-- A raw trace whose spans can all be read. -/
lemma exists_ofTrace {fields : Fields} {raw : List Value}
    (hraw : Fields.get fields "spans" = .list raw) (hread : raw.find? isUnreadable = none) :
    (raw = [] ∧ ofTrace (.object fields) = .ok none) ∨
      ∃ n, raw ≠ [] ∧ ofTrace (.object fields) = .ok (some n) ∧ n.spanCount = raw.length := by
  obtain ⟨spans, hspans, hlength⟩ := exists_mapM_of_find?_eq_none
    (fun v => exists_parse (processes (Fields.get fields "processes"))) hread
  have htrace := ofTrace_of_spans hraw hspans
  have hsorted := (perm_inOrder spans).length_eq
  by_cases hnil : raw = []
  · have hempty : inOrder spans = [] := by
      rw [← List.length_eq_zero_iff, hsorted, hlength, hnil, List.length_nil]
    rw [hempty] at htrace
    exact .inl ⟨hnil, htrace⟩
  · have hne : inOrder spans ≠ [] := by
      rw [← List.length_pos_iff, hsorted, hlength]
      exact List.length_pos_iff.2 hnil
    obtain ⟨n, hn, htells⟩ := exists_tells (Span.orUnknown (Fields.get fields "traceID").fieldText) hne
    refine .inr ⟨n, hnil, htrace.trans (congrArg Except.ok hn), ?_⟩
    rw [spanCount, htells.told, hsorted, hlength]

lemma exists_narrative {fields : Fields} {raw : List Value}
    (hraw : Fields.get fields "spans" = .list raw) (hread : raw.find? isUnreadable = none)
    (hne : raw ≠ []) : ∃ n, ofTrace (.object fields) = .ok (some n) := by
  rcases exists_ofTrace hraw hread with ⟨hnil, -⟩ | ⟨n, -, hn, -⟩
  · exact absurd hnil hne
  · exact ⟨n, hn⟩

lemma ofTrace_of_find? {fields : Fields} {raw : List Value} {v : Value} {e : Trace.Error}
    (hraw : Fields.get fields "spans" = .list raw) (hv : raw.find? isUnreadable = some v)
    (he : ∀ table, Span.parse table v = .error e) : ofTrace (.object fields) = .error e := by
  have hfails := mapM_of_find?_eq_some
    (fun v => exists_parse (processes (Fields.get fields "processes"))) hv (he _)
  simp only [ofTrace, hraw, rawSpans, bind, Except.bind, hfails]

lemma listed_of_list {fields : Fields} {raw : List Value}
    (hraw : Fields.get fields "spans" = .list raw) : listed (.object fields) = raw := by
  rw [listed, hraw]

lemma not_failsForLogs_of_listed {trace : Value} (h : listed trace = []) : ¬ FailsForLogs trace := by
  rintro ⟨v, hv, -⟩
  rw [h] at hv
  cases hv

/-- A raw trace fails for the logs of a span, or it is broken, or it has a narrative, if any spans. -/
inductive Outcome (trace : Value) : Except Trace.Error (Option Narrative) → Prop
  | logs {e : Trace.Error} (hfails : FailsForLogs trace) (hkind : e.kind = .type) :
      Outcome trace (.error e)
  | broken {e : Trace.Error} (hreads : ¬ FailsForLogs trace) (hbroken : IsBroken trace)
      (hkind : e.kind = .malformedTrace) : Outcome trace (.error e)
  | empty (hreads : ¬ FailsForLogs trace) (hwhole : ¬ IsBroken trace) (hnil : listed trace = []) :
      Outcome trace (.ok none)
  | told {n : Narrative} (hreads : ¬ FailsForLogs trace) (hwhole : ¬ IsBroken trace)
      (hne : listed trace ≠ []) (hcount : n.spanCount = (listed trace).length) :
      Outcome trace (.ok (some n))

lemma outcome_of_list {fields : Fields} {raw : List Value}
    (hraw : Fields.get fields "spans" = .list raw) :
    Outcome (.object fields) (ofTrace (.object fields)) := by
  have hlisted := listed_of_list hraw
  cases hfind : raw.find? isUnreadable with
  | none =>
    have hreads : ¬ FailsForLogs (.object fields) := by
      rintro ⟨v, hv, -⟩
      rw [hlisted, hfind] at hv
      cases hv
    have hwhole : ¬ IsBroken (.object fields) := by
      rintro (⟨-, hlist⟩ | ⟨v, hv, hobject⟩)
      · exact hlist raw hraw
      · rw [hlisted] at hv
        refine List.find?_eq_none.1 hfind v hv ?_
        cases v with
        | object span => exact absurd ⟨span, rfl⟩ hobject
        | _ => rfl
    rcases exists_ofTrace hraw hfind with ⟨hnil, htrace⟩ | ⟨n, hne, htrace, hcount⟩
    · rw [htrace]
      exact .empty hreads hwhole (hlisted.trans hnil)
    · rw [htrace]
      exact .told hreads hwhole (hlisted ▸ hne) (hlisted ▸ hcount)
  | some v =>
    have hfirst : (listed (.object fields)).find? isUnreadable = some v := by rw [hlisted, hfind]
    by_cases hobject : IsObject v
    · obtain ⟨span, rfl⟩ := hobject
      have hlogs : isUnreadable (.object span) = true := List.find?_some hfind
      rw [ofTrace_of_find? hraw hfind fun table => parse_of_noCollection table hlogs]
      exact .logs ⟨_, hfirst, span, rfl⟩ rfl
    · rw [ofTrace_of_find? hraw hfind fun table => parse_of_not_isObject table hobject]
      refine .broken ?_ (.inr ⟨v, List.mem_of_find?_eq_some hfirst, hobject⟩) rfl
      rintro ⟨v', hv', hobject'⟩
      rw [hfirst, Option.some.injEq] at hv'
      exact hobject (hv' ▸ hobject')

lemma outcome (trace : Value) : Outcome trace (ofTrace trace) := by
  cases trace with
  | object fields =>
    cases hspans : Fields.get fields "spans" with
    | list raw => exact outcome_of_list hspans
    | null =>
      have hlisted : listed (.object fields) = [] := by rw [listed, hspans]
      have htrace : ofTrace (.object fields) = .ok none := by
        have hnil : inOrder [] = [] := (perm_inOrder []).eq_nil
        simp only [ofTrace, hspans, rawSpans, List.mapM_nil, pure, Except.pure, bind, Except.bind, hnil]
        rfl
      rw [htrace]
      refine .empty (not_failsForLogs_of_listed hlisted) ?_ hlisted
      rintro (⟨hnull, -⟩ | ⟨v, hv, -⟩)
      · exact hnull hspans
      · rw [hlisted] at hv
        exact List.not_mem_nil hv
    | _ =>
      have hlisted : listed (.object fields) = [] := by rw [listed, hspans]
      simp only [ofTrace, hspans, rawSpans]
      refine .broken (not_failsForLogs_of_listed hlisted) (.inl ?_) rfl
      rw [hspans]
      simp
  | _ => exact .broken (not_failsForLogs_of_listed rfl) trivial rfl

/-- A raw trace is refused for being broken, or else for the logs of its first span that cannot be
read, and for nothing else: whatever any other field of it holds, it has a narrative with one span for
each raw span, or none if there are no raw spans. -/
theorem refused_iff_broken_or_for_logs (trace : Value) :
    ((∃ e, ofTrace trace = .error e ∧ e.kind = .malformedTrace) ↔
      IsBroken trace ∧ ¬ FailsForLogs trace) ∧
    ((∃ e, ofTrace trace = .error e ∧ e.kind = .type) ↔ FailsForLogs trace) ∧
    (¬ IsBroken trace → ¬ FailsForLogs trace →
      (listed trace = [] ∧ ofTrace trace = .ok none) ∨
        ∃ n, listed trace ≠ [] ∧ ofTrace trace = .ok (some n) ∧
          n.spanCount = (listed trace).length) := by
  have houtcome := outcome trace
  generalize ofTrace trace = answer at houtcome
  cases houtcome with
  | logs hfails hkind =>
    refine ⟨iff_of_false ?_ fun h => h.2 hfails, iff_of_true ⟨_, rfl, hkind⟩ hfails,
      fun _ hreads => absurd hfails hreads⟩
    rintro ⟨e, ⟨⟩, he⟩
    exact Fault.Kind.noConfusion (hkind.symm.trans he)
  | broken hreads hbroken hkind =>
    refine ⟨iff_of_true ⟨_, rfl, hkind⟩ ⟨hbroken, hreads⟩, iff_of_false ?_ hreads,
      fun hwhole => absurd hbroken hwhole⟩
    rintro ⟨e, ⟨⟩, he⟩
    exact Fault.Kind.noConfusion (hkind.symm.trans he)
  | empty hreads hwhole hnil =>
    refine ⟨iff_of_false ?_ fun h => hwhole h.1, iff_of_false ?_ hreads, fun _ _ => .inl ⟨hnil, rfl⟩⟩
    all_goals
      rintro ⟨e, ⟨⟩, -⟩
  | told hreads hwhole hne hcount =>
    refine ⟨iff_of_false ?_ fun h => hwhole h.1, iff_of_false ?_ hreads,
      fun _ _ => .inr ⟨_, hne, rfl, hcount⟩⟩
    all_goals
      rintro ⟨e, ⟨⟩, -⟩

/-- A span whose logs are a number costs the whole trace, though the trace is not broken. -/
theorem numeric_logs_cost_trace :
    let trace : Value := .object [("spans", .list [.object [("logs", .int 5)]])]
    ¬ IsBroken trace ∧ ofTrace trace = .error (.logsKind "int") := by
  intro trace
  refine ⟨?_, rfl⟩
  rintro (⟨-, hlist⟩ | ⟨v, hv, hobject⟩)
  · exact hlist _ rfl
  · exact hobject ⟨_, List.mem_singleton.1 hv⟩

end Narrative

end IncidentTriage
