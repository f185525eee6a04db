import IncidentTriage.Trace.Narrative
import Mathlib.Tactic.Common

/-!
# How a narrative begins

Every narrative is made of spans, and its text opens with the same heading.
-/

namespace IncidentTriage.Narrative
open IncidentTriage.Trace

lemma exists_ofSpans {trace : Value} {n : Narrative} (h : ofTrace trace = .ok (some n)) :
    ∃ id spans, ofSpans? id spans = some n := by
  cases trace with
  | object fields =>
    unfold ofTrace at h
    rcases hraw : rawSpans (Fields.get fields "spans") with e | raw
    · simp [hraw, bind, Except.bind] at h
    · rcases hspans : raw.mapM (Span.parse (processes (Fields.get fields "processes"))) with e | spans
      · simp [hraw, hspans, bind, Except.bind] at h
      · simp only [hraw, hspans, bind, Except.bind, pure, Except.pure, Except.ok.injEq] at h
        exact ⟨_, _, h⟩
  | _ => simp [ofTrace] at h

lemma report_opening (traceId : String) (spans : List Span) (root : Span) (start durationMs : Int) :
    ∃ cs, (report traceId spans root start durationMs).toList = '=' :: cs := by
  obtain ⟨line, lines, hlines⟩ : ∃ line lines, reportLines traceId spans root start durationMs =
      "=== Distributed Trace ===" :: line :: lines := ⟨_, _, rfl⟩
  rw [report, hlines, String.intercalate_cons_cons]
  simp only [String.toList_append, List.append_assoc]
  exact ⟨_, rfl⟩

lemma text_opening {trace : Value} {n : Narrative} (h : ofTrace trace = .ok (some n)) :
    ∃ cs, n.text.toList = '=' :: cs := by
  obtain ⟨id, spans, hn⟩ := exists_ofSpans h
  cases spans with
  | nil => simp [ofSpans?] at hn
  | cons first rest =>
    rw [ofSpans?, Option.some.injEq] at hn
    rw [← hn]
    exact report_opening ..

end IncidentTriage.Narrative
