import IncidentTriage.Proofs.Filter.Written
import IncidentTriage.Proofs.Ingestion.Chunks
import IncidentTriage.Index.Statement
import IncidentTriage.Ingestion.Library

/-!
# What questions are narrowed to

The filter that narrows a search is written for the question, the metadata it looks at are written
for the chunks, and the two agree: a chunk of a narrative meets the filter exactly when the question
asks for traces like it, and a chunk of the documentation exactly when the question leaves room for
documentation. Both go through texts, the filter through its written form and the metadata through
the rows of the column store.
-/

namespace IncidentTriage

namespace Narrative
open IncidentTriage.Trace IncidentTriage.Text

/-- A raw trace of one span, of the given service. -/
def rawTraceOf (service : String) : Value :=
  .object [("spans", .list [.object [("processID", .text "p1")]]),
    ("processes", .object [("p1", .object [("serviceName", .text service)])])]

lemma exists_ofSpans_singleton (id : String) (span : Span) :
    ∃ n, ofSpans? id [span] = some n ∧ n.rootService = span.service ∧
      n.hasErrors = span.hasError := by
  have hroot : (Span.root? [span]).getD span = span := by
    cases hs : span.isRoot <;> simp [Span.root?, hs]
  refine ⟨_, rfl, ?_, ?_⟩
  · rw [hroot]
  · rw [List.any_cons, List.any_nil, Bool.or_false]

/-- Every name that is not empty is the root service of some trace. -/
lemma exists_ofTrace_rawTraceOf (service : String) (h : service ≠ "") :
    ∃ n, ofTrace (rawTraceOf service) = .ok (some n) ∧ n.rootService = service ∧
      n.hasErrors = false := by
  have hpresent : (ValueOf.text service).isPresent = true := by
    simpa [ValueOf.isPresent, Spelled.isEmpty] using h
  have hprocesses : processes (.object [("p1", .object [("serviceName", .text service)])]) =
      [("p1", service)] := by
    simp [processes, Fields.get, Fields.get?, hpresent, ValueOf.fieldText, ValueOf.display]
  obtain ⟨span, hspan, hservice, herror⟩ : ∃ span, Span.parse [("p1", service)]
      (.object [("processID", .text "p1")]) = .ok span ∧ span.service = service ∧
        span.hasError = false := ⟨_, rfl, rfl, rfl⟩
  have horder : inOrder [span] = [span] := List.mergeSort_singleton ..
  obtain ⟨n, hn, hroot, herrors⟩ := exists_ofSpans_singleton "unknown" span
  refine ⟨n, ?_, hroot.trans hservice, herrors.trans herror⟩
  have hofTrace : ofTrace (rawTraceOf service) = .ok (ofSpans? "unknown" (inOrder [span])) := by
    simp [ofTrace, rawTraceOf, Fields.get, Fields.get?, rawSpans, hprocesses, hspan, bind,
      Except.bind, pure, Except.pure, Span.orUnknown, ValueOf.fieldText]
  rw [hofTrace, horder, hn]

end Narrative

namespace Index

/-- A piece of metadata of a row. What is missing reads as empty. -/
def Row.read (r : Row) (key : String) : String :=
  ((r.metadata.find? (·.1 = key)).map (·.2)).getD ""

/-- Whether the row meets a written filter. Without a filter every row does. -/
def Row.meets (r : Row) : Option String → Except Filter.Error Bool
  | none => .ok true
  | some expression => (Filter.parse expression).map (Filter.satisfied r.read)

lemma read_rowOf (d : Document) (embedding : Value) (key : String) :
    (Session.rowOf d embedding).read key =
      ((Fields.get? d.metadata key).map ValueOf.metadataText).getD "" := by
  rw [Row.read, Session.rowOf, List.find?_map, Fields.get?, Option.map_map, Option.map_map]
  rfl

end Index

namespace Ingestion
open IncidentTriage.Index

/-- A chunk reads as its document does, but for its number and the count of chunks. -/
lemma read_of_mem_chunks {s : Splitters} {document d : Document} (h : d ∈ s.chunks document)
    (embedding : Value) {key : String} (hindex : key ≠ "chunkIndex") (hcount : key ≠ "chunkCount") :
    (Session.rowOf d embedding).read key = (Session.rowOf document embedding).read key := by
  obtain ⟨k, hk⟩ := exists_of_mem_chunksFrom _ _ _ _ h
  rw [read_rowOf, read_rowOf, hk, chunkMetadata, Fields.get?_set, if_neg hcount, Fields.get?_set,
    if_neg hindex]

end Ingestion

namespace Retrieval
open IncidentTriage.Index IncidentTriage.Ingestion

/-- What a question asks of a row: all the terms that its filter is written from. -/
def Admits (q : Classified) (r : Row) : Prop :=
  ∀ t ∈ termsFor q.intent ++ serviceTerms q.intent q.service, r.read t.key = t.value

lemma mem_serviceTerms {intent : Intent} {service : Option String} {t : Filter.Term} :
    t ∈ serviceTerms intent service ↔
      intent ≠ .architectureDocs ∧ ∃ name, service = some name ∧ name ≠ "" ∧
        t = ⟨"rootService", name⟩ := by
  cases service with
  | none => simp [serviceTerms]
  | some name =>
    by_cases hname : name = ""
    · simp [serviceTerms, hname]
    · by_cases hintent : intent = .architectureDocs
      · simp [serviceTerms, hintent]
      · simp [serviceTerms, hname, hintent, String.isEmpty_iff]

lemma isKey_of_mem_terms {q : Classified} {t : Filter.Term}
    (h : t ∈ termsFor q.intent ++ serviceTerms q.intent q.service) :
    Filter.isKey t.key.toList = true := by
  have hkeys : ∀ intent : Intent, ∀ u ∈ termsFor intent, Filter.isKey u.key.toList = true := by
    intro intent
    cases intent <;> decide
  rw [List.mem_append, mem_serviceTerms] at h
  obtain h | ⟨_, name, _, _, rfl⟩ := h
  · exact hkeys q.intent t h
  · show Filter.isKey "rootService".toList = true
    decide

/-- The filter of a question can be read, and the rows that meet it are those that the question
admits. -/
lemma meets_configure (q : Classified) (r : Row) :
    ∃ met, r.meets (configure q).filter = .ok met ∧ (met = true ↔ Admits q r) := by
  rcases hterms : termsFor q.intent ++ serviceTerms q.intent q.service with _ | ⟨t, rest⟩
  · refine ⟨true, ?_, ?_⟩
    · simp only [configure, hterms, Row.meets]
    · simp [Admits, hterms]
  · have hkeys : ∀ u ∈ t :: rest, Filter.isKey u.key.toList = true := by
      intro u hu
      exact isKey_of_mem_terms (q := q) (hterms ▸ hu)
    have hparse := Filter.parse_renderGroup (List.cons_ne_nil t rest) hkeys
    refine ⟨(t :: rest).all fun u => r.read u.key == u.value, ?_, ?_⟩
    · simp only [configure, hterms, Row.meets, hparse, Except.map, Filter.satisfied, List.any_cons,
        List.any_nil, Bool.or_false]
    · rw [Admits, hterms, List.all_eq_true]
      simp only [beq_iff_eq]

lemma admits_iff {q : Classified} {r : Row} :
    Admits q r ↔ (∀ t ∈ termsFor q.intent, r.read t.key = t.value) ∧
      (q.intent ≠ .architectureDocs →
        ∀ name, q.service = some name → name ≠ "" → r.read "rootService" = name) := by
  rw [Admits, List.forall_mem_append]
  refine and_congr_right fun _ => ⟨fun h hintent name hname hne => ?_, fun h t ht => ?_⟩
  · exact h ⟨"rootService", name⟩ (mem_serviceTerms.2 ⟨hintent, name, hname, hne, rfl⟩)
  · obtain ⟨hintent, name, hname, hne, rfl⟩ := mem_serviceTerms.1 ht
    exact h hintent name hname hne

section Chunks

variable {s : Splitters} {d : Document}

/-- A question admits a chunk of a narrative when it is not about the architecture, the narrative
has errors if the question is about errors, and its root service is the one that is named, if any. -/
lemma admits_narrative {n : Narrative} (h : d ∈ s.chunks n.document) (embedding : Value)
    (q : Classified) :
    Admits q (Session.rowOf d embedding) ↔ q.intent ≠ .architectureDocs ∧
      (q.intent = .errorAnalysis → n.hasErrors = true) ∧
      ∀ name, q.service = some name → name ≠ "" → n.rootService = name := by
  have htype : (Session.rowOf d embedding).read "type" = "telemetry" :=
    read_of_mem_chunks h embedding (by decide) (by decide)
  have hroot : (Session.rowOf d embedding).read "rootService" = n.rootService :=
    read_of_mem_chunks h embedding (by decide) (by decide)
  have herrors : (Session.rowOf d embedding).read "hasErrors" = "true" ↔ n.hasErrors = true := by
    have hread : (Session.rowOf d embedding).read "hasErrors" =
        if n.hasErrors then "true" else "false" :=
      read_of_mem_chunks h embedding (by decide) (by decide)
    rw [hread]
    cases n.hasErrors <;> decide
  rw [admits_iff, hroot]
  cases hintent : q.intent <;> simp [termsFor, htype, herrors]

/-- A question admits a chunk of the documentation when it is about the architecture, or about
nothing in particular and names no service. -/
lemma admits_documentation {f : File} {text : String} (h : d ∈ s.chunks (f.document text))
    (embedding : Value) (q : Classified) :
    Admits q (Session.rowOf d embedding) ↔ q.intent = .architectureDocs ∨
      (q.intent = .general ∧ ∀ name, q.service = some name → name = "") := by
  have htype : (Session.rowOf d embedding).read "type" = "documentation" :=
    read_of_mem_chunks h embedding (by decide) (by decide)
  have hroot : (Session.rowOf d embedding).read "rootService" = "" :=
    read_of_mem_chunks h embedding (by decide) (by decide)
  have hnamed : (∀ name, q.service = some name → name ≠ "" → "" = name) ↔
      ∀ name, q.service = some name → name = "" :=
    forall_congr' fun name => imp_congr_right fun _ =>
      ⟨fun h => by_contra fun hne => hne (h hne).symm, fun h hne => absurd h hne⟩
  rw [admits_iff, hroot, hnamed]
  cases hintent : q.intent <;> simp [termsFor, htype]

end Chunks

/-- The filter for a question can be read over every stored chunk, whatever text the named service
is. A chunk of a narrative meets it if and only if the question is not about the architecture, the
narrative has errors if the question is about errors, and its root service is the named one; a chunk
of the documentation if and only if the question is about the architecture, or about nothing in
particular and names no service. -/
theorem stored_chunks_meet_filter (q : Classified) (s : Splitters) (embedding : Value) :
    (∀ n : Narrative, ∀ d ∈ s.chunks n.document, ∃ met,
      (Session.rowOf d embedding).meets (configure q).filter = .ok met ∧
        (met = true ↔ q.intent ≠ .architectureDocs ∧
          (q.intent = .errorAnalysis → n.hasErrors = true) ∧
          ∀ name, q.service = some name → name ≠ "" → n.rootService = name)) ∧
    (∀ (f : File) (text : String), ∀ d ∈ s.chunks (f.document text), ∃ met,
      (Session.rowOf d embedding).meets (configure q).filter = .ok met ∧
        (met = true ↔ q.intent = .architectureDocs ∨
          (q.intent = .general ∧ ∀ name, q.service = some name → name = ""))) := by
  constructor
  · intro n d hd
    obtain ⟨met, hmet, hiff⟩ := meets_configure q (Session.rowOf d embedding)
    exact ⟨met, hmet, hiff.trans (admits_narrative hd embedding q)⟩
  · intro f text d hd
    obtain ⟨met, hmet, hiff⟩ := meets_configure q (Session.rowOf d embedding)
    exact ⟨met, hmet, hiff.trans (admits_documentation hd embedding q)⟩

theorem stored_chunks_meet_filter_of_quotes :
    let service := "it's \\' || type == 'documentation"
    let s : Splitters := ⟨⟨⟨4, 1, by decide⟩, .word⟩, ⟨⟨4, 1, by decide⟩, .word⟩⟩
    let filter := (configure ⟨.serviceSpecific, some service⟩).filter
    ∃ n, Narrative.ofTrace (Narrative.rawTraceOf service) = .ok (some n) ∧
      ∃ d ∈ s.chunks n.document, (Session.rowOf d (.list [])).meets filter = .ok true := by
  intro service s filter
  obtain ⟨n, hn, hroot, _⟩ := Narrative.exists_ofTrace_rawTraceOf service (by decide)
  obtain ⟨d, hd⟩ := List.exists_mem_of_ne_nil _ (isWhole_chunks s hn).nonempty
  refine ⟨n, hn, d, hd, ?_⟩
  obtain ⟨met, hmet, hiff⟩ :=
    (stored_chunks_meet_filter ⟨.serviceSpecific, some service⟩ s (.list [])).1 n d hd
  have hmeets : met = true := hiff.2 ⟨by simp, by simp, by simp [hroot]⟩
  rw [← hmeets]
  exact hmet

end Retrieval

end IncidentTriage
