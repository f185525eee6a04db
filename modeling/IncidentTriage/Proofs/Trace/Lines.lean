import IncidentTriage.Proofs.Trace.Figures
import Mathlib.Data.List.Induction

/-!
# The lines of a narrative's text

The text of a narrative can be read back, as long as what it is made of has no newlines. Each line
begins with what tells of which kind it is: a header with a bracket, what stands below it with a blank,
a title with a dash and the summary of an error with a capital E. So whatever the names, the tags and
the logs look like, every span and every error is stated once, in order, and so are the titles of those
parts that there are.
-/

namespace IncidentTriage

namespace Trace
open IncidentTriage.Decimal IncidentTriage.Calendar

/-- The lines of a text, cut at its newlines. -/
def linesOf (text : String) : List String :=
  (text.split '\n').toList.map (·.copy)

/-- The text has no newline. -/
def IsOneLine (text : String) : Prop :=
  '\n' ∉ text.toList

instance (text : String) : Decidable (IsOneLine text) :=
  inferInstanceAs (Decidable ('\n' ∉ text.toList))

section Newlines

@[simp] lemma isOneLine_append {a b : String} : IsOneLine (a ++ b) ↔ IsOneLine a ∧ IsOneLine b := by
  simp [IsOneLine]

lemma newline_notMem_toDigits (n : Nat) : '\n' ∉ Nat.toDigits 10 n := fun h =>
  absurd (Nat.isDigit_of_mem_toDigits (by decide) (by decide) h) (by decide)

@[simp] lemma isOneLine_nat (n : Nat) : IsOneLine n.repr := by
  rw [IsOneLine, Nat.toList_repr]
  exact newline_notMem_toDigits n

@[simp] lemma isOneLine_int (i : Int) : IsOneLine i.repr := by
  cases i with
  | ofNat n => exact isOneLine_nat n
  | negSucc n => exact isOneLine_append.2 ⟨by decide, isOneLine_nat (n + 1)⟩

@[simp] lemma isOneLine_padded (width n : Nat) : IsOneLine (String.ofList (padded width n)) := by
  simp [IsOneLine, padded, newline_notMem_toDigits]

@[simp] lemma isOneLine_ite {p : Prop} [Decidable p] {a b : String} :
    IsOneLine (if p then a else b) ↔ if p then IsOneLine a else IsOneLine b := by
  split <;> rfl

@[simp] lemma toString_text (text : String) : toString text = text := rfl

@[simp] lemma isOneLine_timeText (micros : Int) : IsOneLine (timeText micros) := by
  rw [timeText]
  split
  · simp +decide [instantText]
  · simp +decide

lemma isOneLine_intercalate {separator : String} {parts : List String} (h : IsOneLine separator)
    (hparts : ∀ part ∈ parts, IsOneLine part) : IsOneLine (separator.intercalate parts) := by
  induction parts with
  | nil => simp [IsOneLine]
  | cons part rest ih =>
    rw [List.forall_mem_cons] at hparts
    cases rest with
    | nil => simpa using hparts.1
    | cons next rest =>
      rw [String.intercalate_cons_cons, isOneLine_append, isOneLine_append]
      exact ⟨⟨hparts.1, h⟩, ih hparts.2⟩

lemma distinct_subset (names : List String) : distinct names ⊆ names := by
  have hfold : ∀ names seen : List String,
      names.foldl (fun seen n => if seen.contains n then seen else seen ++ [n]) seen ⊆ seen ++ names := by
    intro names
    induction names with
    | nil => simp
    | cons name rest ih =>
      intro seen
      rw [List.foldl_cons]
      split
      · refine List.Subset.trans (ih seen) (List.append_subset.2 ⟨List.subset_append_left _ _, ?_⟩)
        exact List.subset_append_of_subset_right _ (List.subset_cons_self name rest)
      · simpa using ih (seen ++ [name])
  exact hfold names []

lemma isOneLine_headLines {traceId : String} {spans : List Span} {root : Span}
    (hid : IsOneLine traceId) (hservices : ∀ s ∈ spans, IsOneLine s.service)
    (hroot : IsOneLine root.service ∧ IsOneLine root.operation) (start durationMs : Int) :
    ∀ line ∈ headLines traceId spans root start durationMs, IsOneLine line := by
  have hlist : IsOneLine (", ".intercalate (distinct (spans.map (·.service)))) := by
    refine isOneLine_intercalate (by decide) fun service hservice => ?_
    obtain ⟨s, hs, rfl⟩ := List.mem_map.1 (distinct_subset _ hservice)
    exact hservices s hs
  simp +decide [headLines, hid, hroot, hlist]

end Newlines

/-- The line begins with the character. -/
def opensWith (c : Char) (line : String) : Bool :=
  line.toList.head? == some c

section Openings

variable {c : Char}

lemma filter_map_opensWith {α : Type} {f : α → String} (hf : ∀ a, opensWith c (f a) = false)
    (as : List α) : (as.map f).filter (opensWith c) = [] := by
  rw [List.filter_eq_nil_iff]
  intro line hline
  obtain ⟨a, -, rfl⟩ := List.mem_map.1 hline
  simp [hf]

lemma opensWith_spanHeader (s : Span) : opensWith c (spanHeader s) = (c == '[') := by
  simp [opensWith, spanHeader, Bool.beq_comm]

lemma opensWith_errorLine (s : Span) : opensWith c (errorLine s) = (c == 'E') := by
  simp [opensWith, errorLine, Bool.beq_comm]

/-- Of the lines of a span all but the header are empty or begin with a blank. -/
lemma filter_spanLines (hc : c ≠ ' ') (s : Span) :
    (spanLines s).filter (opensWith c) = if c = '[' then [spanHeader s] else [] := by
  have htags : (s.tags.map fun t => s!"  {t.1}: {t.2}").filter (opensWith c) = [] :=
    filter_map_opensWith (fun t => by simp [opensWith, hc.symm]) _
  have herror : ((shownError s).toList.map fun m => s!"  ERROR: {m}").filter (opensWith c) = [] :=
    filter_map_opensWith (fun m => by simp [opensWith, hc.symm]) _
  have hlogs : (s.logs.map fun l => s!"  event: {l}").filter (opensWith c) = [] :=
    filter_map_opensWith (fun l => by simp [opensWith, hc.symm]) _
  have hempty : opensWith c "" = false := rfl
  rw [spanLines, List.filter_append, List.filter_append, List.filter_append, List.filter_append,
    htags, herror, hlogs]
  simp [List.filter_cons, opensWith_spanHeader, hempty]

variable {spans : List Span} (durationMs : Int)

/-- The lines that tell of a slow trace and the span it is slow for. -/
def slowNote (durationMs : Int) (s : Span) : List String :=
  ["--- Performance Note ---", s!"This trace is SLOW ({durationMs}ms). " ++
    s!"Slowest span: [{s.service}] {s.operation} at {s.durationMs}ms."]

lemma slowLines_of_slowest? {s : Span} (hs : slowest? spans = some s) :
    slowLines durationMs spans = if slowTraceMs < durationMs then slowNote durationMs s else [] := by
  rw [slowLines, hs]
  rfl

lemma filter_slowNote (hc : c ≠ 'T') (s : Span) :
    (slowNote durationMs s).filter (opensWith c) =
      if c = '-' then ["--- Performance Note ---"] else [] := by
  simp [slowNote, List.filter_cons, opensWith, hc.symm, eq_comm (a := c)]

lemma filter_slowLines (hc : c ≠ 'T') {s : Span} (hs : slowest? spans = some s) :
    (slowLines durationMs spans).filter (opensWith c) =
      if c = '-' ∧ slowTraceMs < durationMs then ["--- Performance Note ---"] else [] := by
  rw [slowLines_of_slowest? durationMs hs, ite_and]
  by_cases hslow : slowTraceMs < durationMs
  · rw [if_pos hslow, if_pos hslow, filter_slowNote durationMs hc]
  · rw [if_neg hslow, if_neg hslow, ite_self, List.filter_nil]

lemma filter_errorLines :
    (errorLines spans).filter (opensWith c) =
      (if c = '-' ∧ spans.any (·.hasError) = true then ["--- Error Summary ---"] else []) ++
        if c = 'E' then (spans.filter (·.hasError)).map errorLine else [] := by
  have htitle : opensWith c "--- Error Summary ---" = (c == '-') := by
    simp [opensWith, Bool.beq_comm]
  have hlines : ((spans.filter (·.hasError)).map errorLine).filter (opensWith c) =
      if c = 'E' then (spans.filter (·.hasError)).map errorLine else [] := by
    split
    · exact List.filter_eq_self.2 (List.forall_mem_map.2 fun s _ => by simpa [opensWith_errorLine])
    · exact filter_map_opensWith (fun s => by simpa [opensWith_errorLine]) _
  by_cases herror : spans.any (·.hasError) = true
  · rw [errorLines, if_pos herror, List.filter_cons, hlines, htitle]
    by_cases hdash : c = '-'
    · simp [hdash, herror]
    · simp [hdash]
  · have hnone : spans.filter (·.hasError) = [] := by simpa using herror
    simp [errorLines, herror, hnone]

end Openings

/-- The first span that no other outlasts. -/
def IsSlowest (spans : List Span) (slowest : Span) : Prop :=
  ∃ before after, spans = before ++ slowest :: after ∧
    (∀ s ∈ before, s.duration < slowest.duration) ∧ ∀ s ∈ after, s.duration ≤ slowest.duration

lemma IsSlowest.concat_of_lt {spans : List Span} {best s : Span} (h : IsSlowest spans best)
    (hs : best.duration < s.duration) : IsSlowest (spans ++ [s]) s := by
  obtain ⟨before, after, rfl, hbefore, hafter⟩ := h
  refine ⟨before ++ best :: after, [], rfl, fun t ht => ?_, by simp⟩
  rcases List.mem_append.1 ht with ht | ht
  · exact Int.lt_trans (hbefore t ht) hs
  · rcases List.mem_cons.1 ht with rfl | ht
    · exact hs
    · exact Int.lt_of_le_of_lt (hafter t ht) hs

lemma IsSlowest.concat_of_le {spans : List Span} {best s : Span} (h : IsSlowest spans best)
    (hs : s.duration ≤ best.duration) : IsSlowest (spans ++ [s]) best := by
  obtain ⟨before, after, rfl, hbefore, hafter⟩ := h
  refine ⟨before, after ++ [s], by simp, hbefore, fun t ht => ?_⟩
  rcases List.mem_append.1 ht with ht | ht
  · exact hafter t ht
  · rw [List.mem_singleton.1 ht]
    exact hs

lemma isSlowest_slowest? {spans : List Span} {s : Span} (h : slowest? spans = some s) :
    IsSlowest spans s := by
  cases spans with
  | nil => cases h
  | cons first rest =>
    rw [slowest?, Option.some.injEq] at h
    subst h
    induction rest using List.reverseRecOn with
    | nil => exact ⟨[], [], rfl, by simp, by simp⟩
    | append_singleton rest s ih =>
      rw [List.foldl_append, List.foldl_cons, List.foldl_nil, ← List.cons_append]
      split
      next hlt => exact ih.concat_of_lt hlt
      next hle => exact ih.concat_of_le (Int.not_lt.1 hle)

lemma exists_slowest? {spans : List Span} (h : spans ≠ []) : ∃ s, slowest? spans = some s := by
  cases spans with
  | nil => exact absurd rfl h
  | cons first rest => exact ⟨_, rfl⟩

/-- None of the texts of a span has a newline. -/
structure UnbrokenSpan (s : Span) : Prop where
  service : IsOneLine s.service
  operation : IsOneLine s.operation
  tags : ∀ tag ∈ s.tags, IsOneLine tag.1 ∧ IsOneLine tag.2
  errorMessage : ∀ message ∈ s.errorMessage, IsOneLine message
  logs : ∀ entry ∈ s.logs, IsOneLine entry

section Unbroken

variable {s : Span} {spans : List Span}

lemma isOneLine_spanHeader (hs : UnbrokenSpan s) : IsOneLine (spanHeader s) := by
  simp +decide [spanHeader, hs.service, hs.operation]

lemma isOneLine_shownError (hs : UnbrokenSpan s) : ∀ message ∈ shownError s, IsOneLine message := by
  intro message hmessage
  rw [shownError] at hmessage
  split at hmessage
  · exact hs.errorMessage message (Option.mem_filter_iff.1 hmessage).1
  · cases hmessage

lemma isOneLine_spanLines (hs : UnbrokenSpan s) : ∀ line ∈ spanLines s, IsOneLine line := by
  have herror := isOneLine_shownError hs
  intro line hline
  simp only [spanLines, List.mem_append, List.mem_singleton, List.mem_map, Option.mem_toList] at hline
  rcases hline with (((rfl | ⟨tag, htag, rfl⟩) | ⟨message, hmessage, rfl⟩) | ⟨entry, hentry, rfl⟩) | rfl
  · exact isOneLine_spanHeader hs
  · simp +decide [hs.tags tag htag]
  · simp +decide [herror message hmessage]
  · simp +decide [hs.logs entry hentry]
  · decide

lemma isOneLine_errorLine (hs : UnbrokenSpan s) : IsOneLine (errorLine s) := by
  have hmessage : IsOneLine ((shownError s).getD "unknown error") := by
    cases hshown : shownError s with
    | none => decide
    | some message => exact isOneLine_shownError hs message hshown
  simp +decide [errorLine, hs.service, hs.operation, hmessage]

lemma isOneLine_reportLines {traceId : String} {root : Span} (hid : IsOneLine traceId)
    (hspans : ∀ s ∈ spans, UnbrokenSpan s) (hroot : root ∈ spans) (start durationMs : Int) :
    ∀ line ∈ reportLines traceId spans root start durationMs, IsOneLine line := by
  intro line hline
  rw [reportLines, List.mem_append, List.mem_append, List.mem_append] at hline
  rcases hline with ((hline | hline) | hline) | hline
  · have hroot := hspans root hroot
    exact isOneLine_headLines hid (fun s hs => (hspans s hs).service) ⟨hroot.service, hroot.operation⟩
      start durationMs line hline
  · obtain ⟨s, hs, hline⟩ := List.mem_flatMap.1 hline
    exact isOneLine_spanLines (hspans s hs) line hline
  · rw [slowLines] at hline
    split at hline
    · split at hline
      next s hslowest =>
        have hs : UnbrokenSpan s := by
          obtain ⟨before, after, rfl, -⟩ := isSlowest_slowest? hslowest
          exact hspans s (by simp)
        rcases List.mem_pair.1 hline with rfl | rfl
        · decide
        · simp +decide [hs.service, hs.operation]
      next => cases hline
    · cases hline
  · rw [errorLines] at hline
    split at hline
    · rcases List.mem_cons.1 hline with rfl | hline
      · decide
      · obtain ⟨s, hs, rfl⟩ := List.mem_map.1 hline
        exact isOneLine_errorLine (hspans s (List.mem_filter.1 hs).1)
    · cases hline

end Unbroken

/-- Lines that have no newline are read back from what they are joined to. -/
lemma linesOf_intercalate {lines : List String} (hne : lines ≠ []) (h : ∀ line ∈ lines, IsOneLine line) :
    linesOf ("\n".intercalate lines ++ "\n") = lines ++ [""] := by
  have hone : ∀ line ∈ lines ++ [""], '\n' ∉ line.toList :=
    List.forall_mem_append.2 ⟨h, by simp⟩
  have hjoin : "\n".intercalate lines ++ "\n" = (String.singleton '\n').intercalate (lines ++ [""]) := by
    rw [String.intercalate_append_of_ne_nil hne (List.cons_ne_nil _ _)]
    simp
  rw [linesOf, hjoin, String.toList_split_intercalate hone]
  simp

section Beginnings

variable {c : Char} {line start : String}

lemma startsWith_bracket (line : String) : line.startsWith "[" = opensWith '[' line := by
  rw [Bool.eq_iff_iff, String.startsWith_string_iff, opensWith, beq_iff_eq]
  exact List.singleton_prefix_iff_head?_eq_some

lemma opensWith_of_startsWith (hstart : opensWith c start = true) (h : line.startsWith start = true) :
    opensWith c line = true := by
  obtain ⟨rest, hline⟩ := String.startsWith_string_iff.1 h
  rw [opensWith, beq_iff_eq] at hstart ⊢
  rw [← hline, List.head?_append, hstart, Option.some_or]

lemma filter_startsWith (hstart : opensWith c start = true) (lines : List String) :
    lines.filter (·.startsWith start) = (lines.filter (opensWith c)).filter (·.startsWith start) := by
  rw [List.filter_filter]
  refine List.filter_congr fun line _ => ?_
  rw [Bool.eq_iff_iff, Bool.and_eq_true]
  exact ⟨fun h => ⟨h, opensWith_of_startsWith hstart h⟩, And.left⟩

lemma startsWith_errorLine (s : Span) : (errorLine s).startsWith "ERROR in [" = true := by
  rw [String.startsWith_string_iff, errorLine, String.toList_append]
  simp

/-- A header that does not end in the mark of an error ends in a parenthesis. -/
lemma endsWith_spanHeader (s : Span) :
    (spanHeader s).endsWith "*** ERROR ***" = true ↔ s.hasError = true := by
  change (spanHeader s).toSlice.endsWith "*** ERROR ***" = true ↔ s.hasError = true
  rw [String.Slice.endsWith_string_iff, String.copy_toSlice, spanHeader]
  cases hs : s.hasError with
  | true =>
    simp only [↓reduceIte, String.toList_append, iff_true]
    exact List.suffix_append_of_suffix ⟨[' ', ' '], rfl⟩
  | false =>
    refine iff_of_false (fun ⟨rest, h⟩ => ?_) (by decide)
    have hlast := congrArg List.getLast? h
    rw [if_neg (by decide), String.append_empty, String.toList_append, List.getLast?_append,
      List.getLast?_append] at hlast
    simp at hlast

end Beginnings

section Kinds

variable {traceId : String} {spans : List Span} {root slowest : Span} {start durationMs : Int}

/-- The lines of a report that begin with a character, which is neither a blank as below a header nor
the first letter of what is said of a slow trace. -/
lemma filter_reportLines {c : Char} (hblank : c ≠ ' ') (hslow : c ≠ 'T')
    (hslowest : slowest? spans = some slowest) :
    (reportLines traceId spans root start durationMs ++ [""]).filter (opensWith c) =
      (headLines traceId spans root start durationMs).filter (opensWith c) ++
        (if c = '[' then spans.map spanHeader else []) ++
        (if c = '-' ∧ slowTraceMs < durationMs then ["--- Performance Note ---"] else []) ++
        ((if c = '-' ∧ spans.any (·.hasError) = true then ["--- Error Summary ---"] else []) ++
          if c = 'E' then (spans.filter (·.hasError)).map errorLine else []) := by
  have hspans : (spans.flatMap spanLines).filter (opensWith c) =
      if c = '[' then spans.map spanHeader else [] := by
    rw [List.filter_flatMap]
    simp only [filter_spanLines hblank]
    split
    · exact (List.map_eq_flatMap ..).symm
    · exact List.flatMap_eq_nil_iff.2 fun _ _ => rfl
  have hlast : [""].filter (opensWith c) = [] := rfl
  rw [reportLines, List.filter_append, List.filter_append, List.filter_append, List.filter_append,
    hspans, filter_slowLines durationMs hslow hslowest, filter_errorLines, hlast, List.append_nil]

lemma headers_of_report (hslowest : slowest? spans = some slowest) :
    (reportLines traceId spans root start durationMs ++ [""]).filter (·.startsWith "[") =
      spans.map spanHeader := by
  simp only [startsWith_bracket]
  rw [filter_reportLines (by decide) (by decide) hslowest]
  simp [headLines, opensWith]

lemma titles_of_report (hslowest : slowest? spans = some slowest) {title : String}
    (htitle : opensWith '-' title = true) :
    (reportLines traceId spans root start durationMs ++ [""]).count title =
      (["--- Span Breakdown ---"] ++
        ((if slowTraceMs < durationMs then ["--- Performance Note ---"] else []) ++
          if spans.any (·.hasError) = true then ["--- Error Summary ---"] else [])).count title := by
  rw [← List.count_filter htitle, filter_reportLines (by decide) (by decide) hslowest]
  simp [headLines, opensWith]

lemma errors_of_report (hslowest : slowest? spans = some slowest) :
    (reportLines traceId spans root start durationMs ++ [""]).filter (·.startsWith "ERROR in [") =
      (spans.filter (·.hasError)).map errorLine := by
  have hopens : opensWith 'E' "ERROR in [" = true := rfl
  have herrors : ∀ line ∈ (spans.filter (·.hasError)).map errorLine,
      line.startsWith "ERROR in [" = true :=
    List.forall_mem_map.2 fun s _ => startsWith_errorLine s
  rw [filter_startsWith hopens, filter_reportLines (by decide) (by decide) hslowest,
    ← List.filter_eq_self.2 herrors]
  simp [headLines, opensWith]

lemma note_of_report (hslowest : slowest? spans = some slowest) (hslow : slowTraceMs < durationMs) :
    slowNote durationMs slowest <:+: reportLines traceId spans root start durationMs ++ [""] := by
  rw [reportLines, slowLines_of_slowest? _ hslowest, if_pos hslow, List.append_assoc]
  exact List.infix_append _ _ _

end Kinds

end Trace

namespace Narrative
open IncidentTriage.Trace

/-- None of the texts that the narrative is made of has a newline. -/
structure Unbroken (n : Narrative) : Prop where
  traceId : IsOneLine n.traceId
  spans : ∀ s ∈ n.spans, UnbrokenSpan s

/-- What the lines of a narrative's text say of its spans. -/
structure Faithful (n : Narrative) (lines : List String) : Prop where
  headers : lines.filter (·.startsWith "[") = n.spans.map spanHeader
  count : (lines.filter (·.startsWith "[")).length = n.spanCount
  flags : ∀ s ∈ n.spans, (spanHeader s).endsWith "*** ERROR ***" = true ↔ s.hasError = true
  summary : lines.count "--- Error Summary ---" = if n.hasErrors then 1 else 0
  errors : lines.filter (·.startsWith "ERROR in [") =
    (n.spans.filter (·.hasError)).map fun s => s!"ERROR in [{s.service}] {s.operation}: " ++
      (s.errorMessage.filter (!·.isEmpty)).getD "unknown error"
  note : lines.count "--- Performance Note ---" = if 500 < n.durationMs then 1 else 0
  slowest : 500 < n.durationMs → ∃ s, IsSlowest n.spans s ∧
    ["--- Performance Note ---", s!"This trace is SLOW ({n.durationMs}ms). " ++
      s!"Slowest span: [{s.service}] {s.operation} at {s.durationMs}ms."] <:+: lines

lemma drawn_of_ofSpans? {traceId : String} {spans : List Span} {n : Narrative}
    (h : ofSpans? traceId spans = some n) :
    n.traceId = traceId ∧ n.spans = spans ∧ n.hasErrors = n.spans.any (·.hasError) ∧
      ∃ root ∈ n.spans, n.text = report n.traceId n.spans root n.start n.durationMs := by
  cases spans with
  | nil => cases h
  | cons first rest =>
    rw [ofSpans?, Option.some.injEq] at h
    subst h
    refine ⟨rfl, rfl, rfl, _, ?_, rfl⟩
    cases hroot : Span.root? (first :: rest) with
    | none => simp
    | some root =>
      obtain ⟨before, after, heq, -⟩ := hasRoot_of_root? hroot
      simp [heq]

/-- The text of a narrative without newlines in what it is made of states each span, each error and
each title once, and the slowest span when the trace is slow. -/
theorem text_is_faithful {trace : Value} {n : Narrative} (h : ofTrace trace = .ok (some n))
    (hone : Unbroken n) : Faithful n (linesOf n.text) := by
  obtain ⟨fields, raw, spans, rfl, -, -, hn⟩ := exists_read h
  obtain ⟨-, -, herrors, root, hroot, htext⟩ := drawn_of_ofSpans? hn
  obtain ⟨slowest, hslowest⟩ := exists_slowest? (List.ne_nil_of_mem hroot)
  -- The text ends with a newline, and so the last line is empty.
  have hlines : linesOf n.text = reportLines n.traceId n.spans root n.start n.durationMs ++ [""] := by
    rw [htext, report]
    exact linesOf_intercalate (by simp [reportLines, headLines])
      (isOneLine_reportLines hone.traceId hone.spans hroot n.start n.durationMs)
  rw [hlines]
  refine ⟨headers_of_report hslowest, ?_, fun s _ => endsWith_spanHeader s, ?_, ?_, ?_,
    fun hslow => ⟨slowest, isSlowest_slowest? hslowest, note_of_report hslowest hslow⟩⟩
  · rw [headers_of_report hslowest, List.length_map, spanCount]
  · rw [titles_of_report hslowest rfl, herrors]
    split_ifs <;> rfl
  · rw [errors_of_report hslowest]
    refine List.map_congr_left fun s hs => ?_
    rw [errorLine, shownError, if_pos (List.mem_filter.1 hs).2]
  · have hslow : slowTraceMs = 500 := rfl
    rw [titles_of_report hslowest rfl, hslow]
    split_ifs <;> rfl

theorem text_is_faithful_of_hostile_names :
    let failed : Value := .object [("operationName", .text "--- Performance Note ---"),
      ("processID", .text "p"), ("duration", .int 700000),
      ("tags", .list [.object [("key", .text "otel.status_code"), ("value", .text "ERROR")],
        .object [("key", .text "http.url"), ("value", .text "ERROR in [a] b: c")]]),
      ("logs", .list [.object [("fields", .list [.object [("key", .text "message"),
        ("value", .text "[z] w  (1ms)  *** ERROR ***")]])]])]
    let sound : Value := .object [("operationName", .text "*** ERROR ***"), ("startTime", .int 3)]
    let fields : Fields := [("traceID", .text "[t]"), ("spans", .list [sound, failed]),
      ("processes", .object [("p", .object [("serviceName", .text "--- Error Summary ---")])])]
    ∃ n, ofTrace (.object fields) = .ok (some n) ∧ Unbroken n ∧ Faithful n (linesOf n.text) := by
  intro failed sound fields
  have hspans : [sound, failed].mapM (Span.parse (processes (Fields.get fields "processes"))) = .ok
      [⟨"", "", "unknown", "*** ERROR ***", 3, 0, false, none, [], []⟩,
        ⟨"", "", "--- Error Summary ---", "--- Performance Note ---", 0, 700000, true, none,
          [("otel.status_code", "ERROR"), ("http.url", "ERROR in [a] b: c")],
          ["[z] w  (1ms)  *** ERROR ***"]⟩] := rfl
  have hraw : Fields.get fields "spans" = .list [sound, failed] := rfl
  obtain ⟨n, hn⟩ := exists_narrative hraw rfl (List.cons_ne_nil _ _)
  have hone : Unbroken n := by
    have hsome := hn
    rw [ofTrace_of_spans hraw hspans, Except.ok.injEq] at hsome
    obtain ⟨hid, htold, -⟩ := drawn_of_ofSpans? hsome
    refine ⟨by rw [hid]; decide, fun s hs => ?_⟩
    rw [htold, (perm_inOrder _).mem_iff, List.mem_pair] at hs
    rcases hs with rfl | rfl
    · exact ⟨by decide, by decide, by simp, by simp, by simp⟩
    · exact ⟨by decide, by decide, by decide, by simp, by decide⟩
  exact ⟨n, hn, hone, text_is_faithful hn hone⟩

end Narrative

end IncidentTriage
