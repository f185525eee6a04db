import IncidentTriage.Proofs.Text.Lowercase
import IncidentTriage.Proofs.Trace.Retained

/-!
# The order of attributes

The tags of a raw span, the entries of its logs and the fields of each entry may come in any order.
An error is flagged by any one of them, wherever it stands, and a tag that was kept stays kept. What
later attributes replace is the text of an error message and the value of a tag whose key comes
again, but not that there is one.
-/

namespace IncidentTriage.Trace
open IncidentTriage.Text

/-- Lists of the same items in any order. -/
def Reordered : Value → Value → Prop :=
  ListsRelate List.Perm

/-- Entries of logs with the same fields in any order. -/
def ReorderedEntries : Value → Value → Prop :=
  ObjectsRelate fun entry entry' =>
    Reordered (Fields.get entry "fields") (Fields.get entry' "fields")

/-- Logs with the same entries in any order, each with its fields in any order. -/
def ReorderedLogs : Value → Value → Prop :=
  ListsRelate fun entries entries' =>
    ∃ between, entries.Perm between ∧ List.Forall₂ ReorderedEntries between entries'

structure ReorderedAttributes (raw raw' : Fields) : Prop where
  tags : Reordered (Fields.get raw "tags") (Fields.get raw' "tags")
  logs : ReorderedLogs (Fields.get raw "logs") (Fields.get raw' "logs")

/-- One of the attributes has the key and the value as its texts. -/
def HasAttribute (v : Value) (key value : String) : Prop :=
  ∃ entries fields, v = .list entries ∧ .object fields ∈ entries ∧
    (Fields.get fields "key").fieldText = key ∧ (Fields.get fields "value").fieldText = value

/-- What a raw span shows an error by: a tag that says so, the status of an error, or an error message
in an entry of its logs. -/
inductive ShowsError (raw : Fields) : Prop
  | flag (value : String) (h : HasAttribute (Fields.get raw "tags") "error" value)
      (htrue : SpellsInAnyCase "true".toList value.toList)
  | status (h : HasAttribute (Fields.get raw "tags") "otel.status_code" "ERROR")
  | message (entries : List Value) (entry : Fields) (key value : String)
      (hlogs : Fields.get raw "logs" = .list entries) (hentry : .object entry ∈ entries)
      (hkey : key = "error.message" ∨ key = "exception.message")
      (h : HasAttribute (Fields.get entry "fields") key value)

section Flags

variable {σ α : Type} {step : σ → α → σ}

/-- A flag that stays up, and that some of the items raise whatever came before. -/
lemma foldl_flag (flag : σ → Bool) (raises : α → Bool)
    (h : ∀ s x, flag (step s x) = (flag s || raises x)) (s : σ) (xs : List α) :
    flag (xs.foldl step s) = (flag s || xs.any raises) := by
  induction xs generalizing s with
  | nil => rw [List.foldl_nil, List.any_nil, Bool.or_false]
  | cons x xs ih => rw [List.foldl_cons, ih, h, List.any_cons, Bool.or_assoc]

end Flags

section Tags

variable (tags : List (String × String))

lemma hasError_foldl_addTag :
    (tags.foldl Findings.addTag {}).hasError = tags.any fun t => flagsError t.1 t.2 := by
  have hflag : ∀ (f : Findings) t, (f.addTag t).hasError = (f.hasError || flagsError t.1 t.2) :=
    fun _ _ => rfl
  have hfold := foldl_flag (fun f : Findings => f.hasError) (fun t => flagsError t.1 t.2) hflag {} tags
  exact hfold.trans (Bool.false_or _)

lemma isSome_errorMessage_addTag (f : Findings) (tag : String × String) :
    (f.addTag tag).errorMessage.isSome = (f.errorMessage.isSome || isErrorMessageKey tag.1) := by
  unfold Findings.addTag
  cases isErrorMessageKey tag.1 with
  | true => simp
  | false => simp

lemma isSome_errorMessage_foldl_addTag :
    (tags.foldl Findings.addTag {}).errorMessage.isSome =
      tags.any fun t => isErrorMessageKey t.1 := by
  have hfold := foldl_flag (fun f : Findings => f.errorMessage.isSome)
    (fun t => isErrorMessageKey t.1) isSome_errorMessage_addTag {} tags
  exact hfold.trans (Bool.false_or _)

/-- A key that is set joins those that are there. -/
lemma any_set (kept : Tags) (key value name : String) :
    (Tags.set kept key value).any (·.1 = name) = (kept.any (·.1 = name) || decide (key = name)) := by
  unfold Tags.set
  split
  · rename_i hthere
    have hkeys : ((fun t : String × String => decide (t.1 = name)) ∘
        fun t => if t.1 = key then (key, value) else t) = fun t => decide (t.1 = name) := by
      funext t
      rw [Function.comp_apply]
      split
      · rename_i hkey
        rw [hkey]
      · rfl
    rw [List.any_map, hkeys]
    by_cases hname : key = name
    · rw [← hname, hthere, Bool.true_or]
    · rw [decide_eq_false hname, Bool.or_false]
  · rw [List.any_append, List.any_cons, List.any_nil, Bool.or_false]

lemma any_tags_addTag (name : String) (f : Findings) (tag : String × String) :
    (f.addTag tag).tags.any (·.1 = name) =
      (f.tags.any (·.1 = name) || isInteresting tag.1 && decide (tag.1 = name)) := by
  unfold Findings.addTag
  dsimp only
  split
  · rename_i hkept
    rw [any_set, hkept, Bool.true_and]
  · rename_i hpassed
    rw [Bool.not_eq_true] at hpassed
    rw [hpassed, Bool.false_and, Bool.or_false]

lemma any_tags_foldl_addTag (name : String) :
    (tags.foldl Findings.addTag {}).tags.any (·.1 = name) =
      tags.any fun t => isInteresting t.1 && decide (t.1 = name) := by
  have hfold := foldl_flag (fun f : Findings => f.tags.any (·.1 = name))
    (fun t => isInteresting t.1 && decide (t.1 = name)) (any_tags_addTag name) {} tags
  exact hfold.trans (Bool.false_or _)

lemma set_of_notMem {kept : Tags} {key : String} (h : key ∉ kept.map (·.1)) (value : String) :
    Tags.set kept key value = kept ++ [(key, value)] := by
  unfold Tags.set
  rw [if_neg]
  simpa using h

lemma tags_addTag_of_notMem {f : Findings} {tag : String × String}
    (h : tag.1 ∉ f.tags.map (·.1)) :
    (f.addTag tag).tags = f.tags ++ [tag].filter fun t => isInteresting t.1 := by
  unfold Findings.addTag
  cases hkept : isInteresting tag.1 with
  | true => simp [hkept, set_of_notMem h]
  | false => simp [hkept]

/-- Interesting tags whose keys do not come again are kept as they come. -/
lemma tags_foldl_addTag_of_nodup (f : Findings) (h : ((f.tags ++ tags).map (·.1)).Nodup) :
    (tags.foldl Findings.addTag f).tags = f.tags ++ tags.filter fun t => isInteresting t.1 := by
  induction tags generalizing f with
  | nil => rw [List.foldl_nil, List.filter_nil, List.append_nil]
  | cons tag tags ih =>
    have hnew : tag.1 ∉ f.tags.map (·.1) := by
      rw [List.map_append, List.map_cons, List.nodup_append] at h
      intro hmem
      exact h.2.2 _ hmem _ List.mem_cons_self rfl
    have htag := tags_addTag_of_notMem hnew
    -- What is kept and what is to come has no key that was not there before the tag was gone through.
    have hrest : (((f.addTag tag).tags ++ tags).map (·.1)).Nodup := by
      have hsub : ((f.addTag tag).tags ++ tags).Sublist (f.tags ++ tag :: tags) := by
        rw [htag, List.append_assoc]
        exact (List.filter_sublist.append (.refl tags)).append_left f.tags
      exact h.sublist (hsub.map _)
    rw [List.foldl_cons, ih _ hrest, htag, List.append_assoc, ← List.filter_append,
      List.singleton_append]

end Tags

section Logs

/-- The entries of logs that can be gone through. -/
def entriesOf : Value → List Value
  | .list entries => entries
  | _ => []

lemma eq_entriesOf_of_logEntries {logs : Value} {entries : List Value}
    (h : logEntries logs = .ok entries) : entries = entriesOf logs := by
  cases logs with
  | list items =>
    rw [logEntries_list] at h
    exact (Except.ok.inj h).symm
  | _ =>
    unfold logEntries at h
    split at h <;> cases h <;> rfl

/-- The fields of a log entry. -/
def logFields : Value → List (String × String)
  | .object entry => attributes (Fields.get entry "fields")
  | _ => []

def isErrorField (field : String × String) : Bool :=
  isErrorMessageKey field.1

def tellsError (entry : Value) : Bool :=
  (logFields entry).any isErrorField

/-- But for its text, an entry is told by its fields. -/
lemma exists_addLog_eq (f : Findings) (entry : Value) :
    ∃ logs, f.addLog entry = { (logFields entry).foldl Findings.addLogField f with logs } := by
  cases entry with
  | object fields =>
    unfold Findings.addLog
    dsimp only
    split
    · exact ⟨_, rfl⟩
    · exact ⟨_, rfl⟩
  | _ => exact ⟨f.logs, rfl⟩

/-- A flag that no text of a log raises is raised by the entries that tell of an error. -/
lemma foldl_addLog_flag (flag : Findings → Bool) (htext : ∀ f logs, flag { f with logs } = flag f)
    (hfield : ∀ f field, flag (f.addLogField field) = (flag f || isErrorField field))
    (f : Findings) (entries : List Value) :
    flag (entries.foldl Findings.addLog f) = (flag f || entries.any tellsError) := by
  refine foldl_flag flag tellsError ?_ f entries
  intro f entry
  obtain ⟨logs, hlog⟩ := exists_addLog_eq f entry
  rw [hlog, htext]
  exact foldl_flag flag isErrorField hfield f (logFields entry)

lemma hasError_addLogField (f : Findings) (field : String × String) :
    (f.addLogField field).hasError = (f.hasError || isErrorField field) := by
  unfold Findings.addLogField isErrorField
  cases isErrorMessageKey field.1 with
  | true => simp
  | false => simp

lemma isSome_errorMessage_addLogField (f : Findings) (field : String × String) :
    (f.addLogField field).errorMessage.isSome = (f.errorMessage.isSome || isErrorField field) := by
  unfold Findings.addLogField isErrorField
  cases isErrorMessageKey field.1 with
  | true => simp
  | false => simp

lemma tags_foldl_addLogField (fields : List (String × String)) (f : Findings) :
    (fields.foldl Findings.addLogField f).tags = f.tags := by
  induction fields generalizing f with
  | nil => rfl
  | cons field fields ih =>
    rw [List.foldl_cons, ih]
    unfold Findings.addLogField
    split <;> rfl

lemma tags_foldl_addLog (entries : List Value) (f : Findings) :
    (entries.foldl Findings.addLog f).tags = f.tags := by
  induction entries generalizing f with
  | nil => rfl
  | cons entry entries ih =>
    obtain ⟨logs, hlog⟩ := exists_addLog_eq f entry
    rw [List.foldl_cons, ih, hlog]
    exact tags_foldl_addLogField (logFields entry) f

end Logs

section Findings

variable {raw : Fields} {found : Findings}

lemma findings_eq_ok (h : findings raw = .ok found) :
    found = (entriesOf (Fields.get raw "logs")).foldl Findings.addLog
      ((attributes (Fields.get raw "tags")).foldl Findings.addTag {}) := by
  unfold findings at h
  cases hentries : logEntries (Fields.get raw "logs") with
  | error e =>
    rw [hentries] at h
    cases h
  | ok entries =>
    rw [hentries] at h
    rw [← eq_entriesOf_of_logEntries hentries]
    exact (Except.ok.inj h).symm

lemma hasError_of_findings (h : findings raw = .ok found) :
    found.hasError = ((attributes (Fields.get raw "tags")).any (fun t => flagsError t.1 t.2) ||
      (entriesOf (Fields.get raw "logs")).any tellsError) := by
  rw [findings_eq_ok h, ← hasError_foldl_addTag]
  exact foldl_addLog_flag (fun f => f.hasError) (fun _ _ => rfl) hasError_addLogField _ _

lemma isSome_errorMessage_of_findings (h : findings raw = .ok found) :
    found.errorMessage.isSome =
      ((attributes (Fields.get raw "tags")).any (fun t => isErrorMessageKey t.1) ||
        (entriesOf (Fields.get raw "logs")).any tellsError) := by
  rw [findings_eq_ok h, ← isSome_errorMessage_foldl_addTag]
  exact foldl_addLog_flag (fun f => f.errorMessage.isSome) (fun _ _ => rfl)
    isSome_errorMessage_addLogField _ _

lemma tags_of_findings (h : findings raw = .ok found) :
    found.tags = ((attributes (Fields.get raw "tags")).foldl Findings.addTag {}).tags := by
  rw [findings_eq_ok h]
  exact tags_foldl_addLog _ _

end Findings

section Orders

lemma Reordered.attributes {v v' : Value} (h : Reordered v v') :
    (attributes v).Perm (attributes v') := by
  rcases h.cases with ⟨entries, entries', rfl, rfl, hperm⟩ | rfl
  · exact hperm.filterMap _
  · exact .refl _

lemma ReorderedEntries.tellsError_eq {entry entry' : Value} (h : ReorderedEntries entry entry') :
    tellsError entry = tellsError entry' := by
  rcases h.cases with ⟨fields, fields', rfl, rfl, hfields⟩ | rfl
  · exact hfields.attributes.any_eq
  · rfl

lemma ReorderedLogs.any_tellsError {v v' : Value} (h : ReorderedLogs v v') :
    (entriesOf v).any tellsError = (entriesOf v').any tellsError := by
  rcases h.cases with ⟨entries, entries', rfl, rfl, between, hperm, hentries⟩ | rfl
  · unfold entriesOf
    rw [hperm.any_eq]
    clear h hperm
    induction hentries with
    | nil => rfl
    | cons hentry _ ih => rw [List.any_cons, List.any_cons, hentry.tellsError_eq, ih]
  · rfl

/-- Whether logs can be gone through does not depend on the order of their entries. -/
lemma ReorderedLogs.exists_logEntries {v v' : Value} (h : ReorderedLogs v v')
    {entries : List Value} (hv : logEntries v = .ok entries) :
    ∃ entries', logEntries v' = .ok entries' := by
  rcases h.cases with ⟨_, entries', rfl, rfl, -⟩ | rfl
  · exact ⟨entries', logEntries_list entries'⟩
  · exact ⟨entries, hv⟩

lemma ReorderedAttributes.exists_findings {raw raw' : Fields} (h : ReorderedAttributes raw raw')
    {found : Findings} (hfound : findings raw = .ok found) :
    ∃ found', findings raw' = .ok found' := by
  unfold findings at hfound
  cases hlogs : logEntries (Fields.get raw "logs") with
  | error e =>
    rw [hlogs] at hfound
    cases hfound
  | ok entries =>
    obtain ⟨entries', hlogs'⟩ := h.logs.exists_logEntries hlogs
    unfold findings
    rw [hlogs']
    exact ⟨_, rfl⟩

end Orders

section Shown

lemma mem_attributes {v : Value} {key value : String} :
    (key, value) ∈ attributes v ↔ HasAttribute v key value := by
  unfold HasAttribute
  cases v with
  | list entries =>
    rw [attributes_list, List.mem_filterMap]
    constructor
    · rintro ⟨entry, hentry, htexts⟩
      cases entry with
      | object fields =>
        obtain ⟨hkey, hvalue⟩ := Prod.mk.inj (Option.some.inj htexts)
        exact ⟨entries, fields, rfl, hentry, hkey, hvalue⟩
      | _ => cases htexts
    · rintro ⟨_, fields, hv, hentry, hkey, hvalue⟩
      cases hv
      exact ⟨.object fields, hentry, by rw [attribute?, hkey, hvalue]⟩
  | _ => simp [attributes]

lemma lowercase_eq_true_iff (value : String) :
    lowercase value = "true" ↔ SpellsInAnyCase "true".toList value.toList := by
  have hplain : ∀ letter ∈ "true".toList, letter ∈ plainLetters := forall_mem_of_all (by decide)
  rw [← lowerFrom_eq_iff hplain false]
  unfold lowercase lower
  rw [← String.toList_inj, String.toList_ofList]

lemma any_flagsError_iff (v : Value) :
    (attributes v).any (fun t => flagsError t.1 t.2) = true ↔
      (∃ value, HasAttribute v "error" value ∧ SpellsInAnyCase "true".toList value.toList) ∨
        HasAttribute v "otel.status_code" "ERROR" := by
  rw [List.any_eq_true]
  constructor
  · rintro ⟨⟨key, value⟩, hmem, hflags⟩
    rw [mem_attributes] at hmem
    simp only [flagsError, Bool.or_eq_true, Bool.and_eq_true, beq_iff_eq] at hflags
    rcases hflags with ⟨rfl, htrue⟩ | ⟨rfl, rfl⟩
    · exact .inl ⟨value, hmem, (lowercase_eq_true_iff value).1 htrue⟩
    · exact .inr hmem
  · intro h
    rcases h with ⟨value, hflag, htrue⟩ | hstatus
    · refine ⟨("error", value), mem_attributes.2 hflag, ?_⟩
      simp [flagsError, (lowercase_eq_true_iff value).2 htrue]
    · exact ⟨("otel.status_code", "ERROR"), mem_attributes.2 hstatus, by simp [flagsError]⟩

lemma any_tellsError_iff (v : Value) :
    (entriesOf v).any tellsError = true ↔
      ∃ entries entry key value, v = .list entries ∧ .object entry ∈ entries ∧
        (key = "error.message" ∨ key = "exception.message") ∧
        HasAttribute (Fields.get entry "fields") key value := by
  rw [List.any_eq_true]
  constructor
  · rintro ⟨entry, hentry, htells⟩
    cases v with
    | list entries =>
      cases entry with
      | object fields =>
        obtain ⟨⟨key, value⟩, hmem, hkey⟩ := List.any_eq_true.1 htells
        simp only [isErrorField, isErrorMessageKey, Bool.or_eq_true, beq_iff_eq] at hkey
        exact ⟨entries, fields, key, value, rfl, hentry, hkey, mem_attributes.1 hmem⟩
      | _ => cases htells
    | _ => cases hentry
  · rintro ⟨entries, entry, key, value, rfl, hentry, hkey, hfield⟩
    refine ⟨.object entry, hentry, List.any_eq_true.2 ⟨(key, value), mem_attributes.2 hfield, ?_⟩⟩
    simpa [isErrorField, isErrorMessageKey] using hkey

lemma hasError_iff_showsError {raw : Fields} {found : Findings} (h : findings raw = .ok found) :
    found.hasError = true ↔ ShowsError raw := by
  rw [hasError_of_findings h, Bool.or_eq_true, any_flagsError_iff, any_tellsError_iff]
  constructor
  · rintro ((⟨value, hflag, htrue⟩ | hstatus) | ⟨entries, entry, key, value, hlogs, hentry, hkey, hfield⟩)
    · exact .flag value hflag htrue
    · exact .status hstatus
    · exact .message entries entry key value hlogs hentry hkey hfield
  · intro h
    cases h with
    | flag value hflag htrue => exact .inl (.inl ⟨value, hflag, htrue⟩)
    | status hstatus => exact .inl (.inr hstatus)
    | message entries entry key value hlogs hentry hkey hfield =>
      exact .inr ⟨entries, entry, key, value, hlogs, hentry, hkey, hfield⟩

end Shown

lemma findings_of_parse {table : Processes} {raw : Fields} {s : Span}
    (h : Span.parse table (.object raw) = .ok s) :
    ∃ found, findings raw = .ok found ∧ s.hasError = found.hasError ∧
      s.errorMessage = found.errorMessage ∧ s.tags = found.tags := by
  rw [parse_object] at h
  cases hfound : findings raw with
  | error e =>
    rw [hfound] at h
    cases h
  | ok found =>
    rw [hfound] at h
    cases h
    exact ⟨found, rfl, rfl, rfl, rfl⟩

lemma exists_parse_of_findings (table : Processes) {raw : Fields} {found : Findings}
    (h : findings raw = .ok found) : ∃ s, Span.parse table (.object raw) = .ok s := by
  rw [parse_object, h]
  exact ⟨_, rfl⟩

lemma mem_keys_iff (tags : Tags) (name : String) :
    name ∈ tags.map (·.1) ↔ tags.any (·.1 = name) = true := by
  simp

/-- A raw span that can be read can also be read with its tags, the entries of its logs and their
fields in any other order. The error flag, the keys of the tags that are kept, and whether there is
an error message are the same, and so are the tags if each key comes once. The flag is set if and
only if the raw span shows an error. -/
theorem attribute_order_is_irrelevant (table : Processes) {raw raw' : Fields} {s : Span}
    (h : ReorderedAttributes raw raw') (hs : Span.parse table (.object raw) = .ok s) :
    (s.hasError = true ↔ ShowsError raw) ∧
    ∃ s', Span.parse table (.object raw') = .ok s' ∧
      s'.hasError = s.hasError ∧
      (∀ name, name ∈ s'.tags.map (·.1) ↔ name ∈ s.tags.map (·.1)) ∧
      s'.errorMessage.isSome = s.errorMessage.isSome ∧
      (((attributes (Fields.get raw "tags")).map (·.1)).Nodup → s'.tags.Perm s.tags) := by
  obtain ⟨found, hfound, hflag, hmessage, htags⟩ := findings_of_parse hs
  obtain ⟨found', hfound'⟩ := h.exists_findings hfound
  obtain ⟨s', hs'⟩ := exists_parse_of_findings table hfound'
  obtain ⟨_, hsame, hflag', hmessage', htags'⟩ := findings_of_parse hs'
  rw [hfound', Except.ok.injEq] at hsame
  subst hsame
  have hperm := h.tags.attributes
  have hlogs := h.logs.any_tellsError
  refine ⟨hflag ▸ hasError_iff_showsError hfound, s', hs', ?_, ?_, ?_, ?_⟩
  · rw [hflag', hflag, hasError_of_findings hfound', hasError_of_findings hfound, hperm.any_eq, hlogs]
  · intro name
    rw [mem_keys_iff, mem_keys_iff, htags', htags, tags_of_findings hfound', tags_of_findings hfound,
      any_tags_foldl_addTag, any_tags_foldl_addTag, hperm.any_eq]
  · rw [hmessage', hmessage, isSome_errorMessage_of_findings hfound',
      isSome_errorMessage_of_findings hfound, hperm.any_eq, hlogs]
  · intro hnodup
    rw [htags', htags, tags_of_findings hfound', tags_of_findings hfound,
      tags_foldl_addTag_of_nodup _ _ ((hperm.map _).nodup hnodup),
      tags_foldl_addTag_of_nodup _ _ hnodup]
    exact (hperm.symm.filter _).append_left _

theorem attribute_order_is_irrelevant_of_reversed :
    let text (key value : String) : Value := .object [("key", .text key), ("value", .text value)]
    let entry (fields : List Value) : Value := .object [("fields", .list fields)]
    let raw (tags logs : List Value) : Fields := [("tags", .list tags), ("logs", .list logs)]
    let tags := [text "http.method" "GET", text "error" "tRUE", .int 5, text "id" "7"]
    let failure := [text "event" "retry", text "error.message" "no stock"]
    let told := raw tags [entry failure, .null, entry []]
    let other := raw tags.reverse [entry [], entry failure.reverse, .null]
    ∃ s s', Span.parse [] (.object told) = .ok s ∧ Span.parse [] (.object other) = .ok s' ∧
      s.hasError = true ∧ s'.hasError = true ∧ s'.tags.Perm s.tags := by
  intro text entry raw tags failure told other
  have hfields : ReorderedEntries (entry failure) (entry failure.reverse) :=
    (List.reverse_perm failure).symm
  have hlogs : ReorderedLogs (.list [entry failure, .null, entry []])
      (.list [entry [], entry failure.reverse, .null]) := by
    refine ⟨[entry [], entry failure, .null], ?_, .cons ?_ (.cons hfields (.cons rfl .nil))⟩
    · exact ((List.Perm.swap (entry []) .null []).cons (entry failure)).trans (.swap _ _ _)
    · exact List.Perm.refl []
  have horder : ReorderedAttributes told other := ⟨(List.reverse_perm tags).symm, hlogs⟩
  obtain ⟨s, hs⟩ : ∃ s, Span.parse [] (.object told) = .ok s := Narrative.exists_parse [] rfl
  obtain ⟨hshows, s', hs', hflag, -, -, htags⟩ := attribute_order_is_irrelevant [] horder hs
  have herror : s.hasError = true := by
    refine hshows.2 (.flag "tRUE" ⟨tags, _, rfl, .tail _ (.head _), rfl, rfl⟩ ?_)
    exact .cons (.inl rfl) (.cons (.inr rfl) (.cons (.inr rfl) (.cons (.inr rfl) .nil)))
  exact ⟨s, s', hs, hs', herror, hflag.trans herror, htags (by decide)⟩

end IncidentTriage.Trace
