import IncidentTriage.Proofs.Trace.Refused
import Mathlib.Data.List.Forall2

/-!
# What reaches a narrative

Two raw traces are alike if they differ only in what is not kept: tags that are not interesting, log
fields that are no part of a log's text, references behind the one to the parent, what processes have
beside the name of their service, and members of objects that nobody asks for. Alike traces have the
same narrative, or are refused for the same reason, so that nothing of this can be found in a text,
in a span or in the metadata.
-/

namespace IncidentTriage.Trace

/-- The lists are related by `R`, or the values are no lists and the same. -/
def ListsRelate (R : List Value → List Value → Prop) : Value → Value → Prop
  | .list items, .list items' => R items items'
  | v, v' => v = v'

/-- The fields of the objects are related by `R`, or the values are no objects and the same. -/
def ObjectsRelate (R : Fields → Fields → Prop) : Value → Value → Prop
  | .object fields, .object fields' => R fields fields'
  | v, v' => v = v'

/-- The objects have the same members of the given names. They may have any others. -/
def AgreeOn (names : List String) : Value → Value → Prop :=
  ObjectsRelate fun fields fields' => ∀ name ∈ names, Fields.get fields name = Fields.get fields' name

/-- The entry is an attribute with a key of the given sort. -/
def hasKey (counts : String → Bool) : Value → Bool
  | .object fields => counts (Fields.get fields "key").fieldText
  | _ => false

/-- The attributes with keys of the given sort are the same one by one. -/
def AlikeAttributes (counts : String → Bool) : Value → Value → Prop :=
  ListsRelate fun entries entries' => List.Forall₂ (AgreeOn ["key", "value"])
    (entries.filter (hasKey counts)) (entries'.filter (hasKey counts))

/-- The field of a log entry is told: as part of the entry's text or as an error message. -/
def isLogKey (key : String) : Bool :=
  isLogTextKey key || isErrorMessageKey key

def AlikeLogs : Value → Value → Prop :=
  ListsRelate (List.Forall₂ (ObjectsRelate fun entry entry' =>
    AlikeAttributes isLogKey (Fields.get entry "fields") (Fields.get entry' "fields")))

def isParentReference : Value → Bool
  | .object fields =>
    match Fields.get fields "refType" with
    | .text kind => kind == "CHILD_OF"
    | _ => false
  | _ => false

/-- The first references to a parent, if there are any, name the same span. -/
def AlikeReferences : Value → Value → Prop :=
  ListsRelate fun references references' => Option.Rel (AgreeOn ["spanID"])
    (references.find? isParentReference) (references'.find? isParentReference)

/-- What stands under a name. In an object that is one value at most. -/
def under (name : String) (fields : Fields) : List Value :=
  (fields.filter (·.1 = name)).map (·.2)

/-- The processes of the same identifier belong to the same service. -/
def AlikeProcesses : Value → Value → Prop :=
  ObjectsRelate fun table table' => ∀ id,
    List.Forall₂ (AgreeOn ["serviceName"]) (under id table) (under id table')

structure AlikeSpanFields (raw raw' : Fields) : Prop where
  plain : ∀ name ∈ ["spanID", "processID", "operationName", "startTime", "duration"],
    Fields.get raw name = Fields.get raw' name
  tags : AlikeAttributes isInteresting (Fields.get raw "tags") (Fields.get raw' "tags")
  logs : AlikeLogs (Fields.get raw "logs") (Fields.get raw' "logs")
  references : AlikeReferences (Fields.get raw "references") (Fields.get raw' "references")

structure AlikeTraceFields (trace trace' : Fields) : Prop where
  traceID : Fields.get trace "traceID" = Fields.get trace' "traceID"
  spans : ListsRelate (List.Forall₂ (ObjectsRelate AlikeSpanFields))
    (Fields.get trace "spans") (Fields.get trace' "spans")
  processes : AlikeProcesses (Fields.get trace "processes") (Fields.get trace' "processes")

/-- The raw traces differ in nothing that a narrative keeps. -/
def AlikeTraces : Value → Value → Prop :=
  ObjectsRelate AlikeTraceFields

section Relating

variable {v v' : Value}

/-- Related values are two lists that are related, or the same. -/
lemma ListsRelate.cases {R : List Value → List Value → Prop} (h : ListsRelate R v v') :
    (∃ items items', v = .list items ∧ v' = .list items' ∧ R items items') ∨ v = v' := by
  unfold ListsRelate at h
  split at h
  · exact .inl ⟨_, _, rfl, rfl, h⟩
  · exact .inr h

lemma ObjectsRelate.cases {R : Fields → Fields → Prop} (h : ObjectsRelate R v v') :
    (∃ fields fields', v = .object fields ∧ v' = .object fields' ∧ R fields fields') ∨ v = v' := by
  unfold ObjectsRelate at h
  split at h
  · exact .inl ⟨_, _, rfl, rfl, h⟩
  · exact .inr h

/-- What looks at members of an object only is the same for objects that agree on them. -/
lemma AgreeOn.eq {β : Type} {names : List String} (h : AgreeOn names v v') {f : Value → β}
    (hf : ∀ fields fields', (∀ name ∈ names, Fields.get fields name = Fields.get fields' name) →
      f (.object fields) = f (.object fields')) : f v = f v' := by
  rcases ObjectsRelate.cases h with ⟨fields, fields', rfl, rfl, hfields⟩ | rfl
  · exact hf fields fields' hfields
  · rfl

lemma filterMap_eq_of_forall₂ {α β : Type} {R : α → α → Prop} {f : α → Option β}
    (hf : ∀ x y, R x y → f x = f y) {xs ys : List α} (h : List.Forall₂ R xs ys) :
    xs.filterMap f = ys.filterMap f := by
  induction h with
  | nil => rfl
  | cons hxy _ ih => rw [List.filterMap_cons, List.filterMap_cons, hf _ _ hxy, ih]

lemma mapM_eq_of_forall₂ {α β ε : Type} {R : α → α → Prop} {f g : α → Except ε β}
    (hfg : ∀ x y, R x y → f x = g y) {xs ys : List α} (h : List.Forall₂ R xs ys) :
    xs.mapM f = ys.mapM g := by
  induction h with
  | nil => rfl
  | cons hxy _ ih => rw [List.mapM_cons, List.mapM_cons, hfg _ _ hxy, ih]

end Relating

section Attributes

/-- The key and the value of an attribute. -/
def attribute? : Value → Option (String × String)
  | .object fields =>
    some ((Fields.get fields "key").fieldText, (Fields.get fields "value").fieldText)
  | _ => none

lemma attributes_list (entries : List Value) :
    attributes (.list entries) = entries.filterMap attribute? := rfl

lemma filter_attributes (counts : String → Bool) (entries : List Value) :
    (attributes (.list entries)).filter (counts ·.1) =
      (entries.filter (hasKey counts)).filterMap attribute? := by
  rw [attributes_list, List.filter_filterMap, List.filterMap_filter]
  congr 1
  funext entry
  cases entry with
  | object fields => exact Option.filter_some.trans rfl
  | _ => rfl

lemma AlikeAttributes.filter_eq {counts : String → Bool} {v v' : Value}
    (h : AlikeAttributes counts v v') :
    (attributes v).filter (counts ·.1) = (attributes v').filter (counts ·.1) := by
  rcases h.cases with ⟨entries, entries', rfl, rfl, hentries⟩ | rfl
  · rw [filter_attributes, filter_attributes]
    have hsame : ∀ entry entry', AgreeOn ["key", "value"] entry entry' →
        attribute? entry = attribute? entry' := by
      refine fun entry entry' hentry => hentry.eq fun fields fields' hfields => ?_
      rw [attribute?, attribute?, hfields "key" (by simp), hfields "value" (by simp)]
    exact filterMap_eq_of_forall₂ hsame hentries
  · rfl

/-- A fold over attributes that passes over some keys depends on the others only. -/
lemma AlikeAttributes.foldl_eq {σ : Type} {counts : String → Bool} {v v' : Value}
    (h : AlikeAttributes counts v v') {f : σ → String × String → σ}
    (hf : ∀ s field, counts field.1 = false → f s field = s) (s : σ) :
    (attributes v).foldl f s = (attributes v').foldl f s := by
  have hcounting : ∀ fields : List (String × String),
      fields.foldl f s = (fields.filter (counts ·.1)).foldl f s := by
    intro fields
    rw [List.foldl_filter]
    congr 1
    funext s field
    cases hcounts : counts field.1 with
    | true => rfl
    | false => exact hf s field hcounts
  rw [hcounting (attributes v), hcounting (attributes v'), h.filter_eq]

end Attributes

section Findings

lemma isInteresting_of_flagsError {key value : String} (h : flagsError key value = true) :
    isInteresting key = true := by
  simp only [flagsError, Bool.or_eq_true, Bool.and_eq_true, beq_iff_eq] at h
  rcases h with ⟨rfl, -⟩ | ⟨rfl, -⟩ <;> decide

lemma isInteresting_of_isErrorMessageKey {key : String} (h : isErrorMessageKey key = true) :
    isInteresting key = true := by
  simp only [isErrorMessageKey, Bool.or_eq_true, beq_iff_eq] at h
  rcases h with rfl | rfl <;> decide

lemma addTag_of_not_isInteresting (f : Findings) {tag : String × String}
    (h : isInteresting tag.1 = false) : f.addTag tag = f := by
  have hflag : flagsError tag.1 tag.2 = false := by
    rw [← Bool.not_eq_true]
    exact fun hflag => Bool.false_ne_true (h.symm.trans (isInteresting_of_flagsError hflag))
  have hmessage : isErrorMessageKey tag.1 = false := by
    rw [← Bool.not_eq_true]
    exact fun hkey => Bool.false_ne_true (h.symm.trans (isInteresting_of_isErrorMessageKey hkey))
  simp [Findings.addTag, h, hflag, hmessage]

lemma addLogField_of_not_isLogKey (f : Findings) {field : String × String}
    (h : isLogKey field.1 = false) : f.addLogField field = f := by
  rw [isLogKey, Bool.or_eq_false_iff] at h
  simp [Findings.addLogField, h.2]

lemma logText_of_not_isLogKey {field : String × String} (h : isLogKey field.1 = false) :
    logText field = "" := by
  rw [isLogKey, Bool.or_eq_false_iff] at h
  simp [logText, h.1, h.2]

/-- The text of a log entry, put together field by field. -/
lemma join_logText (fields : List (String × String)) :
    String.join (fields.map logText) = fields.foldl (fun text field => text ++ logText field) "" := by
  rw [String.join, List.foldl_map]

lemma addLog_eq (f : Findings) {entry entry' : Value}
    (h : ObjectsRelate (fun entry entry' =>
      AlikeAttributes isLogKey (Fields.get entry "fields") (Fields.get entry' "fields")) entry entry') :
    f.addLog entry = f.addLog entry' := by
  rcases h.cases with ⟨fields, fields', rfl, rfl, hfields⟩ | rfl
  · have htold := hfields.foldl_eq (fun f _ => addLogField_of_not_isLogKey f) f
    have htext := hfields.foldl_eq (f := fun text field => text ++ logText field)
      (fun text _ hkey => by rw [logText_of_not_isLogKey hkey, String.append_empty]) ""
    simp only [Findings.addLog, join_logText, htold, htext]
  · rfl

lemma AlikeSpanFields.findings_eq {raw raw' : Fields} (h : AlikeSpanFields raw raw') :
    findings raw = findings raw' := by
  have htags := h.tags.foldl_eq (fun f _ => addTag_of_not_isInteresting f) {}
  rw [findings, findings, htags]
  rcases h.logs.cases with ⟨entries, entries', hv, hv', hentries⟩ | heq
  · have hlogs : ∀ f : Findings, entries.foldl Findings.addLog f = entries'.foldl Findings.addLog f :=
      fun f => List.rel_foldl (P := Eq) (fun f _ hf _ _ hentry => hf ▸ addLog_eq f hentry) rfl hentries
    rw [hv, hv', logEntries_list, logEntries_list, Except.map, Except.map, hlogs]
  · rw [heq]

end Findings

section Naming

/-- The span that a reference names. -/
def referenced : Value → String
  | .object fields => (Fields.get fields "spanID").fieldText
  | _ => ""

lemma isParentReference_iff (fields : Fields) :
    isParentReference (.object fields) = true ↔ Fields.get fields "refType" = .text "CHILD_OF" := by
  rw [isParentReference]
  constructor
  · intro h
    split at h
    · rename_i kind hkind
      rw [hkind, beq_iff_eq.1 h]
    · cases h
  · intro h
    rw [h]
    rfl

lemma parentOf_list (references : List Value) :
    parentOf (.list references) =
      ((references.find? isParentReference).map referenced).getD "" := by
  rw [parentOf, List.find?_eq_findSome?_guard, List.map_findSome?]
  congr 2
  funext reference
  cases reference with
  | object fields =>
    rw [Function.comp_apply, Option.guard]
    dsimp only
    split
    · rename_i hparent
      rw [if_pos ((isParentReference_iff fields).2 hparent)]
      rfl
    · rename_i hother
      rw [if_neg (mt (isParentReference_iff fields).1 hother)]
      rfl
  | _ => rfl

lemma AlikeReferences.parentOf_eq {v v' : Value} (h : AlikeReferences v v') :
    parentOf v = parentOf v' := by
  rcases h.cases with ⟨references, references', rfl, rfl, hparent⟩ | rfl
  · rw [parentOf_list, parentOf_list]
    generalize references.find? isParentReference = parent at hparent
    generalize references'.find? isParentReference = parent' at hparent
    cases hparent with
    | none => rfl
    | some hsame =>
      have hspan := hsame.eq (f := referenced) fun fields fields' hfields => by
        rw [referenced, referenced, hfields "spanID" (by simp)]
      rw [Option.map_some, Option.map_some, hspan]
  · rfl

/-- The service that a process names. -/
def serviceName? : Value → Option String
  | .object process =>
    let name := Fields.get process "serviceName"
    if name.isPresent then some name.fieldText else none
  | _ => none

lemma processes_object (table : Fields) :
    processes (.object table) = table.filterMap fun p => (serviceName? p.2).map (p.1, ·) := by
  rw [processes]
  congr 1
  funext entry
  obtain ⟨id, process⟩ := entry
  cases process with
  | object fields =>
    by_cases hpresent : (Fields.get fields "serviceName").isPresent = true
    · simp [serviceName?, hpresent]
    · simp [serviceName?, hpresent]
  | _ => rfl

lemma serviceOf_processes (table : Fields) (id : String) :
    serviceOf (processes (.object table)) id =
      ((under id table).filterMap serviceName?).head?.getD "unknown" := by
  rw [serviceOf, processes_object, ← List.head?_filter, ← List.head?_map, List.filter_filterMap,
    List.map_filterMap, under, List.filterMap_map, List.filterMap_filter]
  congr 3
  funext entry
  obtain ⟨name, process⟩ := entry
  by_cases hname : name = id
  · cases hservice : serviceName? process with
    | none => simp [hname, hservice]
    | some service => simp [hname, hservice]
  · cases hservice : serviceName? process with
    | none => simp [hname]
    | some service => simp [hname]

lemma AlikeProcesses.serviceOf_eq {v v' : Value} (h : AlikeProcesses v v') (id : String) :
    serviceOf (processes v) id = serviceOf (processes v') id := by
  rcases h.cases with ⟨table, table', rfl, rfl, htable⟩ | rfl
  · have hsame : ∀ process process', AgreeOn ["serviceName"] process process' →
        serviceName? process = serviceName? process' := by
      refine fun process process' hprocess => hprocess.eq fun fields fields' hfields => ?_
      rw [serviceName?, serviceName?, hfields "serviceName" (by simp)]
    rw [serviceOf_processes, serviceOf_processes, filterMap_eq_of_forall₂ hsame (htable id)]
  · rfl

end Naming

end IncidentTriage.Trace

namespace IncidentTriage.Narrative
open IncidentTriage.Trace

/-- Only the services that a process table names matter of it. -/
lemma parse_congr {table table' : Processes}
    (htable : ∀ id, serviceOf table id = serviceOf table' id) :
    Span.parse table = Span.parse table' := by
  funext v
  cases v with
  | object raw => rw [parse_object, parse_object, htable]
  | _ => rfl

lemma parse_eq (table : Processes) (v v' : Value) (h : ObjectsRelate AlikeSpanFields v v') :
    Span.parse table v = Span.parse table v' := by
  rcases h.cases with ⟨raw, raw', rfl, rfl, hraw⟩ | rfl
  · have hplain := hraw.plain
    rw [parse_object, parse_object, hraw.findings_eq, hraw.references.parentOf_eq,
      hplain "spanID" (by simp), hplain "processID" (by simp), hplain "operationName" (by simp),
      hplain "startTime" (by simp), hplain "duration" (by simp)]
  · rfl

/-- Raw traces that differ only in what is not kept have the same narrative, its text, its spans and
its metadata included, or none of them has one, for the same reason. -/
theorem only_retained_fields_tell {trace trace' : Value} (h : AlikeTraces trace trace') :
    ofTrace trace = ofTrace trace' := by
  rcases h.cases with ⟨fields, fields', rfl, rfl, hfields⟩ | rfl
  · have hparse := parse_congr hfields.processes.serviceOf_eq
    simp only [ofTrace, hfields.traceID, hparse]
    rcases hfields.spans.cases with ⟨raw, raw', hraw, hraw', hspans⟩ | heq
    · rw [hraw, hraw', rawSpans, rawSpans]
      simp only [bind, Except.bind, mapM_eq_of_forall₂ (parse_eq _) hspans]
    · rw [heq]
  · rfl

theorem only_retained_fields_tell_of_address :
    let span (address stack kind : String) : Value := .object [("processID", .text "p1"),
      ("tags", .list [.object [("key", .text "user.email"), ("value", .text address)],
        .object [("key", .text "http.method"), ("value", .text "GET")]]),
      ("logs", .list [.object [("fields", .list [
        .object [("key", .text "stack"), ("value", .text stack)]])]]),
      ("references", .list [.object [("refType", .text kind), ("spanID", .text "b")]])]
    let trace (span : Value) (host : String) : Fields := [("spans", .list [span]),
      ("processes", .object [("p1", .object [("serviceName", .text "cart"), ("host", .text host)])])]
    let told := trace (span "ann@example.org" "main.py:1" "FOLLOWS_FROM") "h1"
    let other := trace (span "bob@example.org" "main.py:2" "LINKS_TO") "h2"
    AlikeTraces (.object told) (.object other) ∧
      ∃ n, ofTrace (.object told) = .ok (some n) ∧ ofTrace (.object other) = .ok (some n) := by
  intro span trace told other
  have halike : AlikeTraces (.object told) (.object other) := by
    refine ⟨rfl, .cons ⟨?_, .cons (fun _ _ => rfl) .nil, .cons .nil .nil, .none⟩ .nil, fun id => ?_⟩
    · simp [Fields.get, Fields.get?]
    · by_cases hid : "p1" = id
      · subst hid
        exact .cons (fun name hname => by rw [List.mem_singleton.1 hname]; rfl) .nil
      · have hnone : ∀ process, under id [("p1", process)] = [] := fun process => by simp [under, hid]
        simp [hnone]
  have hspans : Fields.get told "spans" =
      .list [span "ann@example.org" "main.py:1" "FOLLOWS_FROM"] := rfl
  have hread : [span "ann@example.org" "main.py:1" "FOLLOWS_FROM"].find? isUnreadable = none := rfl
  refine ⟨halike, ?_⟩
  rcases exists_ofTrace hspans hread with ⟨hnil, -⟩ | ⟨n, -, hn, -⟩
  · exact absurd hnil (List.cons_ne_nil _ _)
  · exact ⟨n, hn, only_retained_fields_tell halike ▸ hn⟩

end IncidentTriage.Narrative
