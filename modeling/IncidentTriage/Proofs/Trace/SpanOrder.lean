import IncidentTriage.Proofs.Value.Fields
import IncidentTriage.Trace.Narrative
import Mathlib.Data.List.Nodup
import Mathlib.Tactic.Common

/-!
# The order of spans

The spans of a raw trace may come in any order. The figures of its narrative do not depend on it,
and neither does the root, as long as there is only one span that it can be. The order of the spans
in a narrative is that of their starts, so where no two start together the narratives are the same.
-/

namespace IncidentTriage

section Lists

variable {ε α β : Type}

lemma mapM_cons_eq_ok_iff {f : α → Except ε β} {x : α} {xs : List α} {ys : List β} :
    (x :: xs).mapM f = .ok ys ↔
      ∃ y rest, f x = .ok y ∧ xs.mapM f = .ok rest ∧ ys = y :: rest := by
  rw [List.mapM_cons]
  rcases f x with e | y
  · simp [bind, Except.bind]
  · rcases xs.mapM f with e | rest
    · simp [bind, Except.bind]
    · simp [bind, Except.bind, pure, Except.pure, eq_comm]

/-- What is made of the members of a list in another order is the same in another order. -/
lemma exists_mapM_of_perm {f : α → Except ε β} {xs xs' : List α} (h : xs.Perm xs') {ys : List β}
    (hys : xs.mapM f = .ok ys) : ∃ ys', xs'.mapM f = .ok ys' ∧ ys.Perm ys' := by
  induction h generalizing ys with
  | nil => exact ⟨ys, hys, .refl ys⟩
  | cons x _ ih =>
    obtain ⟨y, rest, hy, hrest, rfl⟩ := mapM_cons_eq_ok_iff.1 hys
    obtain ⟨rest', hrest', hperm⟩ := ih hrest
    exact ⟨y :: rest', mapM_cons_eq_ok_iff.2 ⟨y, rest', hy, hrest', rfl⟩, hperm.cons y⟩
  | swap x x' xs =>
    obtain ⟨y', rest, hy', hrest, rfl⟩ := mapM_cons_eq_ok_iff.1 hys
    obtain ⟨y, rest', hy, hrest', rfl⟩ := mapM_cons_eq_ok_iff.1 hrest
    refine ⟨y :: y' :: rest', ?_, .swap y y' rest'⟩
    exact mapM_cons_eq_ok_iff.2 ⟨y, y' :: rest', hy, mapM_cons_eq_ok_iff.2 ⟨y', rest', hy', hrest', rfl⟩, rfl⟩
  | trans _ _ ih ih' =>
    obtain ⟨ys', hys', hperm⟩ := ih hys
    obtain ⟨ys'', hys'', hperm'⟩ := ih' hys'
    exact ⟨ys'', hys'', hperm.trans hperm'⟩

lemma min?_of_perm {xs ys : List Int} (h : xs.Perm ys) {m n : Int} (hm : xs.min? = some m)
    (hn : ys.min? = some n) : m = n := by
  rw [List.min?_eq_some_iff] at hm hn
  exact Int.le_antisymm (hm.2 n (h.mem_iff.2 hn.1)) (hn.2 m (h.mem_iff.1 hm.1))

lemma max?_of_perm {xs ys : List Int} (h : xs.Perm ys) {m n : Int} (hm : xs.max? = some m)
    (hn : ys.max? = some n) : m = n := by
  rw [List.max?_eq_some_iff] at hm hn
  exact Int.le_antisymm (hn.2 m (h.mem_iff.1 hm.1)) (hm.2 n (h.mem_iff.2 hn.1))

end Lists

namespace Narrative
open IncidentTriage.Trace

lemma perm_inOrder (spans : List Span) : (inOrder spans).Perm spans :=
  List.mergeSort_perm spans _

lemma startsBefore_trans (a b c : Span) : decide (a.start ≤ b.start) = true →
    decide (b.start ≤ c.start) = true → decide (a.start ≤ c.start) = true := by
  simp only [decide_eq_true_eq]
  omega

lemma startsBefore_total (a b : Span) :
    (decide (a.start ≤ b.start) || decide (b.start ≤ a.start)) = true := by
  simp only [Bool.or_eq_true, decide_eq_true_eq]
  omega

lemma pairwise_inOrder (spans : List Span) :
    (inOrder spans).Pairwise fun a b => a.start ≤ b.start := by
  refine (List.pairwise_mergeSort startsBefore_trans startsBefore_total spans).imp fun hle => ?_
  simpa only [decide_eq_true_eq] using hle

/-- Where no two spans start together there is one order of them. -/
lemma inOrder_of_perm {spans spans' : List Span} (h : spans.Perm spans')
    (hstarts : (spans.map (·.start)).Nodup) : inOrder spans = inOrder spans' := by
  refine List.Perm.eq_of_pairwise ?_ (pairwise_inOrder spans) (pairwise_inOrder spans')
    ((perm_inOrder spans).trans (h.trans (perm_inOrder spans').symm))
  intro a b ha hb hab hba
  have ha' : a ∈ spans := (perm_inOrder spans).mem_iff.1 ha
  have hb' : b ∈ spans := h.mem_iff.2 ((perm_inOrder spans').mem_iff.1 hb)
  exact List.inj_on_of_nodup_map hstarts ha' hb' (Int.le_antisymm hab hba)

/-- The spans that no other one starts before. -/
def firstToStart (spans : List Span) : List Span :=
  spans.filter fun s => spans.all fun t => s.start ≤ t.start

lemma perm_firstToStart {spans spans' : List Span} (h : spans.Perm spans') :
    (firstToStart spans).Perm (firstToStart spans') := by
  unfold firstToStart
  have hall : (fun s : Span => spans.all fun t => s.start ≤ t.start) =
      fun s => spans'.all fun t => s.start ≤ t.start := funext fun s => h.all_eq
  rw [hall]
  exact h.filter _

lemma head?_inOrder {spans : List Span} {s : Span} (hs : firstToStart spans = [s]) :
    (inOrder spans).head? = some s := by
  have hmem : s ∈ inOrder spans := by
    have hfirst : s ∈ firstToStart spans := hs ▸ List.mem_singleton_self s
    exact (perm_inOrder spans).mem_iff.2 (List.mem_filter.1 hfirst).1
  have hpairwise := pairwise_inOrder spans
  have hperm := perm_inOrder spans
  cases hsorted : inOrder spans with
  | nil => simp [hsorted] at hmem
  | cons first rest =>
    rw [hsorted] at hpairwise hperm
    have hfirst : first ∈ firstToStart spans := by
      refine List.mem_filter.2 ⟨hperm.mem_iff.1 List.mem_cons_self, ?_⟩
      rw [List.all_eq_true]
      intro t ht
      rw [decide_eq_true_eq]
      rcases List.mem_cons.1 (hperm.mem_iff.2 ht) with rfl | ht
      · exact Int.le_refl _
      · exact (List.pairwise_cons.1 hpairwise).1 t ht
    rw [hs, List.mem_singleton] at hfirst
    rw [List.head?_cons, hfirst]

/-- There is only one span that can be the root: the one without a parent or, where every span has
one, the one that starts first. -/
def HasOneRoot (spans : List Span) : Prop :=
  (∃ s, spans.filter (·.isRoot) = [s]) ∨
    spans.filter (·.isRoot) = [] ∧ ∃ s, firstToStart spans = [s]

/-- The root that there is only one of is found in whatever order the spans come. -/
lemma root?_inOrder_of_perm {spans spans' : List Span} (h : spans.Perm spans')
    (hroot : HasOneRoot spans) :
    Span.root? (inOrder spans) = Span.root? (inOrder spans') := by
  have hperm : ∀ xs : List Span, xs.Perm spans → (xs.filter (·.isRoot)).Perm
      (spans.filter (·.isRoot)) := fun xs hxs => hxs.filter _
  have hother := (perm_inOrder spans').trans h.symm
  unfold Span.root?
  rw [← List.head?_filter, ← List.head?_filter]
  rcases hroot with ⟨s, hs⟩ | ⟨hnone, s, hs⟩
  · rw [hs] at hperm
    rw [List.perm_singleton.1 (hperm _ (perm_inOrder spans)), List.perm_singleton.1 (hperm _ hother)]
    rfl
  · rw [hnone] at hperm
    have hs' : firstToStart spans' = [s] := List.perm_singleton.1 (hs ▸ (perm_firstToStart h).symm)
    rw [(hperm _ (perm_inOrder spans)).eq_nil, (hperm _ hother).eq_nil, head?_inOrder hs,
      head?_inOrder hs']

/-- What a narrative keeps of its spans. -/
structure Tells (n : Narrative) (traceId : String) (spans : List Span) : Prop where
  id : n.traceId = traceId
  told : n.spans = spans
  hasErrors : n.hasErrors = spans.any (·.hasError)
  start : (spans.map (·.start)).min? = some n.start
  durationMs : ∃ last, (spans.map (·.finish)).max? = some last ∧
    n.durationMs = max (last - n.start) 0 / 1000
  root : ∃ root, Span.root? spans = some root ∧ n.rootService = root.service ∧
    n.rootOperation = root.operation

lemma exists_tells (traceId : String) {spans : List Span} (h : spans ≠ []) :
    ∃ n, ofSpans? traceId spans = some n ∧ Tells n traceId spans := by
  obtain ⟨first, rest, rfl⟩ := List.exists_cons_of_ne_nil h
  refine ⟨_, rfl, rfl, rfl, rfl, ?_, ⟨latest first rest, ?_, rfl⟩, ?_⟩
  · rw [List.map_cons, List.min?_cons', List.foldl_map]
    rfl
  · rw [List.map_cons, List.max?_cons', List.foldl_map]
    rfl
  · cases hroot : Span.root? (first :: rest) with
    | none => simp [Span.root?] at hroot
    | some root => exact ⟨root, rfl, rfl, rfl⟩

/-- The two narratives have the same figures and belong to the same trace. -/
structure Agrees (n n' : Narrative) : Prop where
  spanCount : n.spanCount = n'.spanCount
  start : n.start = n'.start
  durationMs : n.durationMs = n'.durationMs
  hasErrors : n.hasErrors = n'.hasErrors
  traceId : n.traceId = n'.traceId

lemma Tells.agrees {n n' : Narrative} {traceId : String} {spans spans' : List Span}
    (hn : Tells n traceId spans) (hn' : Tells n' traceId spans') (h : spans.Perm spans') :
    Agrees n n' := by
  have hstart : n.start = n'.start := min?_of_perm (h.map _) hn.start hn'.start
  obtain ⟨last, hlast, hduration⟩ := hn.durationMs
  obtain ⟨last', hlast', hduration'⟩ := hn'.durationMs
  have hfinish : last = last' := max?_of_perm (h.map _) hlast hlast'
  refine ⟨?_, hstart, ?_, ?_, ?_⟩
  · rw [spanCount, spanCount, hn.told, hn'.told, h.length_eq]
  · rw [hduration, hduration', hfinish, hstart]
  · rw [hn.hasErrors, hn'.hasErrors, h.any_eq]
  · rw [hn.id, hn'.id]

lemma ofTrace_of_spans {fields : Fields} {raw : List Value} {spans : List Span}
    (hraw : Fields.get fields "spans" = .list raw)
    (hspans : raw.mapM (Span.parse (processes (Fields.get fields "processes"))) = .ok spans) :
    ofTrace (.object fields) = .ok
      (ofSpans? (Span.orUnknown (Fields.get fields "traceID").fieldText) (inOrder spans)) := by
  simp only [ofTrace, hraw, rawSpans, hspans, bind, Except.bind, pure, Except.pure]

/-- The order in which the spans of a raw trace come, all of which can be read, does not matter. The
narrative has the same figures; it has the same root if there is only one span that this can be; and
it is the same altogether, its text and its metadata included, if no two spans start together. -/
theorem span_order_is_irrelevant (fields : Fields) (raw raw' : List Value) (spans : List Span)
    (hraw : Fields.get fields "spans" = .list raw) (hperm : raw.Perm raw')
    (hspans : raw.mapM (Span.parse (processes (Fields.get fields "processes"))) = .ok spans) :
    match ofTrace (.object fields),
      ofTrace (.object (Fields.set fields "spans" (.list raw'))) with
    | .ok (some n), .ok (some n') =>
      Agrees n n' ∧
      (HasOneRoot spans → Span.root? n.spans = Span.root? n'.spans ∧
        n.rootService = n'.rootService ∧ n.rootOperation = n'.rootOperation) ∧
      ((spans.map (·.start)).Nodup → n = n' ∧ n.metadata = n'.metadata)
    | .ok none, .ok none => raw = []
    | _, _ => False := by
  obtain ⟨spans', hspans', hp⟩ := exists_mapM_of_perm hperm hspans
  have htrace := ofTrace_of_spans hraw hspans
  have htrace' : ofTrace (.object (Fields.set fields "spans" (.list raw'))) = .ok
      (ofSpans? (Span.orUnknown (Fields.get fields "traceID").fieldText) (inOrder spans')) := by
    have hkept : ∀ name, name ≠ "spans" →
        Fields.get (Fields.set fields "spans" (.list raw')) name = Fields.get fields name :=
      fun name hname => Fields.get_set_of_ne fields _ hname
    rw [← hkept "processes" (by decide)] at hspans'
    rw [← hkept "traceID" (by decide)]
    exact ofTrace_of_spans (Fields.get_set_self _ _ _) hspans'
  rw [htrace, htrace']
  cases spans with
  | nil =>
    have hnil : inOrder [] = [] := (perm_inOrder []).eq_nil
    rw [hp.symm.eq_nil, hnil]
    cases raw with
    | nil => rfl
    | cons v rest =>
      obtain ⟨_, _, -, -, hcons⟩ := mapM_cons_eq_ok_iff.1 hspans
      cases hcons
  | cons first rest =>
    generalize hid : Span.orUnknown (Fields.get fields "traceID").fieldText = id
    have hne : inOrder (first :: rest) ≠ [] := fun hnil => by
      simpa [hnil] using (perm_inOrder (first :: rest)).length_eq
    have hsorted : (inOrder (first :: rest)).Perm (inOrder spans') :=
      (perm_inOrder _).trans (hp.trans (perm_inOrder spans').symm)
    have hne' : inOrder spans' ≠ [] := fun hnil => hne (hnil ▸ hsorted).eq_nil
    obtain ⟨n, hsome, hn⟩ := exists_tells id hne
    obtain ⟨n', hsome', hn'⟩ := exists_tells id hne'
    rw [hsome, hsome']
    refine ⟨hn.agrees hn' hsorted, fun hroot => ?_, fun hstarts => ?_⟩
    · have hsame := root?_inOrder_of_perm hp hroot
      obtain ⟨root, hfound, hservice, hoperation⟩ := hn.root
      obtain ⟨root', hfound', hservice', hoperation'⟩ := hn'.root
      have heq : root = root' := by
        rw [hsame, hfound', Option.some.injEq] at hfound
        exact hfound.symm
      rw [hn.told, hn'.told, hservice, hoperation, hservice', hoperation', heq]
      exact ⟨hsame, rfl, rfl⟩
    · rw [inOrder_of_perm hp hstarts, hsome', Option.some.injEq] at hsome
      rw [hsome]
      exact ⟨rfl, rfl⟩

theorem span_order_is_irrelevant_of_child_first :
    let child : Value := .object [("startTime", .int 20), ("references",
      .list [.object [("refType", .text "CHILD_OF"), ("spanID", .text "a")]])]
    let root : Value := .object [("spanID", .text "a"), ("startTime", .int 10), ("duration", .int 7)]
    let fields : Fields := [("traceID", .text "t1"), ("spans", .list [child, root])]
    ∃ n n', ofTrace (.object fields) = .ok (some n) ∧
      ofTrace (.object (Fields.set fields "spans" (.list [root, child]))) = .ok (some n') ∧
      Agrees n n' ∧ Span.root? n.spans = Span.root? n'.spans ∧ n = n' := by
  intro child root fields
  have hspans : [child, root].mapM (Span.parse (processes (Fields.get fields "processes"))) =
      .ok [⟨"", "a", "unknown", "unknown", 20, 0, false, none, [], []⟩,
        ⟨"a", "", "unknown", "unknown", 10, 7, false, none, [], []⟩] := rfl
  have h := span_order_is_irrelevant fields [child, root] [root, child] _ rfl (.swap _ _ _) hspans
  split at h
  · rename_i n n' htrace htrace'
    have hroot := h.2.1 (.inl ⟨_, rfl⟩)
    have hsame := h.2.2 (by decide)
    exact ⟨n, n', htrace, htrace', h.1, hroot.1, hsame.1⟩
  · cases h
  · exact h.elim

end Narrative

end IncidentTriage
