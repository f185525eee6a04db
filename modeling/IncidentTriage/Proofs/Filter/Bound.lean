import IncidentTriage.Proofs.Filter.Condition
import IncidentTriage.Proofs.Filter.Written

/-!
# Filters as bound parameters

The names under which the texts of a filter are bound have the count of the parameters for their
number. Since no name has a number as high as that count, no parameter is ever bound over. So what is
added to a query are two parameters for each term, and the condition asks for the filter.
-/

namespace IncidentTriage.Filter

/-- The parameters of a query, with a filter in them or not: none of their names has a number, or
they are what is left when a filter is added to such parameters. -/
inductive Handed : Parameters → Prop
  | plain {params : Parameters} (h : ∀ p ∈ params, ∀ i, ¬ IsNumbered p.1 i) : Handed params
  | rendered {params : Parameters} (h : Handed params) (expression : Option String) :
      Handed (toSqlWith params expression).2

/-- All numbers of names are below the count of the parameters. -/
def Counted (params : Parameters) : Prop :=
  ∀ p ∈ params, ∀ i, IsNumbered p.1 i → i < params.length

/-- The parameters of some terms, numbered from `n` on. -/
def bindings : Nat → List Term → Parameters
  | _, [] => []
  | n, t :: rest =>
    ("fk" ++ toString n, .text t.key) :: ("fv" ++ toString (n + 1), .text t.value) ::
      bindings (n + 2) rest

/-- The comparisons for a group of some size, and those for several groups. -/
def comparisonsFrom : Nat → Nat → List Comparison
  | _, 0 => []
  | n, size + 1 => ⟨"fk" ++ toString n, "fv" ++ toString (n + 1)⟩ :: comparisonsFrom (n + 2) size

def comparisonsOf : Nat → List Nat → List (List Comparison)
  | _, [] => []
  | n, size :: sizes => comparisonsFrom n size :: comparisonsOf (n + 2 * size) sizes

section Bindings

lemma length_bindings (n : Nat) (ts : List Term) : (bindings n ts).length = 2 * ts.length := by
  induction ts generalizing n with
  | nil => rfl
  | cons t ts ih =>
    simp only [bindings, List.length_cons, ih]
    omega

lemma bindings_append (n : Nat) (ts us : List Term) :
    bindings n (ts ++ us) = bindings n ts ++ bindings (n + 2 * ts.length) us := by
  induction ts generalizing n with
  | nil => rfl
  | cons t ts ih =>
    have hcount : n + 2 + 2 * ts.length = n + 2 * (ts.length + 1) := by omega
    simp only [List.cons_append, bindings, ih, List.length_cons, hcount]

lemma exists_number_of_mem_bindings {n : Nat} {ts : List Term} {p : String × Value}
    (h : p ∈ bindings n ts) : ∃ i, n ≤ i ∧ IsNumbered p.1 i := by
  induction ts generalizing n with
  | nil => exact absurd h List.not_mem_nil
  | cons t ts ih =>
    rw [bindings, List.mem_cons, List.mem_cons] at h
    rcases h with rfl | rfl | h
    · exact ⟨n, Nat.le_refl n, .inl rfl⟩
    · exact ⟨n + 1, Nat.le_succ n, .inr rfl⟩
    · obtain ⟨i, hi, hnumber⟩ := ih h
      exact ⟨i, by omega, hnumber⟩

lemma nodup_bindings (n : Nat) (ts : List Term) : ((bindings n ts).map Prod.fst).Nodup := by
  induction ts generalizing n with
  | nil => exact List.nodup_nil
  | cons t ts ih =>
    have hlater : ∀ {name : String} {i : Nat}, IsNumbered name i → i < n + 2 →
        name ∉ (bindings (n + 2) ts).map Prod.fst := by
      intro name i hname hlt hmem
      obtain ⟨p, hp, rfl⟩ := List.mem_map.1 hmem
      obtain ⟨j, hj, hnumber⟩ := exists_number_of_mem_bindings hp
      have := hname.unique hnumber
      omega
    rw [bindings, List.map_cons, List.map_cons, List.nodup_cons, List.nodup_cons, List.mem_cons]
    refine ⟨not_or.2 ⟨fk_ne_fv n (n + 1), ?_⟩, ?_, ih (n + 2)⟩
    · exact hlater (.inl rfl) (by omega)
    · exact hlater (.inr rfl) (by omega)

lemma hasNumbers_comparisonsFrom {n size : Nat} {c : Comparison} (h : c ∈ comparisonsFrom n size) :
    c.HasNumbers := by
  induction size generalizing n with
  | zero => exact absurd h List.not_mem_nil
  | succ size ih =>
    rw [comparisonsFrom, List.mem_cons] at h
    rcases h with rfl | h
    · exact ⟨⟨n, .inl rfl⟩, ⟨n + 1, .inr rfl⟩⟩
    · exact ih h

lemma hasNumbers_comparisonsOf {n : Nat} {sizes : List Nat} {g : List Comparison}
    (h : g ∈ comparisonsOf n sizes) : ∀ c ∈ g, c.HasNumbers := by
  induction sizes generalizing n with
  | nil => exact absurd h List.not_mem_nil
  | cons size sizes ih =>
    rw [comparisonsOf, List.mem_cons] at h
    rcases h with rfl | h
    · exact fun _ => hasNumbers_comparisonsFrom
    · exact ih h

end Bindings

section Counting

variable {params : Parameters} {name : String}

lemma Counted.notMem (h : Counted params) (hname : IsNumbered name params.length) :
    ∀ p ∈ params, p.1 ≠ name := by
  intro p hp heq
  exact Nat.lt_irrefl _ (h p hp params.length (heq ▸ hname))

lemma Counted.concat (h : Counted params) (hname : IsNumbered name params.length) (v : Value) :
    Counted (params ++ [(name, v)]) := by
  intro p hp i hi
  rw [List.length_append, List.length_singleton]
  rcases List.mem_append.1 hp with hp | hp
  · exact Nat.lt_succ_of_lt (h p hp i hi)
  · rw [List.mem_singleton.1 hp] at hi
    rw [hi.unique hname]
    exact Nat.lt_succ_self _

lemma isNumbered_value (params : Parameters) (p : String × Value) :
    IsNumbered ("fv" ++ toString (params.length + 1)) (params ++ [p]).length := by
  rw [List.length_append, List.length_singleton]
  exact .inr rfl

lemma Counted.bindings (h : Counted params) (ts : List Term) :
    Counted (params ++ bindings params.length ts) := by
  induction ts generalizing params with
  | nil => rwa [Filter.bindings, List.append_nil]
  | cons t ts ih =>
    have hkey := h.concat (.inl rfl) (.text t.key)
    have hvalue := hkey.concat (isNumbered_value params _) (.text t.value)
    have hrest := ih hvalue
    simpa [Filter.bindings] using hrest

/-- A name without a parameter gets one of its own, behind all others. -/
lemma Counted.set (h : Counted params) (hname : IsNumbered name params.length) (v : Value) :
    Fields.set params name v = params ++ [(name, v)] := by
  have hnone : params.any (·.1 = name) = false := by
    rw [List.any_eq_false]
    intro p hp heq
    exact h.notMem hname p hp (of_decide_eq_true heq)
  rw [Fields.set, hnone, if_neg Bool.false_ne_true]

lemma Counted.get? (h : Counted params) (hname : IsNumbered name params.length)
    (more : Parameters) : Fields.get? (params ++ more) name = Fields.get? more name := by
  have hnone : params.find? (·.1 = name) = none := by
    rw [List.find?_eq_none]
    intro p hp heq
    exact h.notMem hname p hp (of_decide_eq_true heq)
  rw [Fields.get?, List.find?_append, hnone, Option.none_or, Fields.get?]

end Counting

section Asking

variable {params : Parameters}

lemma term?_numbered (h : Counted params) (t : Term) (more : Parameters) :
    (⟨"fk" ++ toString params.length, "fv" ++ toString (params.length + 1)⟩ : Comparison).term?
      (params ++ (bindings params.length [t] ++ more)) = some t := by
  have hcounted := h.concat (.inl rfl) (.text t.key)
  have hkey := h.get? (.inl rfl) (bindings params.length [t] ++ more)
  have hvalue := hcounted.get? (isNumbered_value params _)
    (("fv" ++ toString (params.length + 1), .text t.value) :: more)
  rw [List.append_assoc, List.singleton_append] at hvalue
  simp only [bindings, List.cons_append, List.nil_append] at hkey ⊢
  rw [Comparison.term?, hkey, hvalue]
  simp [Fields.get?]

lemma map_term?_comparisonsFrom (h : Counted params) (ts : List Term) (more : Parameters) :
    (comparisonsFrom params.length ts.length).map
      (·.term? (params ++ (bindings params.length ts ++ more))) = ts.map some := by
  induction ts generalizing params with
  | nil => rfl
  | cons t ts ih =>
    have hfirst := term?_numbered h t (bindings (params.length + 2) ts ++ more)
    have hrest := ih (h.bindings [t])
    rw [List.length_append, length_bindings, List.append_assoc] at hrest
    rw [List.length_cons, comparisonsFrom, List.map_cons, List.map_cons]
    exact congrArg₂ List.cons hfirst hrest

lemma map_term?_comparisonsOf (h : Counted params) (groups : List Group) (more : Parameters) :
    (comparisonsOf params.length (groups.map List.length)).map
      (·.map (·.term? (params ++ (bindings params.length groups.flatten ++ more)))) =
        groups.map (·.map some) := by
  induction groups generalizing params with
  | nil => rfl
  | cons g groups ih =>
    have hlength : (params ++ bindings params.length g).length = params.length + 2 * g.length := by
      rw [List.length_append, length_bindings]
    have hrest := ih (h.bindings g)
    rw [hlength, List.append_assoc, ← List.append_assoc (bindings _ g)] at hrest
    rw [List.map_cons, comparisonsOf, List.map_cons, List.map_cons, List.flatten_cons,
      bindings_append, hrest, List.append_assoc, map_term?_comparisonsFrom h g]

/-- The condition over numbered names asks for the groups that were bound under them. -/
lemma asks_bindings (h : Counted params) (groups : List Group) :
    Asks (params ++ bindings params.length groups.flatten)
      (conditionText (comparisonsOf params.length (groups.map List.length))) groups := by
  have hterms := map_term?_comparisonsOf h groups []
  rw [List.append_nil] at hterms
  exact ⟨_, fun _ => hasNumbers_comparisonsOf, rfl, hterms⟩

end Asking

section Running

variable {params : Parameters}

lemma run_bind_eq {α β : Type} {act : StateM Parameters α} {a : α} {after : Parameters}
    (h : act.run params = (a, after)) (next : α → StateM Parameters β) :
    (act >>= next).run params = (next a).run after := by
  rw [StateT.run_bind, h]
  rfl

lemma run_pure_eq {α : Type} (a : α) : (pure a : StateM Parameters α).run params = (a, params) :=
  rfl

lemma run_bindText (h : Counted params) {stem : String}
    (hname : IsNumbered (stem ++ toString params.length) params.length) (text : String) :
    (bindText stem text).run params = (stem ++ toString params.length,
      params ++ [(stem ++ toString params.length, .text text)]) := by
  rw [← h.set hname]
  rfl

lemma run_term (h : Counted params) (t : Term) :
    t.toSql.run params =
      ((⟨"fk" ++ toString params.length, "fv" ++ toString (params.length + 1)⟩ : Comparison).text,
        params ++ bindings params.length [t]) := by
  have hkey := run_bindText h (.inl rfl) t.key
  have hvalue := run_bindText (h.concat (.inl rfl) (.text t.key)) (.inr rfl) t.value
  rw [Term.toSql, run_bind_eq hkey, run_bind_eq hvalue, run_pure_eq]
  simp [bindings, Comparison.text]

lemma run_terms (h : Counted params) (g : Group) :
    (g.mapM Term.toSql).run params =
      ((comparisonsFrom params.length g.length).map Comparison.text,
        params ++ bindings params.length g) := by
  induction g generalizing params with
  | nil =>
    rw [List.mapM_nil, run_pure_eq, bindings, List.append_nil]
    rfl
  | cons t g ih =>
    have hterm := run_term h t
    have hrest := ih (h.bindings [t])
    rw [List.mapM_cons, run_bind_eq hterm, run_bind_eq hrest, run_pure_eq]
    simp [bindings, comparisonsFrom]

lemma run_group (h : Counted params) (g : Group) :
    (groupToSql g).run params =
      (bracketed " AND " ((comparisonsFrom params.length g.length).map Comparison.text),
        params ++ bindings params.length g) := by
  rw [groupToSql, run_bind_eq (run_terms h g)]
  rfl

lemma run_conjunctions (h : Counted params) (groups : List Group) :
    (groups.mapM groupToSql).run params =
      ((comparisonsOf params.length (groups.map List.length)).map
        fun g => bracketed " AND " (g.map Comparison.text),
        params ++ bindings params.length groups.flatten) := by
  induction groups generalizing params with
  | nil =>
    rw [List.mapM_nil, run_pure_eq, List.flatten_nil, bindings, List.append_nil]
    rfl
  | cons g groups ih =>
    have hgroup := run_group h g
    have hrest := ih (h.bindings g)
    rw [List.mapM_cons, run_bind_eq hgroup, run_bind_eq hrest, run_pure_eq]
    simp [bindings_append, comparisonsOf, length_bindings]

lemma run_groups (h : Counted params) (groups : List Group) :
    (groupsToSql groups).run params =
      (conditionText (comparisonsOf params.length (groups.map List.length)),
        params ++ bindings params.length groups.flatten) := by
  rw [groupsToSql, run_bind_eq (run_conjunctions h groups)]
  rfl

lemma parse_empty : parse "" = .error (.incomplete "") := by
  have hnone : groupsFrom true [] "".toList = .error [] := by
    rw [groupsFrom.eq_def]
    rfl
  rw [parse, hnone]

lemma toSqlWith_of_groups {expression : String} (hne : expression ≠ "") {groups : List Group}
    (hparse : parse expression = .ok groups) :
    toSqlWith params (some expression) =
      (.ok ((groupsToSql groups).run params).1, ((groupsToSql groups).run params).2) := by
  have hempty : expression.isEmpty = false := by simpa using hne
  rw [toSqlWith, toSql, hempty, hparse]
  rfl

lemma toSqlWith_of_error {expression : String} (hne : expression ≠ "") {error : Error}
    (hparse : parse expression = .error error) :
    toSqlWith params (some expression) = (.error error, params) := by
  have hempty : expression.isEmpty = false := by simpa using hne
  rw [toSqlWith, toSql, hempty, hparse]
  rfl

/-- A filter that is read adds the parameters of its terms to those there are. -/
lemma toSqlWith_eq (h : Counted params) {expression : String} (hne : expression ≠ "")
    {groups : List Group} (hparse : parse expression = .ok groups) :
    toSqlWith params (some expression) =
      (.ok (conditionText (comparisonsOf params.length (groups.map List.length))),
        params ++ bindings params.length groups.flatten) := by
  rw [toSqlWith_of_groups hne hparse, run_groups h]

lemma Counted.rendered (h : Counted params) (expression : Option String) :
    Counted (toSqlWith params expression).2 := by
  cases expression with
  | none => exact h
  | some expression =>
    by_cases hne : expression = ""
    · subst hne
      exact h
    · cases hparse : parse expression with
      | error error =>
        rw [toSqlWith_of_error hne hparse]
        exact h
      | ok groups =>
        rw [toSqlWith_eq h hne hparse]
        exact h.bindings groups.flatten

lemma Handed.counted (h : Handed params) : Counted params := by
  induction h with
  | plain hnone => exact fun p hp i hi => absurd hi (hnone p hp i)
  | rendered _ expression ih => exact ih.rendered expression

/-- Names that begin with another letter have no number. -/
lemma handed_of_heads (h : ∀ p ∈ params, p.1.toList.head? ≠ some 'f') : Handed params := by
  apply Handed.plain
  intro p hp i hi
  apply h p hp
  rcases hi with hname | hname
  · simp [hname]
  · simp [hname]

end Running

/-- What becomes of parameters when a filter of some groups is added to them and its condition is
`sql`: those there were stay as they are, each term brings two new ones, and the condition asks for
the groups and for nothing else. -/
structure Renders (params : Parameters) (groups : List Group) (sql : String)
    (after : Parameters) : Prop where
  kept : params <+: after
  count : after.length = params.length + 2 * groups.flatten.length
  isNew : ∀ p ∈ after.drop params.length, p.1 ∉ params.map Prod.fst
  distinct : ((after.drop params.length).map Prod.fst).Nodup
  asks : ∀ others, Asks after sql others ↔ others = groups

lemma renders_bindings {params : Parameters} (h : Counted params) (groups : List Group) :
    Renders params groups (conditionText (comparisonsOf params.length (groups.map List.length)))
      (params ++ bindings params.length groups.flatten) := by
  have hasks := asks_bindings h groups
  refine ⟨List.prefix_append params _, ?_, ?_, ?_, ?_⟩
  · rw [List.length_append, length_bindings]
  · intro p hp hmem
    rw [List.drop_left] at hp
    obtain ⟨i, hi, hnumber⟩ := exists_number_of_mem_bindings hp
    obtain ⟨q, hq, hname⟩ := List.mem_map.1 hmem
    have hless := h q hq i (hname ▸ hnumber)
    omega
  · rw [List.drop_left]
    exact nodup_bindings _ _
  · intro others
    constructor
    · intro hothers
      exact hothers.unique hasks
    · rintro rfl
      exact hasks

/-- A filter that is added to the parameters of a query is asked for by its condition, whatever its
keys and values are, and none of them stands in the condition: that is the same for every filter of
this shape and as many parameters. A filter that cannot be read leaves the parameters alone. -/
theorem condition_asks_for_filter {params : Parameters} (h : Handed params) {expression : String}
    (hne : expression ≠ "") :
    (∀ error, parse expression = .error error →
      toSqlWith params (some expression) = (.error error, params)) ∧
    ∀ groups, parse expression = .ok groups → ∃ sql after,
      toSqlWith params (some expression) = (.ok sql, after) ∧ Renders params groups sql after ∧
      ∀ others, Handed others → others.length = params.length → ∀ other otherGroups,
        parse other = .ok otherGroups → otherGroups.map List.length = groups.map List.length →
          (toSqlWith others (some other)).1 = .ok sql := by
  refine ⟨fun error hparse => toSqlWith_of_error hne hparse, ?_⟩
  intro groups hparse
  refine ⟨_, _, toSqlWith_eq h.counted hne hparse, renders_bindings h.counted groups, ?_⟩
  intro others hothers hlength other otherGroups hother hshape
  have hother_ne : other ≠ "" := by
    rintro rfl
    rw [parse_empty] at hother
    cases hother
  rw [toSqlWith_eq hothers.counted hother_ne hother, hlength, hshape]

theorem condition_asks_for_quoted_service :
    let params : Parameters := [("emb", .list []), ("min_score", .float 0.45), ("limit", .int 6)]
    let group : Group := [⟨"type", "telemetry"⟩, ⟨"rootService", "it's\\ || a == 'b'"⟩]
    (Handed params ∧ renderGroup group ≠ "") ∧ ∃ sql after,
      toSqlWith params (some (renderGroup group)) = (.ok sql, after) ∧
        Renders params [group] sql after := by
  intro params group
  have hparams : Handed params := handed_of_heads (by decide)
  have hne : renderGroup group ≠ "" := by decide
  have hparse : parse (renderGroup group) = .ok [group] :=
    parse_renderGroup (by decide) (by decide)
  obtain ⟨sql, after, hsql, hrenders, -⟩ :=
    (condition_asks_for_filter hparams hne).2 [group] hparse
  exact ⟨⟨hparams, hne⟩, sql, after, hsql, hrenders⟩

end IncidentTriage.Filter
