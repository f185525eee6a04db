import IncidentTriage.Proofs.Filter.Grammar

/-!
# Reading filters by their grammar

A text is read as some groups exactly when it spells them, so that no text spells two different lists
of groups. What is not read is reported with the place where reading stops.
-/

namespace IncidentTriage.Filter
open IncidentTriage.Text

variable {cs rest : List Char} {terms : Group} {t : Term} {groups : List Group}

lemma ne_nil_of_scan {token : Token} (h : scan cs = some (token, rest)) : cs.isEmpty = false := by
  cases cs with
  | nil => cases h
  | cons => rfl

lemma groupsFrom_nil (terms : Group) : groupsFrom false terms [] = .ok [terms] := by
  rw [groupsFrom.eq_def]
  rfl

/-- What reading does with the token at the head of a text. -/
lemma groupsFrom_of_scan (token : Token) (wantsTerm : Bool) (terms : Group) :
    scan cs = some (token, rest) → groupsFrom wantsTerm terms cs =
      match token, wantsTerm with
      | .term t, true => groupsFrom false (terms ++ [t]) rest
      | .both, false => groupsFrom true terms rest
      | .either, false => (groupsFrom true [] rest).map (terms :: ·)
      | _, _ => .error cs := by
  intro h
  rw [groupsFrom.eq_def, ne_nil_of_scan h, if_neg Bool.false_ne_true]
  split
  · rename_i heq
    cases h.symm.trans heq
    rfl
  · rename_i heq
    cases h.symm.trans heq
    rfl
  · rename_i heq
    cases h.symm.trans heq
    rfl
  · rename_i wantsTerm _ hterm hboth heither
    cases token with
    | term t => cases wantsTerm with
      | true => exact absurd rfl (hterm t rest h)
      | false => rfl
    | both => cases wantsTerm with
      | true => rfl
      | false => exact absurd rfl (hboth rest h)
    | either => cases wantsTerm with
      | true => rfl
      | false => exact absurd rfl (heither rest h)

lemma groupsFrom_term (h : scan cs = some (.term t, rest)) (terms : Group) :
    groupsFrom true terms cs = groupsFrom false (terms ++ [t]) rest :=
  groupsFrom_of_scan _ true terms h

lemma groupsFrom_both (h : scan cs = some (.both, rest)) (terms : Group) :
    groupsFrom false terms cs = groupsFrom true terms rest :=
  groupsFrom_of_scan _ false terms h

lemma groupsFrom_either (h : scan cs = some (.either, rest)) (terms : Group) :
    groupsFrom false terms cs = (groupsFrom true [] rest).map (terms :: ·) :=
  groupsFrom_of_scan _ false terms h

lemma groupsFrom_stuck {wantsTerm : Bool} (hne : ¬ cs.isEmpty = true)
    (hterm : ∀ t rest, scan cs = some (.term t, rest) → wantsTerm = true → False)
    (hboth : ∀ rest, scan cs = some (.both, rest) → wantsTerm = false → False)
    (heither : ∀ rest, scan cs = some (.either, rest) → wantsTerm = false → False) :
    groupsFrom wantsTerm terms cs = .error cs := by
  rw [groupsFrom.eq_def, if_neg hne]
  split
  · rename_i heq
    exact (hterm _ _ heq rfl).elim
  · rename_i heq
    exact (hboth _ heq rfl).elim
  · rename_i heq
    exact (heither _ heq rfl).elim
  · rfl

lemma padded_term_iff : Padded SpellsToken cs (.term t) ↔ Padded SpellsTerm cs t := by
  constructor
  · rintro ⟨left, inner, right, hleft, hright, ⟨hinner⟩, hcs⟩
    exact ⟨left, inner, right, hleft, hright, hinner, hcs⟩
  · rintro ⟨left, inner, right, hleft, hright, hinner, hcs⟩
    exact ⟨left, inner, right, hleft, hright, .term hinner, hcs⟩

lemma scan_term (h : Padded SpellsTerm cs t) (rest : List Char) :
    scan (cs ++ rest) = some (.term t, rest.dropWhile isBlank) :=
  scan_eq_of_padded (padded_term_iff.2 h) rest

lemma scan_operator {operator : List Char} {token : Token} (h : SpellsToken operator token)
    (rest : List Char) :
    scan ((operator ++ rest).dropWhile isBlank) = some (token, rest.dropWhile isBlank) := by
  have hpadded : Padded SpellsToken operator token :=
    ⟨[], operator, [], allBlank_nil, allBlank_nil, h, by simp⟩
  rw [scan_dropWhile, scan_eq_of_padded hpadded]

/-- A spelled group is read to its end, and what follows decides what becomes of it. The text may
have lost the white space before it. -/
lemma groupsFrom_of_spellsGroup {g : Group} (h : SpellsGroup cs g) (terms : Group)
    {text rest : List Char} (htext : scan text = scan (cs ++ rest)) :
    groupsFrom true terms text = groupsFrom false (terms ++ g) (rest.dropWhile isBlank) := by
  induction h generalizing terms text with
  | one hterm => rw [groupsFrom_term (htext.trans (scan_term hterm rest))]
  | @more cs more t g hterm _ ih =>
    rw [List.append_assoc, List.append_assoc] at htext
    rw [groupsFrom_term (htext.trans (scan_term hterm _)), groupsFrom_both (scan_operator .both _),
      ih _ (scan_dropWhile _), List.append_assoc]
    rfl

lemma groupsFrom_of_spells (h : Spells cs groups) {text : List Char} (htext : scan text = scan cs) :
    groupsFrom true [] text = .ok groups := by
  induction h generalizing text with
  | @one cs g hgroup =>
    rw [← List.append_nil cs] at htext
    rw [groupsFrom_of_spellsGroup hgroup [] htext, List.nil_append, List.dropWhile_nil,
      groupsFrom_nil]
  | @more cs rest g groups hgroup _ ih =>
    rw [List.append_assoc] at htext
    rw [groupsFrom_of_spellsGroup hgroup [] htext, List.nil_append,
      groupsFrom_either (scan_operator .either _), ih (scan_dropWhile _)]
    rfl

/-- A term before a filter joins its first group. -/
lemma Spells.cons_term {written : List Char} {g : Group} (hrest : Spells rest (g :: groups))
    (h : Padded SpellsTerm written t) :
    Spells (written ++ "&&".toList ++ rest) ((t :: g) :: groups) := by
  cases hrest with
  | one hgroup => exact .one (.more h hgroup)
  | more hgroup hmore =>
    rw [← List.append_assoc, ← List.append_assoc]
    exact .more (.more h hgroup) hmore

/-- The groups that a text completes, `terms` being the group that is under way. Where no term is
wanted, the text completes them behind any term. -/
def Completes : Bool → Group → List Char → List Group → Prop
  | true, terms, cs, groups => ∃ g others, Spells cs (g :: others) ∧ groups = (terms ++ g) :: others
  | false, terms, cs, groups => ∀ written t, Padded SpellsTerm written t →
      ∃ g others, Spells (written ++ cs) ((t :: g) :: others) ∧ groups = (terms ++ g) :: others

/-- What is read is spelled. -/
lemma completes_of_groupsFrom {wantsTerm : Bool} (h : groupsFrom wantsTerm terms cs = .ok groups) :
    Completes wantsTerm terms cs groups := by
  induction wantsTerm, terms, cs using groupsFrom.induct generalizing groups with
  | case1 terms cs hempty =>
    rw [groupsFrom.eq_def, if_pos hempty] at h
    cases h
  | case2 wantsTerm terms cs hempty hwants =>
    cases Bool.eq_false_iff.2 hwants
    rw [groupsFrom.eq_def, if_pos hempty] at h
    cases h
    rw [List.isEmpty_iff] at hempty
    subst hempty
    intro written t hterm
    refine ⟨[], [], ?_, by simp⟩
    rw [List.append_nil]
    exact .one (.one hterm)
  | case3 terms cs _ t rest hscan ih =>
    rw [groupsFrom_term hscan] at h
    obtain ⟨written, hwritten, hcs⟩ := padded_of_scan hscan
    obtain ⟨g, others, hspells, hgroups⟩ := ih h written t (padded_term_iff.1 hwritten)
    rw [← hcs] at hspells
    exact ⟨t :: g, others, hspells, by simp [hgroups]⟩
  | case4 terms cs _ rest hscan ih =>
    rw [groupsFrom_both hscan] at h
    obtain ⟨g, others, hspells, hgroups⟩ := ih h
    obtain ⟨_, ⟨left, _, right, hleft, hright, ⟨⟩, rfl⟩, hcs⟩ := padded_of_scan hscan
    intro written t hterm
    have hcons := (hspells.blanks hright).cons_term (hterm.blanks_after hleft)
    refine ⟨g, others, ?_, hgroups⟩
    rw [hcs]
    simpa using hcons
  | case5 terms cs _ rest hscan ih =>
    rw [groupsFrom_either hscan] at h
    cases hrest : groupsFrom true [] rest with
    | error _ => rw [hrest] at h; cases h
    | ok groups' =>
      rw [hrest] at h
      cases h
      obtain ⟨g, others, hspells, hgroups⟩ := ih hrest
      obtain ⟨_, ⟨left, _, right, hleft, hright, ⟨⟩, rfl⟩, hcs⟩ := padded_of_scan hscan
      intro written t hterm
      have hmore : Spells (written ++ left ++ "||".toList ++ (right ++ rest)) ([t] :: g :: others) :=
        .more (.one (hterm.blanks_after hleft)) (hspells.blanks hright)
      refine ⟨[], g :: others, ?_, by simp [hgroups]⟩
      rw [hcs]
      simpa using hmore
  | case6 wantsTerm terms cs hempty hterm hboth heither =>
    rw [groupsFrom_stuck hempty hterm hboth heither] at h
    cases h

/-- Reading stops at a part of the text. -/
lemma suffix_of_groupsFrom {wantsTerm : Bool} (h : groupsFrom wantsTerm terms cs = .error rest) :
    rest <:+ cs := by
  induction wantsTerm, terms, cs using groupsFrom.induct generalizing rest with
  | case1 terms cs hempty =>
    rw [groupsFrom.eq_def, if_pos hempty] at h
    cases h
    exact List.nil_suffix
  | case2 wantsTerm terms cs hempty hwants =>
    rw [groupsFrom.eq_def, if_pos hempty, if_neg hwants] at h
    cases h
  | case3 terms cs _ t after hscan ih =>
    rw [groupsFrom_term hscan] at h
    exact (ih h).trans (suffix_of_scan hscan)
  | case4 terms cs _ after hscan ih =>
    rw [groupsFrom_both hscan] at h
    exact (ih h).trans (suffix_of_scan hscan)
  | case5 terms cs _ after hscan ih =>
    rw [groupsFrom_either hscan] at h
    cases hafter : groupsFrom true [] after with
    | error _ =>
      rw [hafter] at h
      cases h
      exact (ih hafter).trans (suffix_of_scan hscan)
    | ok groups =>
      rw [hafter] at h
      cases h
  | case6 wantsTerm terms cs hempty hterm hboth heither =>
    rw [groupsFrom_stuck hempty hterm hboth heither] at h
    cases h
    exact List.suffix_refl cs

lemma parse_eq_ok_iff {expression : String} :
    parse expression = .ok groups ↔ groupsFrom true [] expression.toList = .ok groups := by
  unfold parse
  split
  · rename_i heq
    rw [heq]
    simp
  · rename_i heq
    simp [heq]
  · rename_i heq
    simp [heq]

/-- What is read has at least one term in it, in each of its groups. -/
lemma ne_nil_of_parse {expression : String} (h : parse expression = .ok groups) :
    groups ≠ [] ∧ ∀ g ∈ groups, g ≠ [] := by
  obtain ⟨g, others, hspells, rfl⟩ := completes_of_groupsFrom (parse_eq_ok_iff.1 h)
  exact ⟨List.cons_ne_nil _ _, hspells.groups_ne_nil⟩

/-- An expression that is not read is reported as incomplete, or with the place and the part of it
where reading stops. -/
theorem parse_eq_error {expression : String} {error : Error} (h : parse expression = .error error) :
    error = .incomplete expression ∨ ∃ before rest, expression.toList = before ++ rest ∧ rest ≠ [] ∧
      error = .invalid before.length (String.ofList rest) := by
  unfold parse at h
  split at h
  · cases h
  · cases h
    exact .inl rfl
  · rename_i rest hrest heq
    cases h
    obtain ⟨before, hbefore⟩ := suffix_of_groupsFrom heq
    refine .inr ⟨before, rest, hbefore.symm, hrest, ?_⟩
    rw [← String.length_toList, ← hbefore, List.length_append, Nat.add_sub_cancel]

/-- Exactly the texts that spell some groups are read, as those groups; all others are met with an
error of the kind of filters. No text spells two lists of groups. -/
theorem parse_iff_spells (expression : String) :
    (∀ groups, parse expression = .ok groups ↔ Spells expression.toList groups) ∧
    ((∃ error, parse expression = .error error ∧ error.toFault.kind = .filterExpression) ↔
      ¬ ∃ groups, Spells expression.toList groups) ∧
    ∀ groups others, Spells expression.toList groups → Spells expression.toList others →
      groups = others := by
  have hparse : ∀ groups, parse expression = .ok groups ↔ Spells expression.toList groups := by
    intro groups
    rw [parse_eq_ok_iff]
    constructor
    · intro h
      obtain ⟨g, others, hspells, rfl⟩ := completes_of_groupsFrom h
      exact hspells
    · intro h
      exact groupsFrom_of_spells h rfl
  refine ⟨hparse, ?_, ?_⟩
  · constructor
    · rintro ⟨error, herror, -⟩ ⟨groups, hspells⟩
      have hok := (hparse groups).2 hspells
      cases herror.symm.trans hok
    · intro hnone
      cases h : parse expression with
      | ok groups => exact absurd ⟨groups, (hparse groups).1 h⟩ hnone
      | error error => exact ⟨error, rfl, rfl⟩
  · intro groups others hgroups hothers
    have hsame := ((hparse groups).2 hgroups).symm.trans ((hparse others).2 hothers)
    exact Except.ok.inj hsame

end IncidentTriage.Filter
