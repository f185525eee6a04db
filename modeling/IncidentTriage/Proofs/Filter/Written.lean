import IncidentTriage.Proofs.Filter.Reading

/-!
# Reading what is written

A written filter spells the groups it was written from, and so it is read back as they were, whatever
its values hold: the backslashes of a written value keep its quotes from ending it, and operators
inside it are read as part of it.
-/

namespace IncidentTriage.Filter
open IncidentTriage.Text

lemma spellsValue_escape (cs : List Char) : SpellsValue (escape cs) cs := by
  induction cs with
  | nil => exact .nil
  | cons c cs ih =>
    rw [escape, List.flatMap_cons]
    by_cases hc : c = '\'' ∨ c = '\\'
    · have hline : c ≠ '\n' := by rcases hc with rfl | rfl <;> decide
      rw [if_pos hc]
      exact .pair hline ih
    · rw [if_neg hc]
      rw [not_or] at hc
      exact .plain hc.1 hc.2 ih

lemma spellsTerm_render (t : Term) (h : isKey t.key.toList = true) :
    SpellsTerm t.render.toList t := by
  refine ⟨h, [' '], [' '], escape t.value.toList, allBlank_space, allBlank_space,
    spellsValue_escape _, ?_⟩
  simp [Term.render]

lemma Padded.of_bare {α : Type} {P : List Char → α → Prop} {cs : List Char} {a : α} (h : P cs a) :
    Padded P cs a :=
  ⟨[], cs, [], allBlank_nil, allBlank_nil, h, by simp⟩

/-- Items that are written with a separator between blanks are spelled by what is written, if each is
and if blanks may stand around it. -/
lemma separated_intercalate {α : Type} {spaced separator : String} {P : List Char → α → Prop}
    {write : α → String} (hspaced : spaced.toList = [' '] ++ separator.toList ++ [' '])
    (hbefore : ∀ {cs rest a}, P rest a → AllBlank cs → P (cs ++ rest) a)
    (hafter : ∀ {cs rest a}, P cs a → AllBlank rest → P (cs ++ rest) a)
    {as : List α} (hne : as ≠ []) (h : ∀ a ∈ as, P (write a).toList a) :
    Separated separator P (spaced.intercalate (as.map write)).toList as := by
  induction as with
  | nil => contradiction
  | cons a as ih =>
    have hfirst := h a List.mem_cons_self
    cases as with
    | nil => simpa using Separated.one hfirst
    | cons next as =>
      have hrest := ih (List.cons_ne_nil next as) fun b hb => h b (List.mem_cons_of_mem a hb)
      have hmore := Separated.more (hafter hfirst allBlank_space)
        (hrest.blanks hbefore allBlank_space)
      rw [List.map_cons, List.map_cons, String.intercalate_cons_cons, String.toList_append,
        String.toList_append, hspaced]
      simpa using hmore

lemma spellsGroup_renderGroup {g : Group} (hne : g ≠ []) (h : ∀ t ∈ g, isKey t.key.toList = true) :
    SpellsGroup (renderGroup g).toList g := by
  refine separated_intercalate (by decide) Padded.blanks Padded.blanks_after hne fun t ht => ?_
  exact .of_bare (spellsTerm_render t (h t ht))

lemma spells_render {groups : List Group} (hne : groups ≠ [])
    (h : ∀ g ∈ groups, g ≠ [] ∧ ∀ t ∈ g, isKey t.key.toList = true) :
    Spells (render groups).toList groups := by
  refine separated_intercalate (by decide) (Separated.blanks Padded.blanks)
    (Separated.blanks_after Padded.blanks_after) hne fun g hg => ?_
  exact spellsGroup_renderGroup (h g hg).1 (h g hg).2

/-- One term, written and read back. -/
lemma parse_render (t : Term) (h : isKey t.key.toList = true) : parse t.render = .ok [[t]] := by
  have hspells : Spells t.render.toList [[t]] := .one (.one (.of_bare (spellsTerm_render t h)))
  exact parse_eq_ok_iff.2 (groupsFrom_of_spells hspells rfl)

lemma parse_renderGroup {g : Group} (hne : g ≠ []) (h : ∀ t ∈ g, isKey t.key.toList = true) :
    parse (renderGroup g) = .ok [g] := by
  have hspells : Spells (renderGroup g).toList [g] := .one (spellsGroup_renderGroup hne h)
  exact parse_eq_ok_iff.2 (groupsFrom_of_spells hspells rfl)

/-- Terms written between `&&`, and these groups between `||`, are read back: whatever the values
are, they come back as they were, in the groups they were in. -/
theorem parse_joined_terms (groups : List Group) (hne : groups ≠ [])
    (h : ∀ g ∈ groups, g ≠ [] ∧ ∀ t ∈ g, isKey t.key.toList = true) :
    parse (" || ".intercalate (groups.map fun g =>
      " && ".intercalate (g.map fun t => equals t.key (.text t.value)))) = .ok groups := by
  change parse (render groups) = .ok groups
  exact parse_eq_ok_iff.2 (groupsFrom_of_spells (spells_render hne h) rfl)

theorem parse_joined_terms_of_operators :
    let groups : List Group :=
      [[⟨"type", "it's \\' && a == 'b' || "⟩, ⟨"_k.1", "\\\\\n\\"⟩], [⟨"source", ""⟩]]
    (groups ≠ [] ∧ ∀ g ∈ groups, g ≠ [] ∧ ∀ t ∈ g, isKey t.key.toList = true) ∧
      parse (" || ".intercalate (groups.map fun g =>
        " && ".intercalate (g.map fun t => equals t.key (.text t.value)))) = .ok groups := by
  intro groups
  have hgroups : groups ≠ [] ∧ ∀ g ∈ groups, g ≠ [] ∧ ∀ t ∈ g, isKey t.key.toList = true := by
    decide
  exact ⟨hgroups, parse_joined_terms groups hgroups.1 hgroups.2⟩

end IncidentTriage.Filter
