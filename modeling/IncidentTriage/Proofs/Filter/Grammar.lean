import IncidentTriage.Filter.Parser
import Mathlib.Data.List.TakeWhile
import Mathlib.Tactic.Common

/-!
# The grammar of filters

The written filters are given by a grammar that does not speak of reading: groups between `||`, terms
between `&&`, and a term as `key == 'body'`, with white space wherever it may stand. The token at the
head of a text is found exactly when the text begins with one, and it is the only one it begins with.
-/

namespace IncidentTriage.Filter
open IncidentTriage.Text

/-- A text that can stand as the key of a term. -/
def isKey : List Char → Bool
  | [] => false
  | c :: rest => isKeyStart c && rest.all isKeyPart

def AllBlank (cs : List Char) : Prop :=
  ∀ c ∈ cs, isBlank c = true

/-- What stands between the quotes of a term, and the value it spells. -/
inductive SpellsValue : List Char → List Char → Prop
  | nil : SpellsValue [] []
  | plain {c : Char} {body value : List Char} (hquote : c ≠ '\'') (hslash : c ≠ '\\')
      (h : SpellsValue body value) : SpellsValue (c :: body) (c :: value)
  | pair {c : Char} {body value : List Char} (hc : c ≠ '\n') (h : SpellsValue body value) :
      SpellsValue ('\\' :: c :: body) (c :: value)

/-- A term from its key to its closing quote, with white space on both sides of `==`. -/
def SpellsTerm (cs : List Char) (t : Term) : Prop :=
  isKey t.key.toList = true ∧ ∃ left right body, AllBlank left ∧ AllBlank right ∧
    SpellsValue body t.value.toList ∧
    cs = t.key.toList ++ left ++ "==".toList ++ right ++ '\'' :: body ++ ['\'']

/-- A text of the given kind with white space on both sides of it. -/
def Padded {α : Type} (P : List Char → α → Prop) (cs : List Char) (a : α) : Prop :=
  ∃ left inner right, AllBlank left ∧ AllBlank right ∧ P inner a ∧ cs = left ++ inner ++ right

/-- Texts of the given kind, one or more, with a separator between neighbours. -/
inductive Separated {α : Type} (separator : String) (P : List Char → α → Prop) :
    List Char → List α → Prop
  | one {cs : List Char} {a : α} (h : P cs a) : Separated separator P cs [a]
  | more {cs rest : List Char} {a : α} {as : List α} (h : P cs a)
      (hrest : Separated separator P rest as) :
      Separated separator P (cs ++ separator.toList ++ rest) (a :: as)

def SpellsGroup : List Char → Group → Prop :=
  Separated "&&" (Padded SpellsTerm)

/-- The text spells the groups. -/
def Spells : List Char → List Group → Prop :=
  Separated "||" SpellsGroup

lemma Separated.ne_nil {α : Type} {separator : String} {P : List Char → α → Prop} {cs : List Char}
    {as : List α} (h : Separated separator P cs as) : as ≠ [] := by
  cases h <;> exact List.cons_ne_nil _ _

lemma Spells.groups_ne_nil {cs : List Char} {groups : List Group} (h : Spells cs groups) :
    ∀ g ∈ groups, g ≠ [] := by
  induction h with
  | one hgroup => exact List.forall_mem_singleton.2 hgroup.ne_nil
  | more hgroup _ ih => exact List.forall_mem_cons.2 ⟨hgroup.ne_nil, ih⟩

section Blanks

variable {α : Type} {cs rest : List Char}

lemma allBlank_nil : AllBlank [] :=
  fun _ hc => absurd hc List.not_mem_nil

lemma allBlank_space : AllBlank [' '] := by
  intro c hc
  rw [List.mem_singleton.1 hc]
  decide

lemma AllBlank.append (h : AllBlank cs) (hrest : AllBlank rest) : AllBlank (cs ++ rest) := by
  intro c hc
  rcases List.mem_append.1 hc with hc | hc
  · exact h c hc
  · exact hrest c hc

lemma allBlank_takeWhile (cs : List Char) : AllBlank (cs.takeWhile isBlank) :=
  fun _ hc => List.mem_takeWhile_imp hc

lemma dropWhile_blanks (h : AllBlank cs) (rest : List Char) :
    (cs ++ rest).dropWhile isBlank = rest.dropWhile isBlank :=
  List.dropWhile_append_of_pos h

lemma exists_blanks (cs : List Char) :
    ∃ blanks, AllBlank blanks ∧ cs = blanks ++ cs.dropWhile isBlank :=
  ⟨cs.takeWhile isBlank, allBlank_takeWhile cs, List.takeWhile_append_dropWhile.symm⟩

lemma isKeyPart_bounds {c : Char} (h : isKeyPart c = true) : 0x2e ≤ c.toNat ∧ c.toNat ≤ 0x7a := by
  simp only [isKeyPart, isKeyStart, Bool.or_eq_true, Bool.and_eq_true, decide_eq_true_eq,
    beq_iff_eq, Char.le_def, UInt32.le_iff_toNat_le] at h
  rcases h with (((h | h) | rfl) | h) | rfl
  · exact ⟨Nat.le_trans (by decide) h.1, Nat.le_trans h.2 (by decide)⟩
  · exact ⟨Nat.le_trans (by decide) h.1, h.2⟩
  · decide
  · exact ⟨Nat.le_trans (by decide) h.1, Nat.le_trans h.2 (by decide)⟩
  · decide

lemma isKeyPart_of_isKeyStart {c : Char} (h : isKeyStart c = true) : isKeyPart c = true := by
  rw [isKeyPart, h]
  rfl

lemma not_isBlank_of_isKeyPart {c : Char} (h : isKeyPart c = true) : isBlank c = false := by
  have hbounds := isKeyPart_bounds h
  simp only [isBlank, inRanges, blankRanges, List.any_cons, List.any_nil, Bool.or_eq_false_iff,
    Bool.and_eq_false_iff, decide_eq_false_iff_not, and_true]
  omega

lemma Padded.blanks {P : List Char → α → Prop} {a : α} (hrest : Padded P rest a)
    (h : AllBlank cs) : Padded P (cs ++ rest) a := by
  obtain ⟨left, inner, right, hleft, hright, hinner, rfl⟩ := hrest
  exact ⟨cs ++ left, inner, right, h.append hleft, hright, hinner, by simp⟩

lemma Padded.blanks_after {P : List Char → α → Prop} {a : α} (h : Padded P cs a)
    (hrest : AllBlank rest) : Padded P (cs ++ rest) a := by
  obtain ⟨left, inner, right, hleft, hright, hinner, rfl⟩ := h
  exact ⟨left, inner, right ++ rest, hleft, hright.append hrest, hinner, by simp⟩

lemma Separated.blanks {separator : String} {P : List Char → α → Prop} {as : List α}
    (hP : ∀ {cs rest a}, P rest a → AllBlank cs → P (cs ++ rest) a)
    (hrest : Separated separator P rest as) (h : AllBlank cs) :
    Separated separator P (cs ++ rest) as := by
  cases hrest with
  | one hfirst => exact .one (hP hfirst h)
  | more hfirst hmore =>
    rw [← List.append_assoc, ← List.append_assoc]
    exact .more (hP hfirst h) hmore

lemma Separated.blanks_after {separator : String} {P : List Char → α → Prop} {as : List α}
    (hP : ∀ {cs rest a}, P cs a → AllBlank rest → P (cs ++ rest) a)
    (h : Separated separator P cs as) (hrest : AllBlank rest) :
    Separated separator P (cs ++ rest) as := by
  induction h with
  | one hfirst => exact .one (hP hfirst hrest)
  | more hfirst _ ih =>
    rw [List.append_assoc]
    exact .more hfirst ih

/-- White space before a filter is part of it. -/
lemma Spells.blanks {groups : List Group} (hrest : Spells rest groups) (h : AllBlank cs) :
    Spells (cs ++ rest) groups :=
  Separated.blanks (fun hgroup => Separated.blanks Padded.blanks hgroup) hrest h

end Blanks

section Scanning

variable {cs rest body value : List Char} {t : Term}

lemma SpellsValue.scanBody_eq (h : SpellsValue body value) (rest : List Char) :
    scanBody (body ++ '\'' :: rest) = some (value, rest) := by
  induction h with
  | nil => rfl
  | @plain c _ _ hquote hslash _ ih =>
    rw [List.cons_append, scanBody, ih]
    · rfl
    · exact hquote
    · exact fun _ _ h _ => hslash h
    · exact fun h _ => hslash h
  | pair hc _ ih =>
    rw [List.cons_append, List.cons_append, scanBody, if_neg hc, ih]
    rfl

lemma spellsValue_of_scanBody (h : scanBody cs = some (value, rest)) :
    ∃ body, SpellsValue body value ∧ cs = body ++ '\'' :: rest := by
  fun_induction scanBody cs generalizing value with
  | case1 => cases h
  | case2 rest' =>
    cases h
    exact ⟨[], .nil, rfl⟩
  | case3 => cases h
  | case4 c rest' hc ih =>
    obtain ⟨⟨value', _⟩, hscan, heq⟩ := Option.map_eq_some_iff.1 h
    cases heq
    obtain ⟨body, hbody, rfl⟩ := ih hscan
    exact ⟨'\\' :: c :: body, .pair hc hbody, rfl⟩
  | case5 => cases h
  | case6 c rest' hquote hpair hslash ih =>
    obtain ⟨⟨value', _⟩, hscan, heq⟩ := Option.map_eq_some_iff.1 h
    cases heq
    obtain ⟨body, hbody, rfl⟩ := ih hscan
    refine ⟨c :: body, .plain ?_ ?_ hbody, rfl⟩
    · exact fun hc => hquote hc
    · rintro rfl
      cases hcs : body ++ '\'' :: rest with
      | nil => simp at hcs
      | cons d ds => exact hpair d ds rfl hcs

lemma afterEquals_eq {left right : List Char} (hleft : AllBlank left) (hright : AllBlank right)
    (rest : List Char) :
    afterEquals? (left ++ "==".toList ++ right ++ rest) = some (rest.dropWhile isBlank) := by
  have hequals : isBlank '=' = false := by decide
  have hdrop : (left ++ "==".toList ++ right ++ rest).dropWhile isBlank =
      '=' :: '=' :: (right ++ rest) := by
    rw [List.append_assoc, List.append_assoc, dropWhile_blanks hleft]
    exact List.dropWhile_cons_of_neg (Bool.eq_false_iff.1 hequals)
  simp only [afterEquals?, hdrop, dropWhile_blanks hright]

lemma blanks_of_afterEquals (h : afterEquals? cs = some rest) :
    ∃ left right, AllBlank left ∧ AllBlank right ∧ cs = left ++ "==".toList ++ right ++ rest := by
  obtain ⟨left, hleft, hcs⟩ := exists_blanks cs
  unfold afterEquals? at h
  split at h
  · rename_i after heq
    cases h
    obtain ⟨right, hright, hafter⟩ := exists_blanks after
    refine ⟨left, right, hleft, hright, ?_⟩
    rw [heq, hafter] at hcs
    simpa using hcs
  · cases h

/-- A key ends where what follows it begins with no character of a key. -/
lemma takeWhile_key {ks tail : List Char} (h : ks.all isKeyPart = true)
    (htail : tail.dropWhile isKeyPart = tail) :
    (ks ++ tail).takeWhile isKeyPart = ks ∧ (ks ++ tail).dropWhile isKeyPart = tail := by
  rw [List.all_eq_true] at h
  have hnone : tail.takeWhile isKeyPart = [] := by
    have happend := List.takeWhile_append_dropWhile (p := isKeyPart) (l := tail)
    rw [htail] at happend
    exact List.append_left_eq_self.1 happend
  rw [List.takeWhile_append_of_pos h, List.dropWhile_append_of_pos h, hnone, htail]
  exact ⟨List.append_nil ks, rfl⟩

lemma dropWhile_key_blanks (h : AllBlank cs) (rest : List Char) :
    (cs ++ '=' :: rest).dropWhile isKeyPart = cs ++ '=' :: rest := by
  have hequals : isKeyPart '=' = false := by decide
  cases cs with
  | nil => exact List.dropWhile_cons_of_neg (Bool.eq_false_iff.1 hequals)
  | cons c cs =>
    have hblank := h c List.mem_cons_self
    refine List.dropWhile_cons_of_neg fun hkey => ?_
    exact Bool.false_ne_true ((not_isBlank_of_isKeyPart hkey).symm.trans hblank)

lemma SpellsTerm.scanTerm_eq (h : SpellsTerm cs t) (rest : List Char) :
    scanTerm (cs ++ rest) = some (t, rest) := by
  obtain ⟨hkey, left, right, body, hleft, hright, hbody, rfl⟩ := h
  cases hks : t.key.toList with
  | nil => simp [hks, isKey] at hkey
  | cons c ks =>
    rw [hks, isKey, Bool.and_eq_true] at hkey
    have htail := dropWhile_key_blanks hleft ('=' :: (right ++ '\'' :: (body ++ '\'' :: rest)))
    have hsplit := takeWhile_key hkey.2 htail
    have hquote : isBlank '\'' = false := by decide
    have hafter := afterEquals_eq hleft hright ('\'' :: (body ++ '\'' :: rest))
    rw [List.dropWhile_cons_of_neg (Bool.eq_false_iff.1 hquote)] at hafter
    have hcs : c :: ks ++ left ++ "==".toList ++ right ++ '\'' :: body ++ ['\''] ++ rest =
        c :: (ks ++ (left ++ '=' :: '=' :: (right ++ '\'' :: (body ++ '\'' :: rest)))) := by simp
    have hsame : left ++ '=' :: '=' :: (right ++ '\'' :: (body ++ '\'' :: rest)) =
        left ++ "==".toList ++ right ++ '\'' :: (body ++ '\'' :: rest) := by simp
    rw [hcs, scanTerm, if_pos hkey.1, hsplit.1, hsplit.2, hsame, hafter]
    simp only [hbody.scanBody_eq, Option.map_some, ← hks, String.ofList_toList]

lemma spellsTerm_of_scanTerm (h : scanTerm cs = some (t, rest)) :
    ∃ inner, SpellsTerm inner t ∧ cs = inner ++ rest := by
  unfold scanTerm at h
  split at h
  · cases h
  · rename_i c tail
    split at h
    · rename_i hstart
      split at h
      · rename_i after hafter
        obtain ⟨⟨value, _⟩, hscan, heq⟩ := Option.map_eq_some_iff.1 h
        cases heq
        obtain ⟨body, hbody, rfl⟩ := spellsValue_of_scanBody hscan
        obtain ⟨left, right, hleft, hright, htail⟩ := blanks_of_afterEquals hafter
        have hkeys : ∀ c ∈ tail.takeWhile isKeyPart, isKeyPart c = true :=
          fun _ hc => List.mem_takeWhile_imp hc
        have hcs := List.takeWhile_append_dropWhile (p := isKeyPart) (l := tail)
        rw [htail] at hcs
        generalize tail.takeWhile isKeyPart = ks at hcs hkeys
        subst hcs
        have hkey : isKey (c :: ks) = true := by
          rw [isKey, hstart, Bool.true_and, List.all_eq_true]
          exact hkeys
        refine ⟨c :: ks ++ left ++ "==".toList ++ right ++ '\'' :: body ++ ['\''],
          ⟨?_, left, right, body, hleft, hright, ?_, ?_⟩, by simp⟩
        · rwa [String.toList_ofList]
        · rwa [String.toList_ofList]
        · simp only [String.toList_ofList]
      · cases h
    · cases h

inductive SpellsToken : List Char → Token → Prop
  | term {cs : List Char} {t : Term} (h : SpellsTerm cs t) : SpellsToken cs (.term t)
  | both : SpellsToken "&&".toList .both
  | either : SpellsToken "||".toList .either

/-- A term begins with neither a blank nor an operator. -/
lemma SpellsTerm.head (h : SpellsTerm cs t) :
    ∃ c tail, cs = c :: tail ∧ isBlank c = false ∧ c ≠ '&' ∧ c ≠ '|' := by
  obtain ⟨hkey, left, right, body, -, -, -, rfl⟩ := h
  cases hks : t.key.toList with
  | nil => simp [hks, isKey] at hkey
  | cons c ks =>
    rw [hks, isKey, Bool.and_eq_true] at hkey
    have hpart := isKeyPart_of_isKeyStart hkey.1
    refine ⟨c, _, rfl, not_isBlank_of_isKeyPart hpart, ?_, ?_⟩
    · rintro rfl
      exact absurd hpart (by decide)
    · rintro rfl
      exact absurd hpart (by decide)

lemma SpellsToken.scanBare_eq {token : Token} (h : SpellsToken cs token) (rest : List Char) :
    scanBare (cs ++ rest) = some (token, rest) := by
  cases h with
  | both => rfl
  | either => rfl
  | term hterm =>
    have hscan := hterm.scanTerm_eq rest
    obtain ⟨c, tail, rfl, -, hboth, heither⟩ := hterm.head
    rw [scanBare, hscan]
    · rfl
    · exact fun _ hcs => hboth (List.cons.inj hcs).1
    · exact fun _ hcs => heither (List.cons.inj hcs).1

lemma SpellsToken.dropWhile_eq {token : Token} (h : SpellsToken cs token) (rest : List Char) :
    (cs ++ rest).dropWhile isBlank = cs ++ rest := by
  obtain ⟨c, tail, rfl, hc⟩ : ∃ c tail, cs = c :: tail ∧ isBlank c = false := by
    cases h with
    | both => exact ⟨'&', ['&'], rfl, by decide⟩
    | either => exact ⟨'|', ['|'], rfl, by decide⟩
    | term hterm =>
      obtain ⟨c, tail, hcs, hc, -⟩ := hterm.head
      exact ⟨c, tail, hcs, hc⟩
  exact List.dropWhile_cons_of_neg (Bool.eq_false_iff.1 hc)

lemma scan_eq_of_padded {token : Token} (h : Padded SpellsToken cs token) (rest : List Char) :
    scan (cs ++ rest) = some (token, rest.dropWhile isBlank) := by
  obtain ⟨left, inner, right, hleft, hright, hinner, rfl⟩ := h
  rw [scan, List.append_assoc, List.append_assoc, dropWhile_blanks hleft, hinner.dropWhile_eq,
    hinner.scanBare_eq]
  simp only [Option.map_some, dropWhile_blanks hright]

lemma spellsToken_of_scanBare {token : Token} (h : scanBare cs = some (token, rest)) :
    ∃ inner, SpellsToken inner token ∧ cs = inner ++ rest := by
  unfold scanBare at h
  split at h
  · cases h
    exact ⟨_, .both, rfl⟩
  · cases h
    exact ⟨_, .either, rfl⟩
  · obtain ⟨⟨t, _⟩, hterm, heq⟩ := Option.map_eq_some_iff.1 h
    cases heq
    obtain ⟨inner, hinner, hcs⟩ := spellsTerm_of_scanTerm hterm
    exact ⟨inner, .term hinner, hcs⟩

lemma padded_of_scan {token : Token} (h : scan cs = some (token, rest)) :
    ∃ written, Padded SpellsToken written token ∧ cs = written ++ rest := by
  obtain ⟨⟨_, after⟩, hbare, heq⟩ := Option.map_eq_some_iff.1 h
  cases heq
  obtain ⟨inner, hinner, hdrop⟩ := spellsToken_of_scanBare hbare
  obtain ⟨left, hleft, hcs⟩ := exists_blanks cs
  obtain ⟨right, hright, hafter⟩ := exists_blanks after
  refine ⟨left ++ inner ++ right, ⟨left, inner, right, hleft, hright, hinner, rfl⟩, ?_⟩
  rw [hcs, hdrop, List.append_assoc, List.append_assoc, ← hafter]

lemma suffix_of_scan {token : Token} (h : scan cs = some (token, rest)) : rest <:+ cs := by
  obtain ⟨written, -, hcs⟩ := padded_of_scan h
  exact ⟨written, hcs.symm⟩

lemma scan_dropWhile (cs : List Char) : scan (cs.dropWhile isBlank) = scan cs := by
  obtain ⟨left, hleft, hcs⟩ := exists_blanks cs
  have hdrop := dropWhile_blanks hleft (cs.dropWhile isBlank)
  rw [← hcs] at hdrop
  rw [scan, scan, ← hdrop]

end Scanning

end IncidentTriage.Filter
