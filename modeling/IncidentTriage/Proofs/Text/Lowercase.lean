import IncidentTriage.Text.Lowercase
import Mathlib.Data.List.Forall2
import Mathlib.Tactic.Common

/-!
# What lower-casing depends on

Of all characters only a capital sigma is lower-cased by what stands around it. So the lower-case
form of a text is found again, but for its sigmas, in that of every text around it, and what ASCII
stands in the one stands in the other. In ASCII nothing but the two cases of a letter becomes this
letter, save for an `i` and a `k`.
-/

namespace IncidentTriage.Text

def IsAscii (cs : List Char) : Prop :=
  ∀ c ∈ cs, c.toNat < 128

def smallSigmas : List Char :=
  ['σ', 'ς']

def SameButSigma (c d : Char) : Prop :=
  c = d ∨ c ∈ smallSigmas ∧ d ∈ smallSigmas

/-- What a run over a list finds of each of its items. -/
lemma forall_mem_of_all {α : Type} {p : α → Prop} [DecidablePred p] {xs : List α}
    (h : xs.all (fun x => decide (p x)) = true) : ∀ x ∈ xs, p x := by
  intro x hx
  exact of_decide_eq_true (List.all_eq_true.1 h x hx)

section Around

lemma sameButSigma_refl (c : Char) : SameButSigma c c :=
  .inl rfl

lemma forall₂_lowerOne (inWord inWord' : Bool) (c : Char) (rest rest' : List Char) :
    List.Forall₂ SameButSigma (lowerOne inWord c rest) (lowerOne inWord' c rest') := by
  unfold lowerOne
  by_cases hsigma : c = 'Σ'
  · rw [if_pos hsigma, if_pos hsigma]
    have hsmall : ∀ p : Bool, (if p then 'ς' else 'σ') ∈ smallSigmas := by decide
    exact .cons (.inr ⟨hsmall _, hsmall _⟩) .nil
  · rw [if_neg hsigma, if_neg hsigma]
    exact List.forall₂_same.2 fun d _ => sameButSigma_refl d

/-- What is lower-cased in front of more text, and after any other, is the same but for its sigmas. -/
lemma exists_lowerFrom_append (inWord inWord' : Bool) (cs rest : List Char) :
    ∃ form later, lowerFrom inWord (cs ++ rest) = form ++ lowerFrom later rest ∧
      List.Forall₂ SameButSigma form (lowerFrom inWord' cs) := by
  induction cs generalizing inWord inWord' with
  | nil => exact ⟨[], inWord, rfl, .nil⟩
  | cons c cs ih =>
    obtain ⟨form, later, hform, hsame⟩ := ih (if isCaseIgnorable c then inWord else isCased c)
      (if isCaseIgnorable c then inWord' else isCased c)
    refine ⟨lowerOne inWord c (cs ++ rest) ++ form, later, ?_, ?_⟩
    · rw [List.cons_append, lowerFrom, hform, List.append_assoc]
    · rw [lowerFrom]
      exact List.rel_append (forall₂_lowerOne _ _ _ _ _) hsame

lemma exists_lower_around (before cs after : List Char) :
    ∃ front form back, lower (before ++ cs ++ after) = front ++ form ++ back ∧
      List.Forall₂ SameButSigma form (lower cs) := by
  obtain ⟨front, inWord, hfront, -⟩ := exists_lowerFrom_append false false before (cs ++ after)
  obtain ⟨form, later, hform, hsame⟩ := exists_lowerFrom_append inWord false cs after
  refine ⟨front, form, lowerFrom later after, ?_, hsame⟩
  rw [List.append_assoc, lower, hfront, hform, List.append_assoc]

lemma eq_of_sameButSigma {word form : List Char} (hword : IsAscii word)
    (h : List.Forall₂ SameButSigma form word) : form = word := by
  induction h with
  | nil => rfl
  | @cons c d form word hsame _ ih =>
    have hd : d.toNat < 128 := hword d List.mem_cons_self
    have hlarge : ∀ e ∈ smallSigmas, 128 ≤ e.toNat := forall_mem_of_all (by decide)
    have hsigma : d ∉ smallSigmas := fun hmem => absurd hd (Nat.not_lt.2 (hlarge d hmem))
    rw [ih fun e he => hword e (List.mem_cons_of_mem d he)]
    cases hsame with
    | inl heq => rw [heq]
    | inr hboth => exact absurd hboth.2 hsigma

/-- An ASCII word that stands in a text in lower case stands in every text around it as well. -/
lemma infix_lower_around {word : List Char} (hword : IsAscii word) {cs : List Char}
    (h : word <:+: lower cs) (before after : List Char) :
    word <:+: lower (before ++ cs ++ after) := by
  obtain ⟨front, form, back, hlower, hsame⟩ := exists_lower_around before cs after
  obtain ⟨left, right, hin⟩ := h
  rw [← hin] at hsame
  have hhead := List.forall₂_take_append form _ _ hsame
  have hmiddle := List.forall₂_drop_append _ _ _ hhead
  have heq := eq_of_sameButSigma hword hmiddle
  have hform : word <:+: form := by
    rw [← heq]
    exact (List.drop_suffix _ _).isInfix.trans (List.take_prefix _ _).isInfix
  rw [hlower]
  exact hform.trans (List.infix_append front form back)

end Around

section Ascii

lemma toNat_lowerChar_of_lt {c : Char} (h : c.toNat < 128) :
    (lowerChar c).toNat = if 65 ≤ c.toNat ∧ c.toNat ≤ 90 then c.toNat + 32 else c.toNat := by
  have hbounds : 'A' ≤ c ∧ c ≤ 'Z' ↔ 65 ≤ c.toNat ∧ c.toNat ≤ 90 := Iff.rfl
  unfold lowerChar
  rw [if_pos h]
  by_cases hupper : 65 ≤ c.toNat ∧ c.toNat ≤ 90
  · have hvalid : (c.toNat + 32).isValidChar := .inl (by omega)
    rw [if_pos (hbounds.2 hupper), if_pos hupper, Char.ofNat, dif_pos hvalid]
    rfl
  · rw [if_neg (mt hbounds.1 hupper), if_neg hupper]

lemma isAscii_lowerFrom {cs : List Char} (h : IsAscii cs) (inWord : Bool) :
    IsAscii (lowerFrom inWord cs) := by
  induction cs generalizing inWord with
  | nil => exact h
  | cons c cs ih =>
    have hc : c.toNat < 128 := h c List.mem_cons_self
    have hlow : (lowerChar c).toNat < 128 := by
      rw [toNat_lowerChar_of_lt hc]
      split <;> omega
    have hone : lowerOne inWord c cs = [lowerChar c] := by
      unfold lowerOne
      rw [if_neg, if_neg]
      · rintro rfl
        exact absurd hc (by decide)
      · rintro rfl
        exact absurd hc (by decide)
    intro d hd
    rw [lowerFrom, hone, List.singleton_append, List.mem_cons] at hd
    cases hd with
    | inl heq => rw [heq]; exact hlow
    | inr hmem => exact ih (fun e he => h e (List.mem_cons_of_mem c he)) _ d hmem

lemma isAscii_lower {cs : List Char} (h : IsAscii cs) : IsAscii (lower cs) :=
  isAscii_lowerFrom h false

/-- Beyond ASCII every run of capitals is moved to letters beyond ASCII, but for the sign of kelvins. -/
lemma bounds_of_mem_lowercaseRuns : ∀ r ∈ lowercaseRuns, r.last < 128 ∨
    (r.first = 0x212a ∧ r.last = 0x212a ∧ r.shift = -8383) ∨
    128 ≤ r.first + r.shift ∧ (r.last + r.shift < 0xd800 ∨
      0xdfff < r.first + r.shift ∧ r.last + r.shift < 0x110000) := by
  decide +kernel

lemma toNat_lowerChar_of_le {c : Char} (h : 128 ≤ c.toNat) :
    128 ≤ (lowerChar c).toNat ∨ lowerChar c = 'k' := by
  unfold lowerChar
  rw [if_neg (Nat.not_lt.2 h)]
  split
  · rename_i r hfound
    have hcovers := List.find?_some hfound
    simp only [CaseRun.covers, Bool.and_eq_true, decide_eq_true_eq] at hcovers
    obtain ⟨⟨hfirst, hlast⟩, -⟩ := hcovers
    rcases bounds_of_mem_lowercaseRuns r (List.mem_of_find?_eq_some hfound) with
      hascii | ⟨hfirst', hlast', hshift⟩ | ⟨hlow, hvalid⟩
    · omega
    · right
      have hc : c.toNat = 0x212a := by omega
      rw [hc, hshift]
      rfl
    · left
      have hmoved : (c.toNat + r.shift).toNat.isValidChar := by
        unfold Nat.isValidChar
        omega
      rw [Char.ofNat, dif_pos hmoved]
      change 128 ≤ (c.toNat + r.shift).toNat
      omega
  · exact .inl h

end Ascii

section Cases

/-- The letters that only ASCII is lower-cased to: all but `k`, and `i`, which is half of what `İ`
becomes. -/
def plainLetters : List Char :=
  "abcdefghjlmnopqrstuvwxyz".toList

lemma lowerChar_eq_iff {letter : Char} (hletter : letter ∈ plainLetters) (c : Char) :
    lowerChar c = letter ↔ c = letter ∨ c = letter.toUpper := by
  have hall : ∀ l ∈ plainLetters, 97 ≤ l.toNat ∧ l.toNat ≤ 122 ∧ l ≠ 'k' ∧
      l.toUpper.toNat + 32 = l.toNat :=
    forall_mem_of_all (by decide)
  obtain ⟨hlow, hhigh, hk, hupper⟩ := hall letter hletter
  rw [← Char.toNat_inj, ← Char.toNat_inj (c := c), ← Char.toNat_inj (c := c)]
  by_cases hc : c.toNat < 128
  · rw [toNat_lowerChar_of_lt hc]
    split <;> omega
  · have hbeyond : (lowerChar c).toNat ≠ letter.toNat := by
      intro heq
      rcases toNat_lowerChar_of_le (Nat.not_lt.1 hc) with hle | hkelvin
      · omega
      · exact hk (by rw [← hkelvin, Char.toNat_inj.1 heq])
    omega

/-- The text spells the word with each letter in either case. -/
def SpellsInAnyCase (word cs : List Char) : Prop :=
  List.Forall₂ (fun letter c => c = letter ∨ c = letter.toUpper) word cs

lemma lowerOne_append_eq_cons_iff {letter : Char} (hletter : letter ∈ plainLetters) (inWord : Bool)
    (c : Char) (rest tail word : List Char) :
    lowerOne inWord c rest ++ tail = letter :: word ↔
      (c = letter ∨ c = letter.toUpper) ∧ tail = word := by
  have hall : ∀ l ∈ plainLetters, l ≠ 'σ' ∧ l ≠ 'ς' ∧ l ≠ 'i' ∧ l ≠ 'Σ' ∧ l ≠ 'İ' ∧
      l.toUpper ≠ 'Σ' ∧ l.toUpper ≠ 'İ' :=
    forall_mem_of_all (by decide)
  obtain ⟨hsmall, hfinal, hi, hsigma, hdotted, hsigma', hdotted'⟩ := hall letter hletter
  unfold lowerOne
  by_cases hc : c = 'Σ'
  · rw [if_pos hc, hc]
    split <;> simp [hsmall.symm, hfinal.symm, hsigma.symm, hsigma'.symm]
  · rw [if_neg hc]
    by_cases hc' : c = 'İ'
    · rw [if_pos hc', hc']
      simp [hi.symm, hdotted.symm, hdotted'.symm]
    · rw [if_neg hc', List.singleton_append, List.cons.injEq, lowerChar_eq_iff hletter]

/-- A word of plain letters is the lower-case form of its spellings in any case and of nothing else. -/
lemma lowerFrom_eq_iff {word : List Char} (hword : ∀ letter ∈ word, letter ∈ plainLetters)
    (inWord : Bool) (cs : List Char) : lowerFrom inWord cs = word ↔ SpellsInAnyCase word cs := by
  unfold SpellsInAnyCase
  induction cs generalizing word inWord with
  | nil =>
    rw [lowerFrom, List.forall₂_nil_right_iff]
    exact eq_comm
  | cons c cs ih =>
    rw [lowerFrom]
    cases word with
    | nil =>
      rw [List.forall₂_nil_left_iff]
      unfold lowerOne
      split
      · simp
      · split <;> simp
    | cons letter word =>
      rw [lowerOne_append_eq_cons_iff (hword letter List.mem_cons_self), List.forall₂_cons,
        ih fun l hl => hword l (List.mem_cons_of_mem letter hl)]

end Cases

end IncidentTriage.Text
