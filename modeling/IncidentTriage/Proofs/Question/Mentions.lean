import IncidentTriage.Proofs.Question.Naming

/-!
# Where names are mentioned

Of the names that stand in a text, the one that is mentioned first is the longest of those at the
first place at which any of them stands. There is one such name as soon as a name stands anywhere in
the text, and it depends on what the names are, not on how they are listed.
-/

namespace IncidentTriage.Question

variable {names : List (List Char)}

lemma occurs_iff (word cs : List Char) : occurs word cs = true ↔ word <:+: cs := by
  induction cs with
  | nil => rw [occurs, List.isEmpty_iff, List.infix_nil]
  | cons c cs ih =>
    rw [occurs, Bool.or_eq_true, List.isPrefixOf_iff_prefix, ih, List.infix_cons_iff]

/-- At one place there is one longest name. -/
lemma LongestAt.unique {cs n m : List Char} (hn : LongestAt names cs n)
    (hm : LongestAt names cs m) : n = m := by
  have hhead : n <+: m :=
    List.prefix_of_prefix_length_le hn.head hm.head (hm.longest n hn.mem hn.head)
  exact hhead.eq_of_length_le (hn.longest m hm.mem hm.head)

lemma nameAtHead_eq_some_iff {cs n : List Char} :
    nameAtHead? names cs = some n ↔ LongestAt names cs n := by
  constructor
  · exact longestAt_of_nameAtHead
  · intro hn
    cases hhead : nameAtHead? names cs with
    | none => exact absurd hn.head (nameAtHead_eq_none.1 hhead n hn.mem)
    | some m => rw [(longestAt_of_nameAtHead hhead).unique hn]

/-- The name is the longest one at position `i` of the text, and no name stands further in front. -/
structure MentionedFirst (names : List (List Char)) (cs n : List Char) (i : Nat) : Prop where
  longest : LongestAt names (cs.drop i) n
  first : ∀ j < i, ∀ m ∈ names, ¬m <+: cs.drop j

lemma MentionedFirst.behind {cs n : List Char} {c : Char} {i : Nat}
    (h : MentionedFirst names cs n i) (hhead : ∀ m ∈ names, ¬m <+: c :: cs) :
    MentionedFirst names (c :: cs) n (i + 1) where
  longest := h.longest
  first := by
    intro j hj m hm
    cases j with
    | zero => exact hhead m hm
    | succ j => exact h.first j (by omega) m hm

lemma exists_mentionedFirst {cs n : List Char} (h : firstName? names cs = some n) :
    ∃ i, MentionedFirst names cs n i := by
  induction cs with
  | nil => cases h
  | cons c cs ih =>
    rw [firstName?] at h
    cases hhead : nameAtHead? names (c :: cs) with
    | none =>
      rw [hhead, Option.none_or] at h
      obtain ⟨i, hi⟩ := ih h
      exact ⟨i + 1, hi.behind (nameAtHead_eq_none.1 hhead)⟩
    | some m =>
      rw [hhead, Option.some_or] at h
      cases h
      exact ⟨0, longestAt_of_nameAtHead hhead, fun j hj => absurd hj (Nat.not_lt_zero j)⟩

lemma MentionedFirst.firstName {cs n : List Char} {i : Nat} (hne : [] ∉ names)
    (h : MentionedFirst names cs n i) : firstName? names cs = some n := by
  have hempty : n ≠ [] := fun hn => hne (hn ▸ h.longest.mem)
  induction cs generalizing i with
  | nil =>
    have hhead := h.longest.head
    rw [List.drop_nil, List.prefix_nil] at hhead
    exact absurd hhead hempty
  | cons c cs ih =>
    rw [firstName?]
    cases i with
    | zero =>
      have hhead : LongestAt names (c :: cs) n := h.longest
      rw [nameAtHead_eq_some_iff.2 hhead, Option.some_or]
    | succ i =>
      have hhead : nameAtHead? names (c :: cs) = none :=
        nameAtHead_eq_none.2 fun m hm => h.first 0 (Nat.zero_lt_succ i) m hm
      rw [hhead, Option.none_or]
      exact ih ⟨h.longest, fun j hj => h.first (j + 1) (by omega)⟩

lemma firstName_eq_some_iff (hne : [] ∉ names) {cs n : List Char} :
    firstName? names cs = some n ↔ ∃ i, MentionedFirst names cs n i := by
  constructor
  · exact exists_mentionedFirst
  · rintro ⟨i, h⟩
    exact h.firstName hne

lemma firstName_eq_none_iff (hne : [] ∉ names) {cs : List Char} :
    firstName? names cs = none ↔ ∀ n ∈ names, ¬n <:+: cs := by
  induction cs with
  | nil =>
    simp only [firstName?, List.infix_nil, true_iff]
    intro n hn hnil
    exact hne (hnil ▸ hn)
  | cons c cs ih =>
    rw [firstName?, Option.or_eq_none_iff, nameAtHead_eq_none, ih]
    constructor
    · intro h n hn hin
      rw [List.infix_cons_iff] at hin
      cases hin with
      | inl hhead => exact h.1 n hn hhead
      | inr hrest => exact h.2 n hn hrest
    · intro h
      exact ⟨fun n hn hhead => h n hn hhead.isInfix, fun n hn hrest => h n hn (List.infix_cons hrest)⟩

/-- The order of the names does not matter, nor how often each is given. -/
lemma firstName_congr {names' : List (List Char)} (h : ∀ n, n ∈ names ↔ n ∈ names')
    (cs : List Char) : firstName? names cs = firstName? names' cs := by
  have hhead : ∀ cs, nameAtHead? names cs = nameAtHead? names' cs := by
    intro cs
    apply Option.ext
    intro n
    rw [nameAtHead_eq_some_iff, nameAtHead_eq_some_iff]
    constructor
    · intro hn
      exact ⟨(h n).1 hn.mem, hn.head, fun m hm => hn.longest m ((h m).2 hm)⟩
    · intro hn
      exact ⟨(h n).2 hn.mem, hn.head, fun m hm => hn.longest m ((h m).1 hm)⟩
  induction cs with
  | nil => rfl
  | cons c cs ih => rw [firstName?, firstName?, hhead, ih]

lemma nil_notMem_wantedNames (services : List String) : [] ∉ wantedNames services := by
  intro hmem
  obtain ⟨service, -, hne, hlower⟩ := mem_wantedNames.1 hmem
  exact lower_ne_nil (by simpa using hne) hlower

end IncidentTriage.Question
