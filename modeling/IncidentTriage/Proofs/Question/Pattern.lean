import IncidentTriage.Proofs.Question.Mentions

/-!
# Names as a pattern

The names to look for can be put into a pattern: side by side as alternatives, the longer ones in
front, with a backslash before every character that has a meaning of its own in patterns. Read as a
pattern again, each name stands for itself and for nothing else, and the search for the pattern finds
the name that is mentioned first.
-/

namespace IncidentTriage.Question
open IncidentTriage.Text

/-- Characters that can have a meaning of their own in a pattern. -/
def special : List Char :=
  "()[]{}?*+-|^$\\.&~# \t\n\r\x0b\x0c".toList

def escape (name : List Char) : List Char :=
  name.flatMap fun c => if c ∈ special then ['\\', c] else [c]

/-- The pattern with the names as its alternatives. -/
def patternOf (names : List (List Char)) : List Char :=
  ['|'].intercalate (names.map escape)

/-- The alternatives with the first of them one character longer. -/
def extended (c : Char) : List (List Char) → List (List Char)
  | [] => [[c]]
  | a :: rest => (c :: a) :: rest

/-- The alternatives of a pattern in which every character stands for itself. A pattern that has
anything else in it is not read: a special character that is not escaped, or a letter or a digit that
is. -/
def readPattern : List Char → Option (List (List Char))
  | [] => some [[]]
  | '\\' :: c :: rest => if c.isAlphanum then none else (readPattern rest).map (extended c)
  | c :: rest =>
    if c = '|' then (readPattern rest).map ([] :: ·)
    else if c ∈ special then none
    else (readPattern rest).map (extended c)

/-- What is found of a pattern in a text: at the first place at which some alternative stands, the
alternative that comes first in the pattern. -/
def search (alternatives : List (List Char)) : List Char → Option (List Char)
  | [] => alternatives.find? (·.isEmpty)
  | c :: rest => (alternatives.find? (·.isPrefixOf (c :: rest))).or (search alternatives rest)

section Reading

lemma readPattern_escaped {c : Char} (hc : c ∈ special) (rest : List Char) :
    readPattern ('\\' :: c :: rest) = (readPattern rest).map (extended c) := by
  have hall : special.all (fun c => !c.isAlphanum) = true := by decide
  have hplain := List.all_eq_true.1 hall c hc
  rw [readPattern, if_neg]
  simpa using hplain

lemma readPattern_plain {c : Char} (hc : c ∉ special) (rest : List Char) :
    readPattern (c :: rest) = (readPattern rest).map (extended c) := by
  have hbar : c ≠ '|' := fun h => hc (h ▸ by decide)
  have hbackslash : c ≠ '\\' := fun h => hc (h ▸ by decide)
  rw [readPattern, if_neg hbar, if_neg hc]
  intro d rest' h
  exact absurd h hbackslash

lemma readPattern_bar (rest : List Char) :
    readPattern ('|' :: rest) = (readPattern rest).map ([] :: ·) := by
  rw [readPattern, if_pos rfl]
  intro d rest' h
  cases h

/-- An escaped name is read as the name itself, whatever follows it. -/
lemma readPattern_escape_append (name rest : List Char) {a : List Char}
    {alternatives : List (List Char)} (h : readPattern rest = some (a :: alternatives)) :
    readPattern (escape name ++ rest) = some ((name ++ a) :: alternatives) := by
  induction name with
  | nil => exact h
  | cons c name ih =>
    have hescape : escape (c :: name) = (if c ∈ special then ['\\', c] else [c]) ++ escape name :=
      List.flatMap_cons
    rw [hescape, List.append_assoc]
    by_cases hc : c ∈ special
    · rw [if_pos hc, List.cons_append, List.singleton_append, readPattern_escaped hc, ih]
      rfl
    · rw [if_neg hc, List.singleton_append, readPattern_plain hc, ih]
      rfl

lemma readPattern_patternOf {names : List (List Char)} (hne : names ≠ []) :
    readPattern (patternOf names) = some names := by
  unfold patternOf
  induction names with
  | nil => exact absurd rfl hne
  | cons name names ih =>
    cases names with
    | nil =>
      have hend : readPattern [] = some [[]] := rfl
      simpa using readPattern_escape_append name [] hend
    | cons next names =>
      have hbar : readPattern ('|' :: ['|'].intercalate ((next :: names).map escape)) =
          some ([] :: next :: names) := by
        rw [readPattern_bar, ih (List.cons_ne_nil next names)]
        rfl
      have hjoined : ['|'].intercalate ((name :: next :: names).map escape) =
          escape name ++ '|' :: ['|'].intercalate ((next :: names).map escape) := by
        simp [List.intercalate]
      rw [hjoined, readPattern_escape_append name _ hbar, List.append_nil]

/-- A name that is not escaped can mean something else. -/
example : readPattern "a.b".toList = none := by decide

end Reading

section Searching

/-- The names that are wanted, the longer ones in front. Those of the same length may come in any
order, and each any number of times. -/
structure LongestInFront (services : List String) (names : List (List Char)) : Prop where
  mem_iff : ∀ n, n ∈ names ↔ n ∈ wantedNames services
  descending : names.Pairwise fun a b => b.length ≤ a.length

lemma exists_longestInFront (services : List String) :
    ∃ names, LongestInFront services names := by
  let longerFirst : List Char → List Char → Bool := fun a b => b.length ≤ a.length
  have htrans : ∀ a b c, longerFirst a b = true → longerFirst b c = true →
      longerFirst a c = true := by
    simp only [longerFirst, decide_eq_true_eq]
    omega
  have htotal : ∀ a b, (longerFirst a b || longerFirst b a) = true := by
    simp only [longerFirst, Bool.or_eq_true, decide_eq_true_eq]
    omega
  refine ⟨(wantedNames services).mergeSort longerFirst, ?_, ?_⟩
  · intro n
    exact (List.mergeSort_perm _ _).mem_iff
  · have hsorted := List.pairwise_mergeSort htrans htotal (wantedNames services)
    exact hsorted.imp of_decide_eq_true

variable {services : List String} {names : List (List Char)}

/-- Of names that have the longer ones in front, the first that stands at a place is the longest. -/
lemma LongestInFront.find?_eq (h : LongestInFront services names) (cs : List Char) :
    names.find? (·.isPrefixOf cs) = nameAtHead? (wantedNames services) cs := by
  cases hfound : names.find? (·.isPrefixOf cs) with
  | none =>
    rw [List.find?_eq_none] at hfound
    symm
    rw [nameAtHead_eq_none]
    intro n hn hhead
    exact hfound n ((h.mem_iff n).2 hn) (List.isPrefixOf_iff_prefix.2 hhead)
  | some n =>
    obtain ⟨hhead, before, after, hnames, hbefore⟩ := List.find?_eq_some_iff_append.1 hfound
    rw [List.isPrefixOf_iff_prefix] at hhead
    symm
    rw [nameAtHead_eq_some_iff]
    have hmem : n ∈ names := List.mem_of_find?_eq_some hfound
    refine ⟨(h.mem_iff n).1 hmem, hhead, fun m hm hstands => ?_⟩
    -- The names in front of the one that was found do not stand here, and those behind it are no
    -- longer than it is.
    have hmem' := (h.mem_iff m).2 hm
    rw [hnames, List.mem_append, List.mem_cons] at hmem'
    rcases hmem' with hfront | rfl | hback
    · have hnot := hbefore m hfront
      rw [List.isPrefixOf_iff_prefix.2 hstands] at hnot
      cases hnot
    · exact le_rfl
    · have hdescending := h.descending
      rw [hnames, List.pairwise_append, List.pairwise_cons] at hdescending
      exact hdescending.2.1.1 m hback

lemma LongestInFront.search_eq (h : LongestInFront services names) (cs : List Char) :
    search names cs = firstName? (wantedNames services) cs := by
  induction cs with
  | nil =>
    rw [search, firstName?, List.find?_eq_none]
    intro n hn hempty
    rw [List.isEmpty_iff] at hempty
    exact nil_notMem_wantedNames services (hempty ▸ (h.mem_iff n).1 hn)
  | cons c cs ih => rw [search, firstName?, h.find?_eq, ih]

end Searching

lemma service_eq (services : List String) (question : String) :
    (classify services question).service =
      (firstName? (wantedNames services) (lower question.toList)).map String.ofList := rfl

lemma classify_congr {services services' : List String}
    (h : ∀ s, s ≠ "" → (s ∈ services ↔ s ∈ services')) (question : String) :
    classify services question = classify services' question := by
  have hnames : ∀ n, n ∈ wantedNames services ↔ n ∈ wantedNames services' := by
    intro n
    rw [mem_wantedNames, mem_wantedNames]
    constructor
    · rintro ⟨s, hs, hne, hlower⟩
      exact ⟨s, (h s hne).1 hs, hne, hlower⟩
    · rintro ⟨s, hs, hne, hlower⟩
      exact ⟨s, (h s hne).2 hs, hne, hlower⟩
  have hservice : ∀ cs, serviceIn? services cs = serviceIn? services' cs := by
    intro cs
    unfold serviceIn?
    rw [firstName_congr hnames]
  unfold classify
  simp only [hservice]

/-- A question names no service if no name stands in it, both in lower case. Otherwise it names the
longest of those at the first place at which any stands. So the classification of a question depends
on which names are given that are not empty, and on nothing else of the list; and the service is what
the search for the pattern of the names finds, in which each name stands for itself. -/
theorem service_is_longest_of_first (services : List String) (question : String) :
    let text := lower question.toList
    let classified := classify services question
    (classified.service = none ↔ ∀ s ∈ services, s ≠ "" → ¬lower s.toList <:+: text) ∧
    (∀ name : String, classified.service = some name ↔
      ∃ i, MentionedFirst (wantedNames services) text name.toList i) ∧
    (∀ services', (∀ s, s ≠ "" → (s ∈ services ↔ s ∈ services')) →
      classify services' question = classified) ∧
    (∃ names, LongestInFront services names) ∧
    ∀ names, LongestInFront services names → names ≠ [] →
      readPattern (patternOf names) = some names ∧
        (search names text).map String.ofList = classified.service := by
  intro text classified
  have hne := nil_notMem_wantedNames services
  refine ⟨?_, ?_, ?_, exists_longestInFront services, ?_⟩
  · rw [service_eq, Option.map_eq_none_iff, firstName_eq_none_iff hne]
    constructor
    · intro h s hs hnonempty
      exact h _ (mem_wantedNames.2 ⟨s, hs, hnonempty, rfl⟩)
    · intro h n hn
      obtain ⟨s, hs, hnonempty, rfl⟩ := mem_wantedNames.1 hn
      exact h s hs hnonempty
  · intro name
    rw [service_eq, ← firstName_eq_some_iff hne, Option.map_eq_some_iff]
    constructor
    · rintro ⟨n, hfirst, rfl⟩
      rw [hfirst, String.toList_ofList]
    · intro hfirst
      exact ⟨name.toList, hfirst, String.ofList_toList⟩
  · intro services' h
    exact (classify_congr h question).symm
  · intro names h hnames
    refine ⟨readPattern_patternOf hnames, ?_⟩
    rw [h.search_eq, service_eq]

end IncidentTriage.Question
