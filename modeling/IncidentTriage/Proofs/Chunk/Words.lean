import IncidentTriage.Proofs.Chunk.First
import Mathlib.Data.List.TakeWhile

/-!
# Chunks of words

The windows over a list of tokens lose none of them: every window but the first repeats the overlap
and then goes on where the one before it ended. The words of a chunk are its window, so the words of
a text can be read off its chunks.
-/

namespace IncidentTriage.Text

/-- A run of characters that are not blank. -/
structure IsWord (w : List Char) : Prop where
  ne_nil : w ≠ []
  visible : ∀ c ∈ w, isBlank c = false

lemma wordsFrom_append_visible {w : List Char} (hw : ∀ c ∈ w, isBlank c = false)
    (current rest : List Char) :
    wordsFrom current (w ++ rest) = wordsFrom (w.reverse ++ current) rest := by
  induction w generalizing current with
  | nil => rfl
  | cons c w ih =>
    have hc : isBlank c = false := hw c List.mem_cons_self
    have hrest : ∀ d ∈ w, isBlank d = false := fun d hd => hw d (List.mem_cons_of_mem c hd)
    rw [List.cons_append, wordsFrom, hc, if_neg Bool.false_ne_true, ih hrest, List.reverse_cons,
      List.append_assoc, List.singleton_append]

lemma words_append_blank {w : List Char} (hw : IsWord w) {c : Char} (hc : isBlank c = true)
    (rest : List Char) : words (w ++ c :: rest) = w :: words rest := by
  have hcurrent : (w.reverse ++ []).isEmpty = false := by simpa using hw.ne_nil
  rw [words, wordsFrom_append_visible hw.visible, wordsFrom, if_pos hc, hcurrent,
    if_neg Bool.false_ne_true, List.append_nil, List.reverse_reverse, words]

lemma words_of_isWord {w : List Char} (hw : IsWord w) : words w = [w] := by
  have hcurrent : w.reverse.isEmpty = false := by simpa using hw.ne_nil
  have happend := wordsFrom_append_visible hw.visible [] []
  rw [List.append_nil, List.append_nil] at happend
  rw [words, happend, wordsFrom, hcurrent, if_neg Bool.false_ne_true, List.reverse_reverse]

/-- Words that are put side by side are read back. -/
lemma words_unwords {ws : List (List Char)} (hws : ∀ w ∈ ws, IsWord w) :
    words (unwords ws) = ws := by
  induction ws with
  | nil => rfl
  | cons w ws ih =>
    have hw : IsWord w := hws w List.mem_cons_self
    cases ws with
    | nil =>
      rw [unwords, List.intercalate_singleton]
      exact words_of_isWord hw
    | cons next ws =>
      have hrest := ih fun v hv => hws v (List.mem_cons_of_mem w hv)
      rw [unwords, List.intercalate_cons_cons, List.append_assoc, List.singleton_append,
        words_append_blank hw (by decide), ← unwords, hrest]

lemma isWord_of_mem_wordsFrom {cs current : List Char} (hcurrent : ∀ c ∈ current, isBlank c = false)
    {w : List Char} (hw : w ∈ wordsFrom current cs) : IsWord w := by
  have hread (h : ¬current.isEmpty) : IsWord current.reverse := by
    refine ⟨by simpa using h, fun c hc => ?_⟩
    exact hcurrent c (List.mem_reverse.1 hc)
  induction cs generalizing current with
  | nil =>
    rw [wordsFrom] at hw
    split at hw
    · cases hw
    · rename_i h
      rw [List.mem_singleton] at hw
      exact hw ▸ hread h
  | cons c cs ih =>
    have hnil : ∀ c ∈ ([] : List Char), isBlank c = false := by simp
    rw [wordsFrom] at hw
    split at hw
    · split at hw
      · exact ih hnil hw (by simp)
      · rename_i h
        rcases List.mem_cons.1 hw with rfl | hw
        · exact hread h
        · exact ih hnil hw (by simp)
    · rename_i hc
      have hnext : ∀ d ∈ c :: current, isBlank d = false := by
        intro d hd
        rcases List.mem_cons.1 hd with rfl | hd
        · simpa using hc
        · exact hcurrent d hd
      refine ih hnext hw fun _ => ⟨by simp, fun d hd => ?_⟩
      exact hnext d (List.mem_reverse.1 hd)

lemma isWord_of_mem_words {cs w : List Char} (hw : w ∈ words cs) : IsWord w :=
  isWord_of_mem_wordsFrom (by simp) hw

lemma words_trimLeft (cs : List Char) : words (trimLeft cs) = words cs := by
  induction cs with
  | nil => rfl
  | cons c cs ih =>
    rw [trimLeft, List.dropWhile_cons]
    split
    · rename_i hc
      rw [← trimLeft, ih, words, words, wordsFrom, if_pos hc, List.isEmpty_nil, if_pos rfl]
    · rfl

lemma wordsFrom_append_blanks {blanks : List Char} (hblanks : ∀ c ∈ blanks, isBlank c = true)
    (current cs : List Char) : wordsFrom current (cs ++ blanks) = wordsFrom current cs := by
  induction cs generalizing current with
  | nil =>
    induction blanks generalizing current with
    | nil => rfl
    | cons c rest ih =>
      have hc : isBlank c = true := hblanks c List.mem_cons_self
      have hrest : wordsFrom [] rest = [] :=
        ih (fun d hd => hblanks d (List.mem_cons_of_mem c hd)) []
      rw [List.nil_append, wordsFrom, wordsFrom, if_pos hc, hrest]
  | cons c cs ih => simp only [List.cons_append, wordsFrom, ih]

lemma words_trimRight (cs : List Char) : words (trimRight cs) = words cs := by
  have happend : trimRight cs ++ (cs.reverse.takeWhile isBlank).reverse = cs := by
    rw [trimRight, ← List.reverse_append, List.takeWhile_append_dropWhile, List.reverse_reverse]
  have hblanks : ∀ c ∈ (cs.reverse.takeWhile isBlank).reverse, isBlank c = true :=
    fun c hc => List.mem_takeWhile_imp (List.mem_reverse.1 hc)
  conv_rhs => rw [← happend]
  exact (wordsFrom_append_blanks hblanks [] _).symm

@[simp] lemma words_trim (cs : List Char) : words (trim cs) = words cs := by
  rw [trim, words_trimRight, words_trimLeft]

lemma trim_unwords_ne_nil {ws : List (List Char)} (hws : ∀ w ∈ ws, IsWord w) (hne : ws ≠ []) :
    trim (unwords ws) ≠ [] := by
  intro hnil
  have hwords := words_unwords hws
  rw [← words_trim, hnil] at hwords
  exact hne hwords.symm

end IncidentTriage.Text

namespace IncidentTriage.Chunk
open IncidentTriage.Text

variable {τ : Type}

/-- The first part, and of every other part what follows the overlap. -/
def rejoin (overlap : Nat) : List (List τ) → List τ
  | [] => []
  | first :: rest => first ++ rest.flatMap (·.drop overlap)

/-- Where the first part is long enough for the overlap, dropping it from all parts drops it from
what they rejoin to. -/
lemma flatMap_drop {overlap : Nat} {first : List τ} (h : overlap ≤ first.length)
    (rest : List (List τ)) :
    (first :: rest).flatMap (·.drop overlap) = (rejoin overlap (first :: rest)).drop overlap := by
  rw [rejoin, List.drop_append_of_le_length h, List.flatMap_cons]

namespace Window

lemma windows_eq_cons (w : Window) {tokens : List τ} (h : tokens ≠ []) :
    ∃ rest, w.windows tokens = tokens.take w.size :: rest := by
  have hne : tokens.isEmpty = false := by simpa using h
  rw [windows, hne, if_neg Bool.false_ne_true]
  split
  · rename_i hlast
    have hlength : tokens.length ≤ w.size := by simpa using hlast
    exact ⟨[], by rw [List.take_of_length_le hlength]⟩
  · exact ⟨_, rfl⟩

/-- No token is lost, and none comes twice but for the overlap. -/
lemma rejoin_windows (w : Window) (tokens : List τ) :
    rejoin w.overlap (w.windows tokens) = tokens := by
  fun_induction windows w tokens with
  | case1 tokens h =>
    rw [List.isEmpty_iff.1 h]
    rfl
  | case2 tokens h hlast => rw [rejoin, List.flatMap_nil, List.append_nil]
  | case3 tokens h hmore ih =>
    have hlength : w.size < tokens.length := by simpa using hmore
    have hoverlap := w.overlap_lt_size
    have hstep : w.step + w.overlap = w.size := Nat.sub_add_cancel (Nat.le_of_lt hoverlap)
    have hrest : tokens.drop w.step ≠ [] := by
      rw [ne_eq, List.drop_eq_nil_iff]
      omega
    obtain ⟨rest, hwindows⟩ := w.windows_eq_cons hrest
    have hfirst : w.overlap ≤ ((tokens.drop w.step).take w.size).length := by
      rw [List.length_take, List.length_drop]
      omega
    rw [hwindows] at ih ⊢
    -- What the other windows rejoin to begins a step later. Without the overlap it begins where the
    -- first window ends.
    rw [rejoin, flatMap_drop hfirst, ih, List.drop_drop, hstep, List.take_append_drop]

lemma windows_eq_nil_iff (w : Window) (tokens : List τ) :
    w.windows tokens = [] ↔ tokens = [] := by
  constructor
  · intro h
    rw [← w.rejoin_windows tokens, h]
    rfl
  · rintro rfl
    rw [windows, List.isEmpty_nil, if_pos rfl]

lemma mem_windows (w : Window) {tokens window : List τ} (h : window ∈ w.windows tokens) :
    window ≠ [] ∧ window ⊆ tokens := by
  fun_induction windows w tokens with
  | case1 tokens hnil => cases h
  | case2 tokens hnil hlast =>
    rw [List.mem_singleton] at h
    subst h
    exact ⟨by simpa using hnil, List.Subset.refl _⟩
  | case3 tokens hnil hmore ih =>
    rcases List.mem_cons.1 h with rfl | h
    · have hsize := w.size_pos
      refine ⟨?_, List.take_subset _ _⟩
      rw [ne_eq, List.take_eq_nil_iff, not_or]
      exact ⟨Nat.ne_of_gt hsize, by simpa using hnil⟩
    · obtain ⟨hne, hsub⟩ := ih h
      exact ⟨hne, List.Subset.trans hsub (List.drop_subset _ _)⟩

/-- The words of the chunks of a text are the windows over its words. -/
lemma map_words_chunks (w : Window) (cs : List Char) :
    (w.chunks wordEncoding cs).map words = w.windows (words cs) := by
  have hwords {window : List (List Char)} (h : window ∈ w.windows (words cs)) :
      window ≠ [] ∧ ∀ v ∈ window, IsWord v := by
    obtain ⟨hne, hsub⟩ := w.mem_windows h
    exact ⟨hne, fun v hv => isWord_of_mem_words (hsub hv)⟩
  have hkept : ∀ chunk ∈ (w.windows (words cs)).map fun window => trim (unwords window),
      (!chunk.isEmpty) = true := by
    intro chunk hchunk
    obtain ⟨window, hwindow, rfl⟩ := List.mem_map.1 hchunk
    obtain ⟨hne, hws⟩ := hwords hwindow
    simpa using trim_unwords_ne_nil hws hne
  have hread : ∀ window ∈ w.windows (words cs), words (trim (unwords window)) = window := by
    intro window hwindow
    rw [words_trim, words_unwords (hwords hwindow).2]
  change List.map words (((w.windows (words (trim cs))).map fun window =>
    trim (unwords window)).filter (!·.isEmpty)) = _
  rw [words_trim, List.filter_eq_self.2 hkept, List.map_map]
  exact (List.map_congr_left hread).trans (List.map_id' _)

end Window

namespace Splitter

variable {s : Splitter} (h : s.scheme = .word) (text : String)
include h

lemma map_words_split :
    (s.split text).map (fun chunk => words chunk.toList) = s.window.windows (words text.toList) := by
  rw [← s.window.map_words_chunks, split, h, List.map_map]
  refine List.map_congr_left fun chunk _ => ?_
  simp

/-- The words of a text are read off its chunks. -/
lemma rejoin_split :
    rejoin s.window.overlap ((s.split text).map fun chunk => words chunk.toList) =
      words text.toList := by
  rw [map_words_split h, s.window.rejoin_windows]

/-- A text has a chunk exactly if it has a word. -/
lemma split_eq_nil_iff : s.split text = [] ↔ words text.toList = [] := by
  rw [← s.window.windows_eq_nil_iff (words text.toList), ← map_words_split h, List.map_eq_nil_iff]

end Splitter

end IncidentTriage.Chunk
