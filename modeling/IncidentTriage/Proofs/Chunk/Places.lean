import IncidentTriage.Proofs.Chunk.Words
import Mathlib.Algebra.Order.Floor.Div
import Mathlib.Data.List.Chain

/-!
# Where windows lie

A window begins one step behind the one before it, and all but the last are full. So how many windows
there are depends on the count of the tokens only. Neighbours share exactly the overlap, and a window
never ends where the one before it does: there is no window that only repeats.
-/

namespace IncidentTriage.Chunk
open IncidentTriage.Text

variable {τ : Type}

/-- Two stretches of the tokens that share an overlap, of which the second goes on where the first
ends. -/
def Overlaps (overlap : Nat) (tokens part next : List τ) : Prop :=
  ∃ before own shared more after, tokens = before ++ own ++ shared ++ more ++ after ∧
    shared.length = overlap ∧ part = own ++ shared ∧ next = shared ++ more ∧ more ≠ []

/-- The parts lie over the tokens as windows do. -/
structure Covers (size overlap : Nat) (tokens : List τ) (parts : List (List τ)) : Prop where
  count : parts.length =
    if tokens.length ≤ size then 1 else (tokens.length - overlap) ⌈/⌉ (size - overlap)
  full : ∀ part ∈ parts.dropLast, part.length = size
  last : ∀ part ∈ parts.getLast?, part.length ≤ size
  neighbours : parts.IsChain (Overlaps overlap tokens)
  place : ∀ i part, parts[i]? = some part →
    part = (tokens.drop (i * (size - overlap))).take size

lemma Overlaps.after {overlap : Nat} {tokens part next : List τ}
    (h : Overlaps overlap tokens part next) (earlier : List τ) :
    Overlaps overlap (earlier ++ tokens) part next := by
  obtain ⟨before, own, shared, more, after, htokens, hshared⟩ := h
  exact ⟨earlier ++ before, own, shared, more, after, by simp [htokens], hshared⟩

namespace Window

variable (w : Window)

lemma step_add_overlap : w.step + w.overlap = w.size :=
  Nat.sub_add_cancel (Nat.le_of_lt w.overlap_lt_size)

lemma windows_of_length_le {tokens : List τ} (hne : tokens ≠ []) (h : tokens.length ≤ w.size) :
    w.windows tokens = [tokens] := by
  have hempty : tokens.isEmpty = false := by simpa using hne
  rw [windows, hempty, if_neg Bool.false_ne_true, if_pos]
  simpa using h

/-- What is left for the other windows when the first one is not the last: more than the overlap. -/
lemma overlap_lt_length_drop {tokens : List τ} (h : w.size < tokens.length) :
    w.overlap < (tokens.drop w.step).length := by
  have hstep := w.step_add_overlap
  rw [List.length_drop]
  omega

/-- The first two windows share the overlap. -/
lemma overlaps_of_lt_length {tokens : List τ} (h : w.size < tokens.length) :
    Overlaps w.overlap tokens (tokens.take w.size) ((tokens.drop w.step).take w.size) := by
  have hstep := w.step_add_overlap
  have hpos := w.step_pos
  have hsize : w.size = w.overlap + w.step := by omega
  refine ⟨[], tokens.take w.step, (tokens.drop w.step).take w.overlap,
    (tokens.drop w.size).take w.step, tokens.drop (w.size + w.step), ?_, ?_, ?_, ?_, ?_⟩
  · have hfirst : tokens.take w.step ++ (tokens.drop w.step).take w.overlap = tokens.take w.size := by
      rw [← List.take_add, hstep]
    rw [List.nil_append, hfirst, ← List.take_add, List.take_append_drop]
  · have hlength := w.overlap_lt_length_drop h
    rw [List.length_take]
    omega
  · rw [← List.take_add, hstep]
  · rw [hsize, List.take_add, List.drop_drop, Nat.add_comm w.step]
  · rw [← List.length_pos_iff, List.length_take, List.length_drop]
    omega

section Windows

variable {w} {tokens : List τ}

/-- There is a window for each step that the tokens beyond the overlap begin. -/
lemma length_windows_of_overlap_lt (h : w.overlap < tokens.length) :
    (w.windows tokens).length = (tokens.length - w.overlap) ⌈/⌉ w.step := by
  have hsize := w.step_add_overlap
  have hpos := w.step_pos
  fun_induction windows w tokens with
  | case1 tokens hnil =>
    rw [List.isEmpty_iff.1 hnil] at h
    exact absurd h (Nat.not_lt_zero _)
  | case2 tokens hnil hlast =>
    have hlength : tokens.length ≤ w.size := by simpa using hlast
    rw [List.length_singleton, Nat.ceilDiv_eq_add_pred_div]
    exact (Nat.div_eq_of_lt_le (by omega) (by omega)).symm
  | case3 tokens hnil hmore ih =>
    have hlength : w.size < tokens.length := by simpa using hmore
    have hrest := w.overlap_lt_length_drop hlength
    have hcount : tokens.length - w.overlap + w.step - 1 =
        (tokens.drop w.step).length - w.overlap + w.step - 1 + w.step := by
      rw [List.length_drop] at hrest ⊢
      omega
    rw [List.length_cons, ih hrest, Nat.ceilDiv_eq_add_pred_div, Nat.ceilDiv_eq_add_pred_div, hcount,
      Nat.add_div_right _ hpos]

lemma length_of_mem_dropLast_windows {window : List τ} (h : window ∈ (w.windows tokens).dropLast) :
    window.length = w.size := by
  fun_induction windows w tokens with
  | case1 tokens hnil => cases h
  | case2 tokens hnil hlast => cases h
  | case3 tokens hnil hmore ih =>
    have hlength : w.size < tokens.length := by simpa using hmore
    have hrest : w.windows (tokens.drop w.step) ≠ [] := by
      rw [ne_eq, windows_eq_nil_iff, ← List.length_eq_zero_iff]
      have := w.overlap_lt_length_drop hlength
      omega
    rw [List.dropLast_cons_of_ne_nil hrest, List.mem_cons] at h
    rcases h with rfl | h
    · rw [List.length_take]
      exact Nat.min_eq_left (Nat.le_of_lt hlength)
    · exact ih h

lemma isChain_windows : (w.windows tokens).IsChain (Overlaps w.overlap tokens) := by
  fun_induction windows w tokens with
  | case1 tokens hnil => exact List.isChain_nil
  | case2 tokens hnil hlast => exact List.isChain_singleton _
  | case3 tokens hnil hmore ih =>
    have hlength : w.size < tokens.length := by simpa using hmore
    have hne : tokens.drop w.step ≠ [] :=
      List.ne_nil_of_length_pos (Nat.lt_of_le_of_lt (Nat.zero_le _) (w.overlap_lt_length_drop hlength))
    obtain ⟨rest, hwindows⟩ := w.windows_eq_cons hne
    have hlater : (w.windows (tokens.drop w.step)).IsChain (Overlaps w.overlap tokens) := by
      refine ih.imp fun part next hnext => ?_
      simpa using hnext.after (tokens.take w.step)
    rw [hwindows] at hlater ⊢
    exact List.isChain_cons_cons.2 ⟨w.overlaps_of_lt_length hlength, hlater⟩

/-- The window with number `i` begins `i` steps behind the first token. -/
lemma getElem?_windows {i : Nat} {window : List τ} (h : (w.windows tokens)[i]? = some window) :
    window = (tokens.drop (i * w.step)).take w.size := by
  fun_induction windows w tokens generalizing i with
  | case1 tokens hnil => cases h
  | case2 tokens hnil hlast =>
    have hlength : tokens.length ≤ w.size := by simpa using hlast
    obtain ⟨rfl, rfl⟩ : i = 0 ∧ tokens = window := by simpa [List.getElem?_singleton] using h
    rw [Nat.zero_mul, List.drop_zero, List.take_of_length_le hlength]
  | case3 tokens hnil hmore ih =>
    cases i with
    | zero =>
      rw [List.getElem?_cons_zero, Option.some.injEq] at h
      rw [Nat.zero_mul, List.drop_zero, h]
    | succ i =>
      rw [List.getElem?_cons_succ] at h
      rw [ih h, List.drop_drop, Nat.succ_mul, Nat.add_comm w.step]

lemma length_le_of_mem_windows {window : List τ} (h : window ∈ w.windows tokens) :
    window.length ≤ w.size := by
  obtain ⟨i, hi⟩ := List.mem_iff_getElem?.1 h
  rw [getElem?_windows hi]
  exact List.length_take_le _ _

end Windows

lemma covers_windows {tokens : List τ} (h : tokens ≠ []) :
    Covers w.size w.overlap tokens (w.windows tokens) where
  count := by
    split
    · rename_i hle
      rw [w.windows_of_length_le h hle, List.length_singleton]
    · rename_i hlt
      have hoverlap := w.overlap_lt_size
      exact length_windows_of_overlap_lt (by omega)
  full := fun _ hpart => length_of_mem_dropLast_windows hpart
  last := fun _ hpart => length_le_of_mem_windows (List.mem_of_getLast? hpart)
  neighbours := isChain_windows
  place := fun _ _ hpart => getElem?_windows hpart

end Window

/-- The chunks of a text that has words lie over them as windows do, whatever the size and the overlap,
as long as the overlap is the smaller one. -/
theorem chunks_cover_words (size overlap : Nat) (hoverlap : overlap < size) (text : String)
    (hwords : words text.toList ≠ []) :
    ∃ w, Window.make size overlap = .ok w ∧
      Covers size overlap (words text.toList)
        ((Splitter.split ⟨w, .word⟩ text).map fun chunk => words chunk.toList) := by
  refine ⟨⟨size, overlap, hoverlap⟩, ?_, ?_⟩
  · rw [Window.make, if_neg (by omega), dif_pos (by omega)]
    simp
  · rw [Splitter.map_words_split rfl]
    exact Window.covers_windows ⟨size, overlap, hoverlap⟩ hwords

theorem chunks_cover_words_of_seven :
    let text := "the cart took long to\tshow up"
    2 < 4 ∧ words text.toList ≠ [] ∧ ∃ w, Window.make 4 2 = .ok w ∧
      Covers 4 2 (words text.toList)
        ((Splitter.split ⟨w, .word⟩ text).map fun chunk => words chunk.toList) ∧
      (Splitter.split ⟨w, .word⟩ text).length = 3 := by
  intro text
  have hwords : words text.toList ≠ [] := by decide
  obtain ⟨w, hw, hcovers⟩ := chunks_cover_words 4 2 (by decide) text hwords
  have hcount := hcovers.count
  rw [List.length_map] at hcount
  exact ⟨by decide, hwords, w, hw, hcovers, hcount.trans (by decide)⟩

end IncidentTriage.Chunk
