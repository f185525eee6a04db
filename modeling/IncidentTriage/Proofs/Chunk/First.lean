import IncidentTriage.Chunk.Splitter
import Mathlib.Tactic.Common
import Mathlib.Data.List.Basic

/-!
# The first chunk

The first window over a text begins where the text does, so a text that begins with a character that
is not blank has a chunk: nothing at the head of its first window can be trimmed away.
-/

namespace IncidentTriage.Text

lemma trimRight_cons {c : Char} (hc : isBlank c = false) (cs : List Char) :
    ∃ rest, trimRight (c :: cs) = c :: rest := by
  have hlast : [c].dropWhile isBlank = [c] := by simp [hc]
  rw [trimRight, List.reverse_cons, List.dropWhile_append, hlast]
  split
  · exact ⟨[], rfl⟩
  · exact ⟨(cs.reverse.dropWhile isBlank).reverse, by simp⟩

lemma trim_cons {c : Char} (hc : isBlank c = false) (cs : List Char) :
    ∃ rest, trim (c :: cs) = c :: rest := by
  rw [trim, trimLeft, List.dropWhile_cons_of_neg (by simp [hc])]
  exact trimRight_cons hc cs

lemma wordsFrom_ne_nil (cs : List Char) {current : List Char} (h : current ≠ []) :
    ∃ tail rest, wordsFrom current cs = (current.reverse ++ tail) :: rest := by
  induction cs generalizing current with
  | nil => exact ⟨[], [], by simp [wordsFrom, h]⟩
  | cons c cs ih =>
    rw [wordsFrom]
    split
    · exact ⟨[], wordsFrom [] cs, by simp [h]⟩
    · obtain ⟨tail, rest, hw⟩ := ih (List.cons_ne_nil c current)
      exact ⟨c :: tail, rest, by simp [hw]⟩

lemma words_cons {c : Char} (hc : isBlank c = false) (cs : List Char) :
    ∃ tail rest, words (c :: cs) = (c :: tail) :: rest := by
  obtain ⟨tail, rest, hw⟩ := wordsFrom_ne_nil cs (List.cons_ne_nil c [])
  exact ⟨tail, rest, by rw [words, wordsFrom, hc]; simpa using hw⟩

lemma unwords_cons (c : Char) (tail : List Char) (ws : List (List Char)) :
    ∃ rest, unwords ((c :: tail) :: ws) = c :: rest := by
  cases ws with
  | nil => exact ⟨tail, by simp [unwords]⟩
  | cons w ws => exact ⟨tail ++ ' ' :: unwords (w :: ws), by simp [unwords, List.intercalate_cons_cons]⟩

namespace Utf8

lemma decode_ascii {b : UInt8} (hb : b.toNat < 0x80) (bytes : List UInt8) :
    decode (b :: bytes) = Char.ofNat b.toNat :: decode bytes := by
  simp [decode, pieces, piece, hb]

lemma encode_ascii {c : Char} (hc : c.toNat < 0x80) (cs : List Char) :
    encode (c :: cs) = c.toNat.toUInt8 :: encode cs := by
  simp [encode, encodeChar, hc]

end Utf8

end IncidentTriage.Text

namespace IncidentTriage.Chunk
open IncidentTriage.Text

namespace Window

variable {τ : Type}

lemma size_pos (w : Window) : 0 < w.size :=
  Nat.lt_of_le_of_lt (Nat.zero_le _) w.overlap_lt_size

/-- The first window begins with the first token. -/
lemma windows_cons (w : Window) (t : τ) (ts : List τ) :
    ∃ tail rest, w.windows (t :: ts) = (t :: tail) :: rest := by
  rw [windows]
  simp only [List.isEmpty_cons, Bool.false_eq_true, if_false]
  split
  · exact ⟨ts, [], rfl⟩
  · obtain ⟨k, hk⟩ := Nat.exists_eq_add_one_of_ne_zero (Nat.ne_of_gt w.size_pos)
    exact ⟨ts.take k, _, by rw [hk, List.take_succ_cons]⟩

lemma chunks_ne_nil (w : Window) (e : Encoding τ) {cs : List Char} {t : τ} {ts : List τ}
    (hencode : e.encode (trim cs) = t :: ts)
    (hdecode : ∀ tail, ∃ c rest, isBlank c = false ∧ e.decode (t :: tail) = c :: rest) :
    w.chunks e cs ≠ [] := by
  obtain ⟨tail, rest, hwindows⟩ := w.windows_cons t ts
  obtain ⟨c, cs', hc, hd⟩ := hdecode tail
  obtain ⟨cs'', htrim⟩ := trim_cons hc cs'
  rw [chunks, hencode, hwindows, List.map_cons, hd, htrim]
  simp

end Window

/-- A text that begins with a visible character of ASCII has a chunk, by every scheme. -/
lemma Splitter.split_ne_nil (s : Splitter) {text : String} {c : Char} {cs : List Char}
    (htext : text.toList = c :: cs) (hblank : isBlank c = false) (hascii : c.toNat < 0x80) :
    s.split text ≠ [] := by
  obtain ⟨rest, htrim⟩ := trim_cons hblank cs
  have hbyte : c.toNat.toUInt8.toNat = c.toNat := by
    simpa using Nat.mod_eq_of_lt (Nat.lt_trans hascii (by decide : 0x80 < 256))
  unfold split
  rw [htext]
  simp only [ne_eq, List.map_eq_nil_iff]
  split
  · obtain ⟨tail, ws, hwords⟩ := words_cons hblank rest
    apply s.window.chunks_ne_nil wordEncoding (t := c :: tail)
    · rw [htrim]
      exact hwords
    · intro ws'
      obtain ⟨cs', hcs'⟩ := unwords_cons c tail ws'
      exact ⟨c, cs', hblank, hcs'⟩
  · apply s.window.chunks_ne_nil charEncoding htrim
    exact fun tail => ⟨c, tail, hblank, rfl⟩
  · apply s.window.chunks_ne_nil byteEncoding (t := c.toNat.toUInt8)
    · rw [htrim]
      exact Utf8.encode_ascii hascii rest
    · intro tail
      refine ⟨c, Utf8.decode tail, hblank, ?_⟩
      change Utf8.decode (c.toNat.toUInt8 :: tail) = _
      rw [Utf8.decode_ascii (by rw [hbyte]; exact hascii), hbyte, Char.ofNat_toNat]

end IncidentTriage.Chunk
