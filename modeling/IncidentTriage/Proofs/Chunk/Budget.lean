import IncidentTriage.Proofs.Chunk.Fragments

/-!
# The size of chunks

A chunk has tokens, and no more words or characters than its window has. Bytes are another matter: a
replacement character takes three of them, so that a chunk may take more bytes than its window has,
up to two for each replacement character that it shows.
-/

namespace IncidentTriage.Chunk
open IncidentTriage.Text IncidentTriage.Text.Utf8

/-- How many tokens a text has. -/
def Scheme.count : Scheme → String → Nat
  | .word, text => (wordEncoding.encode text.toList).length
  | .char, text => (charEncoding.encode text.toList).length
  | .byte, text => (byteEncoding.encode text.toList).length

lemma length_trim_le (cs : List Char) : (trim cs).length ≤ cs.length := by
  obtain ⟨blanks, piece, blanks', hcs, -, -, htrim⟩ := exists_trim cs
  rw [htrim, hcs]
  simp only [List.length_append]
  omega

lemma trim_of_visible {cs : List Char} (h : ∀ c ∈ cs, isBlank c = false) : trim cs = cs := by
  obtain ⟨blanks, piece, blanks', hmid, -, -, htrim⟩ :=
    exists_trim_append cs [] h (by simp) []
  have hpiece : piece = [] := by simp_all
  simpa [hpiece] using htrim

namespace Splitter

variable {s : Splitter} {text chunk : String}

lemma ne_empty_of_mem_split (h : chunk ∈ s.split text) : chunk ≠ "" := by
  obtain ⟨cs, hcs, rfl⟩ := List.mem_map.1 h
  have hne : cs ≠ [] := by
    cases hscheme : s.scheme <;> rw [hscheme] at hcs <;>
      simpa using (List.mem_filter.1 hcs).2
  simpa using hne

lemma word_count_le (hscheme : s.scheme = .word) (h : chunk ∈ s.split text) :
    Scheme.word.count chunk ≤ s.window.size := by
  have hwindow : words chunk.toList ∈ s.window.windows (words text.toList) := by
    rw [← map_words_split hscheme]
    exact List.mem_map_of_mem h
  exact Window.length_le_of_mem_windows hwindow

lemma char_count_le (hscheme : s.scheme = .char) (h : chunk ∈ s.split text) :
    Scheme.char.count chunk ≤ s.window.size := by
  rw [split, hscheme] at h
  obtain ⟨cs, hcs, rfl⟩ := List.mem_map.1 h
  obtain ⟨tokens, htokens, rfl⟩ := List.mem_map.1 (List.mem_filter.1 hcs).1
  have hwindow : tokens.length ≤ s.window.size := Window.length_le_of_mem_windows htokens
  have htrim : (trim tokens).length ≤ tokens.length := length_trim_le tokens
  rw [Scheme.count, String.toList_ofList]
  exact htrim.trans hwindow

lemma byte_count_le (hscheme : s.scheme = .byte) (h : chunk ∈ s.split text) :
    Scheme.byte.count chunk ≤ s.window.size + 2 * min 4 (chunk.toList.count replacement) := by
  obtain ⟨fragment, hshows, hchunks⟩ := s.window.exists_fragments text.toList
  rw [split, hscheme] at h
  obtain ⟨cs, hcs, rfl⟩ := List.mem_map.1 h
  dsimp only at hcs
  rw [hchunks] at hcs
  obtain ⟨f, hf, rfl⟩ := List.mem_map.1 hcs
  obtain ⟨i, -, rfl⟩ := List.mem_map.1 (List.mem_filter.1 hf).1
  have hbytes := (hshows i).bytes_le
  have hfront := (hshows i).front_le
  have hback := (hshows i).back_le
  have hcount : (fragment i).front + (fragment i).back ≤
      ((fragment i).shown (trim text.toList)).count replacement := by
    simp only [Fragment.shown, List.count_append, List.count_replicate_self]
    omega
  rw [Scheme.count, String.toList_ofList]
  refine hbytes.trans (Nat.add_le_add_left (Nat.mul_le_mul_left 2 ?_) _)
  exact le_min (by omega) hcount

/-- A character of two bytes that stands across the end of the first window takes its chunk over the
budget. -/
lemma exists_over_budget (hscheme : s.scheme = .byte) :
    ∃ text, ∃ chunk ∈ s.split text, s.window.size < Scheme.byte.count chunk := by
  obtain ⟨n, hn⟩ := Nat.exists_eq_add_one_of_ne_zero (Nat.ne_of_gt s.window.size_pos)
  have hvisible : ∀ c d : Char, isBlank c = false → isBlank d = false →
      ∀ e ∈ List.replicate n c ++ [d], isBlank e = false := by
    intro c d hc hd e he
    rcases List.mem_append.1 he with he | he
    · exact List.eq_of_mem_replicate he ▸ hc
    · exact List.mem_singleton.1 he ▸ hd
  have hlength : (encode (List.replicate n 'a')).length = n := by
    have hbytes : (encodeChar 'a').length = 1 := by decide
    simp [encode, List.length_flatMap, hbytes]
  have htorn : (encode (List.replicate n 'a' ++ ['é'])).take s.window.size =
      encode (List.replicate n 'a') ++ (encodeChar 'é').take 1 := by
    rw [encode_append, List.take_append, hlength, hn, Nat.add_sub_cancel_left,
      List.take_of_length_le (by omega), encode_cons]
    rfl
  have hchunk : trim (decode ((encode (List.replicate n 'a' ++ ['é'])).take s.window.size)) =
      List.replicate n 'a' ++ [replacement] := by
    rw [htorn, decode_encode_append, decode_take_encodeChar (by decide) (by decide),
      trim_of_visible (hvisible _ _ (by decide) (by decide))]
  refine ⟨String.ofList (List.replicate n 'a' ++ ['é']),
    String.ofList (List.replicate n 'a' ++ [replacement]), ?_, ?_⟩
  · have hne : encode (List.replicate n 'a' ++ ['é']) ≠ [] := by
      simp [encode, encodeChar]
    obtain ⟨rest, hwindows⟩ := s.window.windows_eq_cons hne
    rw [split, hscheme, String.toList_ofList]
    refine List.mem_map_of_mem (List.mem_filter.2 ⟨List.mem_map.2 ?_, by simp⟩)
    refine ⟨_, ?_, hchunk⟩
    rw [trim_of_visible (hvisible _ _ (by decide) (by decide))]
    exact hwindows ▸ List.mem_cons_self
  · have hbytes : (encode [replacement]).length = 3 := by decide
    rw [Scheme.count, String.toList_ofList]
    change _ < (encode (List.replicate n 'a' ++ [replacement])).length
    rw [encode_append, List.length_append, hlength, hbytes]
    omega

/-- No chunk is empty. The chunks of all texts keep to the size of the windows if and only if the
tokens are words or characters. Chunks of bytes exceed it by two bytes at most for each replacement
character that they show, of which four count. -/
theorem within_budget_iff (s : Splitter) :
    (∀ text, ∀ chunk ∈ s.split text, chunk ≠ "") ∧
    ((∀ text, ∀ chunk ∈ s.split text, s.scheme.count chunk ≤ s.window.size) ↔ s.scheme ≠ .byte) ∧
    (s.scheme = .byte → ∀ text, ∀ chunk ∈ s.split text,
      s.scheme.count chunk ≤ s.window.size + 2 * min 4 (chunk.toList.count replacement)) := by
  refine ⟨fun _ _ => ne_empty_of_mem_split, ⟨fun h hbyte => ?_, fun hne text chunk hchunk => ?_⟩,
    fun hbyte text chunk hchunk => ?_⟩
  · obtain ⟨text, chunk, hchunk, hlt⟩ := exists_over_budget hbyte
    have hle := h text chunk hchunk
    rw [hbyte] at hle
    exact absurd hle (Nat.not_le.2 hlt)
  · cases hscheme : s.scheme with
    | word => exact word_count_le hscheme hchunk
    | char => exact char_count_le hscheme hchunk
    | byte => exact absurd hscheme hne
  · rw [hbyte]
    exact byte_count_le hbyte hchunk

/-- A window that has the last bytes of one wide character and the first byte of another takes as many
bytes more as any. -/
theorem within_budget_but_for_eight :
    let s : Splitter := ⟨⟨5, 4, by decide⟩, .byte⟩
    let chunk := "\ufffd\ufffd\ufffda\ufffd"
    chunk ∈ s.split "😀a😀" ∧ chunk ≠ "" ∧ s.scheme.count chunk = s.window.size + 8 ∧
      s.scheme.count chunk ≤ s.window.size + 2 * min 4 (chunk.toList.count replacement) ∧
      ¬ ∀ text, ∀ chunk ∈ s.split text, s.scheme.count chunk ≤ s.window.size := by
  intro s chunk
  have hchunk : chunk ∈ s.split "😀a😀" := by decide +kernel
  obtain ⟨hne, hbudget, hbytes⟩ := within_budget_iff s
  refine ⟨hchunk, hne _ chunk hchunk, by decide +kernel, hbytes rfl _ chunk hchunk, ?_⟩
  exact fun h => hbudget.1 h rfl

/-- Windows of two bytes over a character of one and a character of two: the first chunk takes four
bytes, three of them for the first byte of the torn character. -/
theorem torn_character_exceeds_budget :
    let s : Splitter := ⟨⟨2, 0, by decide⟩, .byte⟩
    s.split "aé" = ["a\ufffd", "\ufffd"] ∧ ¬ s.scheme.count "a\ufffd" ≤ s.window.size := by
  decide +kernel

end Splitter

end IncidentTriage.Chunk
