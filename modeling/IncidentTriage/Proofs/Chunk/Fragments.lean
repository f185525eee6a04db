import IncidentTriage.Proofs.Chunk.Places
import IncidentTriage.Proofs.Text.Utf8

/-!
# Chunks of bytes

Windows over the bytes of a text may begin and end inside of characters. A chunk then shows a piece of
the text between replacement characters for what its edges tear: at most three in front of the piece
and one behind it. When windows overlap by three bytes or more, no character is torn by all of them.
-/

namespace IncidentTriage.Text

section Trim

lemma exists_trimLeft_append (front back : List Char) (hfront : ∀ c ∈ front, isBlank c = false)
    (hback : ∀ c ∈ back, isBlank c = false) (mid : List Char) :
    ∃ blanks rest, mid = blanks ++ rest ∧ (∀ c ∈ blanks, isBlank c = true) ∧
      trimLeft (front ++ mid ++ back) = front ++ rest ++ back := by
  have hkept {cs : List Char} (h : ∀ c ∈ cs, isBlank c = false) (ds : List Char) (hne : cs ≠ []) :
      (cs ++ ds).dropWhile isBlank = cs ++ ds := by
    obtain ⟨c, cs, rfl⟩ := List.exists_cons_of_ne_nil hne
    rw [List.cons_append, List.dropWhile_cons_of_neg]
    simp [h c List.mem_cons_self]
  cases front with
  | cons c front =>
    exact ⟨[], mid, rfl, by simp, by rw [trimLeft, List.append_assoc, hkept hfront _ (by simp)]⟩
  | nil =>
    refine ⟨mid.takeWhile isBlank, mid.dropWhile isBlank, List.takeWhile_append_dropWhile.symm,
      fun c => List.mem_takeWhile_imp, ?_⟩
    have hrest : back.dropWhile isBlank = back := by
      cases back with
      | nil => rfl
      | cons c back => simpa using hkept hback [] (by simp)
    rw [trimLeft, List.nil_append, List.nil_append, List.dropWhile_append, hrest]
    split
    · rename_i hempty
      rw [List.isEmpty_iff.1 hempty, List.nil_append]
    · rfl

lemma trimRight_eq (cs : List Char) : trimRight cs = (trimLeft cs.reverse).reverse := rfl

/-- Between characters that are not blank, only what stands between them is trimmed. -/
lemma exists_trim_append (front back : List Char) (hfront : ∀ c ∈ front, isBlank c = false)
    (hback : ∀ c ∈ back, isBlank c = false) (mid : List Char) :
    ∃ blanks piece blanks', mid = blanks ++ piece ++ blanks' ∧
      (∀ c ∈ blanks, isBlank c = true) ∧ (∀ c ∈ blanks', isBlank c = true) ∧
      trim (front ++ mid ++ back) = front ++ piece ++ back := by
  obtain ⟨blanks, rest, rfl, hblanks, hleft⟩ := exists_trimLeft_append front back hfront hback mid
  obtain ⟨blanks', piece, hrest, hblanks', hright⟩ :=
    exists_trimLeft_append back.reverse front.reverse
      (fun c hc => hback c (List.mem_reverse.1 hc)) (fun c hc => hfront c (List.mem_reverse.1 hc))
      rest.reverse
  refine ⟨blanks, piece.reverse, blanks'.reverse, ?_, hblanks, ?_, ?_⟩
  · rw [List.append_assoc, ← List.reverse_append, ← hrest, List.reverse_reverse]
  · exact fun c hc => hblanks' c (List.mem_reverse.1 hc)
  · have hreverse : (front ++ rest ++ back).reverse = back.reverse ++ rest.reverse ++ front.reverse := by
      simp
    rw [trim, hleft, trimRight_eq, hreverse, hright]
    simp

lemma exists_trim (cs : List Char) : ∃ blanks piece blanks', cs = blanks ++ piece ++ blanks' ∧
    (∀ c ∈ blanks, isBlank c = true) ∧ (∀ c ∈ blanks', isBlank c = true) ∧ trim cs = piece := by
  obtain ⟨blanks, piece, blanks', hcs, hblanks, hblanks', htrim⟩ :=
    exists_trim_append [] [] (by simp) (by simp) cs
  rw [List.nil_append, List.append_nil, List.nil_append, List.append_nil] at htrim
  exact ⟨blanks, piece, blanks', hcs, hblanks, hblanks', htrim⟩

/-- What is not blank stands in what is left between blanks. -/
lemma index_of_visible {blanks piece blanks' : List Char} (hblanks : ∀ c ∈ blanks, isBlank c = true)
    (hblanks' : ∀ c ∈ blanks', isBlank c = true) {i : Nat} {c : Char}
    (hi : (blanks ++ piece ++ blanks')[i]? = some c) (hc : isBlank c = false) :
    blanks.length ≤ i ∧ i < blanks.length + piece.length := by
  constructor
  · by_contra hlt
    rw [List.append_assoc, List.getElem?_append_left (by omega)] at hi
    simp [hblanks c (List.mem_of_getElem? hi)] at hc
  · by_contra hge
    rw [List.getElem?_append_right (by simp; omega)] at hi
    simp [hblanks' c (List.mem_of_getElem? hi)] at hc

/-- What is left between blanks stands in the text where the blanks in front end. -/
lemma take_drop_of_between {cs blanks piece blanks' : List Char} {start length : Nat}
    (h : (cs.drop start).take length = blanks ++ piece ++ blanks') :
    (cs.drop (start + blanks.length)).take piece.length = piece := by
  have hle : blanks.length + piece.length ≤ length := by
    have hlength := congrArg List.length h
    simp only [List.length_take, List.length_append] at hlength
    omega
  have hdrop := congrArg (List.drop blanks.length) h
  rw [List.append_assoc, List.drop_left, List.drop_take, List.drop_drop] at hdrop
  have htake := congrArg (List.take piece.length) hdrop
  rwa [List.take_left, List.take_take, Nat.min_eq_left (by omega)] at htake

end Trim

end IncidentTriage.Text

namespace IncidentTriage.Chunk
open IncidentTriage.Text IncidentTriage.Text.Utf8

/-- What is shown of a text between torn edges: so many characters from the start on, with
replacement characters in front and at the back. -/
structure Fragment where
  front : Nat
  start : Nat
  length : Nat
  back : Nat

namespace Fragment

def piece (f : Fragment) (cs : List Char) : List Char :=
  (cs.drop f.start).take f.length

def shown (f : Fragment) (cs : List Char) : List Char :=
  List.replicate f.front replacement ++ f.piece cs ++ List.replicate f.back replacement

/-- The character with the given number stands in the piece. -/
def Holds (f : Fragment) (i : Nat) : Prop :=
  f.start ≤ i ∧ i < f.start + f.length

/-- The fragment is what a window of `size` bytes from the given place on shows of a text. -/
structure Shows (cs : List Char) (place size : Nat) (f : Fragment) : Prop where
  shown_eq : trim (decode (((encode cs).drop place).take size)) = f.shown cs
  front_le : f.front ≤ 3
  back_le : f.back ≤ 1
  stop_le : f.start + f.length ≤ cs.length
  bytes_le : (encode (f.shown cs)).length ≤ size + 2 * (f.front + f.back)
  holds : ∀ i c, cs[i]? = some c → isBlank c = false → place ≤ offset cs i →
    offset cs (i + 1) ≤ place + size → f.Holds i

end Fragment

/-- A window shows the characters that it holds as a whole. -/
lemma exists_take_drop_encode (cs : List Char) (place size : Nat) :
    ∃ q start length p count,
      ((encode cs).drop place).take size = q ++ encode ((cs.drop start).take length) ++ p ∧
      TornEnd q ∧ TornStart p count ∧ start + length ≤ cs.length ∧
      ∀ i < cs.length, place ≤ offset cs i → offset cs (i + 1) ≤ place + size →
        start ≤ i ∧ i < start + length := by
  obtain ⟨start, q, hdrop, hq, hstart, hleast⟩ := exists_drop_encode cs place
  obtain ⟨length, p, count, htake, hp, hlength, hmost⟩ :=
    exists_take_encode (cs.drop start) (size - q.length)
  have hstop : start + length ≤ cs.length := by
    rw [List.length_drop] at hlength
    omega
  refine ⟨q.take size, start, length, p, count, ?_, hq.take size, hp, hstop, fun i hi hplace hend => ?_⟩
  · rw [hdrop, List.take_append, htake, List.append_assoc]
  · have hle := hleast i hplace
    refine ⟨hle, ?_⟩
    -- The characters that begin in the window begin behind the torn bytes.
    have hoffset : offset cs start = place + q.length := by
      have htotal := offset_add_length_drop cs start
      have hi := offset_add_length_drop cs i
      have hbytes := congrArg List.length hdrop
      rw [List.length_drop, List.length_append] at hbytes
      omega
    have hsplit : offset cs (i + 1) = offset cs start + offset (cs.drop start) (i + 1 - start) := by
      rw [← offset_add]
      congr 1
      omega
    have := hmost (i + 1 - start) (by rw [List.length_drop]; omega) (by omega)
    omega

lemma isBlank_replacement : isBlank replacement = false := by decide

lemma length_encode_replacements (n : Nat) :
    (encode (List.replicate n replacement)).length = 3 * n := by
  have hbytes : (encodeChar replacement).length = 3 := by decide
  simp [encode, List.length_flatMap, hbytes, Nat.mul_comm]

lemma exists_fragment (cs : List Char) (place size : Nat) :
    ∃ f : Fragment, f.Shows cs place size := by
  obtain ⟨q, start, length, p, count, hwindow, hq, hp, hstop, hholds⟩ :=
    exists_take_drop_encode cs place size
  have hvisible : ∀ n, ∀ c ∈ List.replicate n replacement, isBlank c = false :=
    fun n c hc => List.eq_of_mem_replicate hc ▸ isBlank_replacement
  obtain ⟨blanks, piece, blanks', hmid, hblanks, hblanks', htrim⟩ :=
    exists_trim_append _ _ (hvisible q.length) (hvisible count) ((cs.drop start).take length)
  have hlength : blanks.length + piece.length + blanks'.length = length := by
    have := congrArg List.length hmid
    simp only [List.length_take, List.length_drop, List.length_append] at this
    omega
  have hshown : (⟨q.length, start + blanks.length, piece.length, count⟩ : Fragment).shown cs =
      List.replicate q.length replacement ++ piece ++ List.replicate count replacement := by
    rw [Fragment.shown, Fragment.piece, take_drop_of_between hmid]
  refine ⟨⟨q.length, start + blanks.length, piece.length, count⟩, ?_, hq.length_le, hp.count_le, ?_,
    ?_, ?_⟩
  · rw [hshown, ← htrim, hwindow, List.append_assoc, decode_later_append hq.later,
      decode_encode_append, hp.decode_eq, List.append_assoc]
  · dsimp only
    omega
  · have hbytes := congrArg List.length hwindow
    have hsize : (((encode cs).drop place).take size).length ≤ size := List.length_take_le _ _
    have hcount := hp.count_le_length
    rw [hmid] at hbytes
    rw [hshown]
    simp only [encode_append, List.length_append, length_encode_replacements] at hbytes ⊢
    omega
  · intro i c hi hc hplace hend
    have hlt : i < cs.length := (List.getElem?_eq_some_iff.1 hi).1
    obtain ⟨hfrom, hto⟩ := hholds i hlt hplace hend
    have hmem : (blanks ++ piece ++ blanks')[i - start]? = some c := by
      rw [← hmid, List.getElem?_take, if_pos (by omega), List.getElem?_drop, ← hi]
      congr 1
      omega
    obtain ⟨hlow, hhigh⟩ := index_of_visible hblanks hblanks' hmem hc
    exact ⟨by dsimp only; omega, by dsimp only; omega⟩

namespace Window

variable {τ : Type} (w : Window)

lemma windows_eq_map (tokens : List τ) : w.windows tokens =
    (List.range (w.windows tokens).length).map fun i => (tokens.drop (i * w.step)).take w.size := by
  refine List.ext_getElem? fun i => ?_
  rcases hi : (w.windows tokens)[i]? with _ | window
  · simpa using hi
  · have hlt : i < (w.windows tokens).length := (List.getElem?_eq_some_iff.1 hi).1
    rw [List.getElem?_map, List.getElem?_range hlt, Option.map_some, getElem?_windows hi]

/-- Tokens that are one more than the overlap at most stand together in a window. -/
lemma exists_window_around {tokens : List τ} {first count : Nat}
    (hstop : first + count ≤ tokens.length) (hpos : 0 < count) (hcount : count ≤ w.overlap + 1) :
    ∃ i < (w.windows tokens).length, i * w.step ≤ first ∧ first + count ≤ i * w.step + w.size := by
  have hsize := w.step_add_overlap
  fun_induction windows w tokens generalizing first with
  | case1 tokens hnil =>
    rw [List.isEmpty_iff.1 hnil, List.length_nil] at hstop
    omega
  | case2 tokens hnil hlast =>
    have hlength : tokens.length ≤ w.size := by simpa using hlast
    exact ⟨0, by simp, by omega, by omega⟩
  | case3 tokens hnil hmore ih =>
    by_cases hfirst : first + count ≤ w.size
    · exact ⟨0, by simp, by omega, by omega⟩
    · obtain ⟨i, hi, hlow, hhigh⟩ :=
        @ih (first - w.step) (by rw [List.length_drop]; omega)
      exact ⟨i + 1, by simpa using hi, by rw [Nat.succ_mul]; omega, by rw [Nat.succ_mul]; omega⟩

/-- A character has four bytes at most, and so stands as a whole in one of the windows that overlap by
three. -/
lemma exists_window_of_char (hoverlap : 3 ≤ w.overlap) {cs : List Char} {i : Nat} {c : Char}
    (hi : cs[i]? = some c) :
    ∃ k < (w.windows (encode cs)).length,
      k * w.step ≤ offset cs i ∧ offset cs (i + 1) ≤ k * w.step + w.size := by
  have hbytes := length_encodeChar_le c
  have htotal := offset_add_length_drop cs (i + 1)
  rw [offset_succ hi] at htotal ⊢
  exact w.exists_window_around (by omega) (length_encodeChar_pos c) (by omega)

/-- The chunks of bytes are what the windows show, without what shows nothing. -/
lemma exists_fragments (cs : List Char) : ∃ fragment : Nat → Fragment,
    (∀ i, (fragment i).Shows (trim cs) (i * w.step) w.size) ∧
    w.chunks byteEncoding cs =
      (((List.range (w.windows (encode (trim cs))).length).map fragment).filter
        fun f => !(f.shown (trim cs)).isEmpty).map (·.shown (trim cs)) := by
  choose fragment hfragment using fun i => exists_fragment (trim cs) (i * w.step) w.size
  have hshown : (fun tokens => trim (decode tokens)) ∘
      (fun i => ((encode (trim cs)).drop (i * w.step)).take w.size) =
        (·.shown (trim cs)) ∘ fragment := funext fun i => (hfragment i).shown_eq
  refine ⟨fragment, hfragment, ?_⟩
  change ((w.windows (encode (trim cs))).map fun tokens => trim (decode tokens)).filter _ = _
  conv_lhs => rw [windows_eq_map]
  rw [List.map_map, hshown, ← List.map_map, List.filter_map]
  rfl

end Window

namespace Fragment

variable {before cs after : List Char} {f : Fragment}

/-- The same fragment of a text that has `n` more characters in front. -/
def behind (n : Nat) (f : Fragment) : Fragment :=
  { f with start := n + f.start }

lemma piece_behind (h : f.start + f.length ≤ cs.length) :
    (f.behind before.length).piece (before ++ cs ++ after) = f.piece cs := by
  have hle : f.length ≤ (cs.drop f.start).length := by
    rw [List.length_drop]
    omega
  rw [piece, piece, behind, List.append_assoc, List.drop_append, List.drop_eq_nil_of_le (by simp),
    List.nil_append, Nat.add_sub_cancel_left, List.drop_append_of_le_length (by omega),
    List.take_append_of_le_length hle]

lemma shown_behind (h : f.start + f.length ≤ cs.length) :
    (f.behind before.length).shown (before ++ cs ++ after) = f.shown cs := by
  rw [shown, shown, piece_behind h]
  rfl

lemma piece_infix (f : Fragment) (cs : List Char) : f.piece cs <:+: cs :=
  (List.take_prefix _ _).isInfix.trans (List.drop_suffix _ _).isInfix

lemma shown_ne_nil {i : Nat} (h : f.Holds i) (hstop : f.start + f.length ≤ cs.length) :
    f.shown cs ≠ [] := by
  have hpiece : f.piece cs ≠ [] := by
    obtain ⟨hlow, hhigh⟩ := h
    rw [← List.length_pos_iff, piece, List.length_take, List.length_drop]
    omega
  simp [shown, hpiece]

end Fragment

/-- The damage that windows over bytes do, whatever their size and overlap. Each chunk is a piece of
the trimmed text with at most three replacement characters in front and one behind. When windows
overlap by three bytes or more, each character that is not blank, wherever it stands in the text,
stands in the piece of a chunk. -/
theorem damage_confined_to_edges (w : Window) (text : String) :
    ∃ fragments : List Fragment,
      (Splitter.split ⟨w, .byte⟩ text).map String.toList = fragments.map (·.shown text.toList) ∧
      (∀ f ∈ fragments, f.front ≤ 3 ∧ f.back ≤ 1 ∧ f.piece text.toList <:+: trim text.toList) ∧
      (3 ≤ w.overlap → ∀ i c, text.toList[i]? = some c → isBlank c = false →
        ∃ f ∈ fragments, f.Holds i) := by
  obtain ⟨blanks, piece, blanks', htext, hblanks, hblanks', htrim⟩ :=
    exists_trim text.toList
  obtain ⟨fragment, hshows, hchunks⟩ := w.exists_fragments text.toList
  rw [htrim] at hshows hchunks ⊢
  generalize hcount : (w.windows (encode piece)).length = count at hchunks
  have hpiece : ∀ i, ((fragment i).behind blanks.length).piece text.toList = (fragment i).piece piece :=
    fun i => htext ▸ Fragment.piece_behind (hshows i).stop_le
  have hshown : ∀ i, ((fragment i).behind blanks.length).shown text.toList = (fragment i).shown piece :=
    fun i => htext ▸ Fragment.shown_behind (hshows i).stop_le
  refine ⟨(((List.range count).map fragment).filter fun f => !(f.shown piece).isEmpty).map
    (·.behind blanks.length), ?_, ?_, ?_⟩
  · have hchunk : (Splitter.split ⟨w, .byte⟩ text).map String.toList =
        w.chunks byteEncoding text.toList := by
      simp [Splitter.split, Function.comp_def]
    rw [hchunk, hchunks, List.map_map, List.filter_map, List.map_map, List.map_map]
    exact List.map_congr_left fun i _ => (hshown i).symm
  · intro f hf
    obtain ⟨g, hg, rfl⟩ := List.mem_map.1 hf
    obtain ⟨i, -, rfl⟩ := List.mem_map.1 (List.mem_filter.1 hg).1
    exact ⟨(hshows i).front_le, (hshows i).back_le, hpiece i ▸ Fragment.piece_infix _ _⟩
  · intro hoverlap i c hi hc
    rw [htext] at hi
    obtain ⟨hlow, hhigh⟩ := index_of_visible hblanks hblanks' hi hc
    obtain ⟨i, rfl⟩ := Nat.exists_eq_add_of_le hlow
    have hic : piece[i]? = some c := by
      rw [List.append_assoc, List.getElem?_append_right (by omega), Nat.add_sub_cancel_left,
        List.getElem?_append_left (by omega)] at hi
      exact hi
    obtain ⟨k, hk, hplace, hend⟩ := w.exists_window_of_char hoverlap hic
    have hholds := (hshows k).holds i c hic hc hplace hend
    refine ⟨(fragment k).behind blanks.length, ?_, ?_⟩
    · refine List.mem_map_of_mem (List.mem_filter.2 ⟨?_, ?_⟩)
      · exact List.mem_map_of_mem (List.mem_range.2 (hcount ▸ hk))
      · simpa using Fragment.shown_ne_nil hholds (hshows k).stop_le
    · obtain ⟨hfrom, hto⟩ := hholds
      refine ⟨Nat.add_le_add_left hfrom _, ?_⟩
      dsimp only [Fragment.behind]
      omega

/-- Windows of five bytes that overlap by three, over characters of four. -/
theorem damage_confined_to_edges_of_wide_characters :
    let w : Window := ⟨5, 3, by decide⟩
    let text := " a😀b😀 "
    Splitter.split ⟨w, .byte⟩ text =
        ["a😀", "\ufffd\ufffd\ufffdb\ufffd", "\ufffdb\ufffd", "😀"] ∧
    3 ≤ w.overlap ∧ text.toList[3]? = some 'b' ∧ isBlank 'b' = false ∧
    ∃ fragments : List Fragment,
      (Splitter.split ⟨w, .byte⟩ text).map String.toList = fragments.map (·.shown text.toList) ∧
      ∃ f ∈ fragments, f.Holds 3 := by
  intro w text
  obtain ⟨fragments, hshown, -, hholds⟩ := damage_confined_to_edges w text
  refine ⟨by decide +kernel, by decide, by decide, by decide, fragments, hshown, ?_⟩
  exact hholds (by decide) 3 'b' (by decide) (by decide)

end IncidentTriage.Chunk
