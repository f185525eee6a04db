import IncidentTriage.Text.Utf8
import Mathlib.Data.List.Basic
import Mathlib.Tactic.Common

/-!
# Torn characters

The bytes of a text spell the text again. Cut anywhere, they tear at most one character: what is left
of its end reads as one replacement character for each byte, what is left of its beginning as one
replacement character in all.
-/

namespace IncidentTriage.Text.Utf8

def replacement : Char := Char.ofNat 0xfffd

/-- The byte goes on with a character that another byte began. -/
def IsLater (b : UInt8) : Prop :=
  0x80 ≤ b.toNat ∧ b.toNat < 0xc0

/-- The bytes of a character that takes more than one: a first byte, and as many others as it
promises, which spell the character. -/
structure Spells (code : Nat) (b : UInt8) (rest : List UInt8) (l : Lead) : Prop where
  first : 0x80 ≤ b.toNat
  promise : lead? false b.toNat = some l
  length_eq : rest.length = l.more
  more_le : l.more ≤ 3
  later : ∀ b' ∈ rest, IsLater b'
  follow_eq : follow l.bits l.low l.high l.more rest = (some code, l.more)

section Characters

lemma toNat_later (n : Nat) : (0x80 + n % 64).toUInt8.toNat = 0x80 + n % 64 :=
  UInt8.toNat_ofNat_of_lt' (show _ < 256 by omega)

lemma isLater_later (n : Nat) : IsLater (0x80 + n % 64).toUInt8 := by
  rw [IsLater, toNat_later]
  omega

lemma lead?_two {b : Nat} (hlow : 0xc2 ≤ b) (hhigh : b < 0xe0) :
    lead? false b = some ⟨b - 0xc0, 0x80, 0xbf, 1⟩ :=
  if_pos ⟨hlow, hhigh⟩

lemma lead?_three {b : Nat} (hlow : 0xe0 ≤ b) (hhigh : b < 0xf0) :
    lead? false b = some ⟨b - 0xe0, if b = 0xe0 then 0xa0 else 0x80,
      if b = 0xed then 0x9f else 0xbf, 2⟩ := by
  unfold lead?
  split_ifs <;> grind

lemma lead?_four {b : Nat} (hlow : 0xf0 ≤ b) (hhigh : b ≤ 0xf4) :
    lead? false b = some ⟨b - 0xf0, if b = 0xf0 then 0x90 else 0x80,
      if b = 0xf4 then 0x8f else 0xbf, 3⟩ := by
  unfold lead?
  split_ifs <;> grind

lemma lead?_of_isLater {b : UInt8} (h : IsLater b) : lead? false b.toNat = none := by
  obtain ⟨hlow, hhigh⟩ := h
  unfold lead?
  split_ifs <;> first | rfl | omega

lemma toNat_valid (c : Char) : c.toNat < 0xd800 ∨ 0xdfff < c.toNat ∧ c.toNat < 0x110000 :=
  c.valid

lemma spells_two {n : Nat} (hlow : 0x80 ≤ n) (hhigh : n < 0x800) :
    ∃ l, Spells n (0xc0 + n / 64).toUInt8 [(0x80 + n % 64).toUInt8] l := by
  have hfirst : (0xc0 + n / 64).toUInt8.toNat = 0xc0 + n / 64 :=
    UInt8.toNat_ofNat_of_lt' (show _ < 256 by omega)
  refine ⟨_, by omega, by rw [hfirst, lead?_two (by omega) (by omega)], rfl, by simp, ?_, ?_⟩
  · simp only [List.forall_mem_cons, isLater_later, List.not_mem_nil, false_implies, implies_true,
      and_self]
  · simp only [follow, toNat_later]
    rw [if_pos (by omega)]
    grind

lemma spells_three {c : Char} (hlow : 0x800 ≤ c.toNat) (hhigh : c.toNat < 0x10000) :
    ∃ l, Spells c.toNat (0xe0 + c.toNat / 4096).toUInt8
      [(0x80 + c.toNat / 64 % 64).toUInt8, (0x80 + c.toNat % 64).toUInt8] l := by
  have hvalid := toNat_valid c
  have hfirst : (0xe0 + c.toNat / 4096).toUInt8.toNat = 0xe0 + c.toNat / 4096 :=
    UInt8.toNat_ofNat_of_lt' (show _ < 256 by omega)
  refine ⟨_, by omega, by rw [hfirst, lead?_three (by omega) (by omega)], rfl, by simp, ?_, ?_⟩
  · simp only [List.forall_mem_cons, isLater_later, List.not_mem_nil, false_implies, implies_true,
      and_self]
  · simp only [follow, toNat_later]
    rw [if_pos (by split_ifs <;> omega), if_pos (by omega)]
    grind

lemma spells_four {c : Char} (hlow : 0x10000 ≤ c.toNat) :
    ∃ l, Spells c.toNat (0xf0 + c.toNat / 262144).toUInt8 [(0x80 + c.toNat / 4096 % 64).toUInt8,
      (0x80 + c.toNat / 64 % 64).toUInt8, (0x80 + c.toNat % 64).toUInt8] l := by
  have hvalid := toNat_valid c
  have hfirst : (0xf0 + c.toNat / 262144).toUInt8.toNat = 0xf0 + c.toNat / 262144 :=
    UInt8.toNat_ofNat_of_lt' (show _ < 256 by omega)
  refine ⟨_, by omega, by rw [hfirst, lead?_four (by omega) (by omega)], rfl, by simp, ?_, ?_⟩
  · simp only [List.forall_mem_cons, isLater_later, List.not_mem_nil, false_implies, implies_true,
      and_self]
  · simp only [follow, toNat_later]
    rw [if_pos (by split_ifs <;> omega), if_pos (by omega), if_pos (by omega)]
    grind

lemma encodeChar_cases (c : Char) :
    (c.toNat < 0x80 ∧ encodeChar c = [c.toNat.toUInt8]) ∨
      ∃ b rest l, encodeChar c = b :: rest ∧ Spells c.toNat b rest l := by
  unfold encodeChar
  dsimp only
  split_ifs with h1 h2 h3
  · exact .inl ⟨h1, rfl⟩
  · obtain ⟨l, hl⟩ := spells_two (Nat.le_of_not_lt h1) h2
    exact .inr ⟨_, _, l, rfl, hl⟩
  · obtain ⟨l, hl⟩ := spells_three (Nat.le_of_not_lt h2) h3
    exact .inr ⟨_, _, l, rfl, hl⟩
  · obtain ⟨l, hl⟩ := spells_four (Nat.le_of_not_lt h3)
    exact .inr ⟨_, _, l, rfl, hl⟩

end Characters

section Follow

variable {bits low high more code : Nat} {rest : List UInt8}

/-- What stands behind the promised bytes is not looked at. -/
lemma follow_append (h : rest.length = more) (bytes : List UInt8) :
    follow bits low high more (rest ++ bytes) = follow bits low high more rest := by
  induction more generalizing bits low high rest with
  | zero => simp [follow]
  | succ more ih =>
    obtain ⟨b, rest, rfl⟩ := List.exists_cons_of_length_eq_add_one h
    rw [List.cons_append, follow, follow, ih (Nat.succ.inj h)]

/-- Bytes that spell a character break off where they are cut. -/
lemma follow_take (h : follow bits low high more rest = (some code, more)) {n : Nat} (hn : n < more) :
    follow bits low high more (rest.take n) = (none, n) := by
  induction more generalizing bits low high rest n with
  | zero => exact absurd hn (Nat.not_lt_zero n)
  | succ more ih =>
    cases rest with
    | nil => simp [follow] at h
    | cons b rest =>
      rw [follow] at h
      split at h
      · rename_i hb
        cases n with
        | zero => rw [List.take_zero, follow]
        | succ n =>
          have hrest : follow (bits * 64 + (b.toNat - 0x80)) 0x80 0xbf more rest = (some code, more) := by
            grind
          rw [List.take_succ_cons, follow, if_pos hb, ih hrest (Nat.lt_of_succ_lt_succ hn)]
      · simp at h

end Follow

section Reading

lemma decode_cons (b : UInt8) (rest : List UInt8) : decode (b :: rest) =
    Char.ofNat ((piece false b rest).1.getD 0xfffd) :: decode (rest.drop (piece false b rest).2) := by
  rw [decode, pieces, List.map_cons, decode]

lemma decode_nil : decode [] = [] := by
  rw [decode, pieces, List.map_nil]

lemma Spells.piece_eq {code : Nat} {b : UInt8} {rest : List UInt8} {l : Lead}
    (h : Spells code b rest l) (bytes : List UInt8) :
    piece false b bytes = follow l.bits l.low l.high l.more bytes := by
  rw [piece, if_neg (Nat.not_lt.2 h.first), h.promise]

/-- A character is read back, whatever stands behind it. -/
lemma decode_encodeChar_append (c : Char) (bytes : List UInt8) :
    decode (encodeChar c ++ bytes) = c :: decode bytes := by
  rcases encodeChar_cases c with ⟨hascii, hc⟩ | ⟨b, rest, l, hc, hspells⟩
  · have hbyte : c.toNat.toUInt8.toNat = c.toNat :=
      UInt8.toNat_ofNat_of_lt' (show _ < 256 by omega)
    rw [hc, List.singleton_append, decode_cons, piece, hbyte, if_pos hascii, Option.getD_some,
      Char.ofNat_toNat, List.drop_zero]
  · rw [hc, List.cons_append, decode_cons, hspells.piece_eq, follow_append hspells.length_eq,
      hspells.follow_eq, Option.getD_some, Char.ofNat_toNat, List.drop_left' hspells.length_eq]

lemma decode_encode_append (cs : List Char) (bytes : List UInt8) :
    decode (encode cs ++ bytes) = cs ++ decode bytes := by
  induction cs with
  | nil => rfl
  | cons c cs ih =>
    rw [encode, List.flatMap_cons, List.append_assoc, decode_encodeChar_append, ← encode, ih,
      List.cons_append]

/-- Bytes that go on with no character are replaced one by one. -/
lemma decode_later_append {q : List UInt8} (h : ∀ b ∈ q, IsLater b) (bytes : List UInt8) :
    decode (q ++ bytes) = List.replicate q.length replacement ++ decode bytes := by
  induction q with
  | nil => rfl
  | cons b q ih =>
    obtain ⟨hb, hq⟩ := List.forall_mem_cons.1 h
    rw [List.cons_append, decode_cons, piece, if_neg (Nat.not_lt.2 hb.1), lead?_of_isLater hb,
      List.drop_zero, ih hq, List.length_cons, List.replicate_succ, List.cons_append]
    rfl

/-- What is left of the beginning of a character is replaced as a whole. -/
lemma decode_take_encodeChar {c : Char} {n : Nat} (hpos : 0 < n) (hn : n < (encodeChar c).length) :
    decode ((encodeChar c).take n) = [replacement] := by
  rcases encodeChar_cases c with ⟨-, hc⟩ | ⟨b, rest, l, hc, hspells⟩
  · rw [hc, List.length_singleton] at hn
    omega
  · obtain ⟨n, rfl⟩ := Nat.exists_eq_add_of_lt hpos
    rw [hc, List.length_cons, hspells.length_eq] at hn
    have hcut := follow_take hspells.follow_eq (n := n) (by omega)
    rw [hc, Nat.zero_add, List.take_succ_cons, decode_cons, hspells.piece_eq, hcut, Option.getD_none,
      List.drop_take_self, decode_nil]
    rfl

end Reading

/-- The place where the bytes of a character begin. -/
def offset (cs : List Char) (i : Nat) : Nat :=
  (encode (cs.take i)).length

/-- The bytes are left of the end of a character. -/
structure TornEnd (q : List UInt8) : Prop where
  length_le : q.length ≤ 3
  later : ∀ b ∈ q, IsLater b

/-- The bytes are left of the beginning of a character, if there are any. They read as so many
replacement characters. -/
structure TornStart (p : List UInt8) (count : Nat) : Prop where
  count_le : count ≤ 1
  count_le_length : count ≤ p.length
  decode_eq : decode p = List.replicate count replacement

section Cuts

lemma encode_append (cs ds : List Char) : encode (cs ++ ds) = encode cs ++ encode ds :=
  List.flatMap_append

lemma encode_cons (c : Char) (cs : List Char) : encode (c :: cs) = encodeChar c ++ encode cs :=
  List.flatMap_cons

@[simp] lemma offset_zero (cs : List Char) : offset cs 0 = 0 := by
  rw [offset, List.take_zero]
  rfl

@[simp] lemma offset_cons (c : Char) (cs : List Char) (i : Nat) :
    offset (c :: cs) (i + 1) = (encodeChar c).length + offset cs i := by
  rw [offset, List.take_succ_cons, encode_cons, List.length_append, ← offset]

lemma offset_add (cs : List Char) (i j : Nat) :
    offset cs (i + j) = offset cs i + offset (cs.drop i) j := by
  rw [offset, List.take_add, encode_append, List.length_append, ← offset, ← offset]

lemma offset_succ {cs : List Char} {i : Nat} {c : Char} (h : cs[i]? = some c) :
    offset cs (i + 1) = offset cs i + (encodeChar c).length := by
  obtain ⟨hi, hc⟩ := List.getElem?_eq_some_iff.1 h
  rw [offset_add, List.drop_eq_getElem_cons hi, hc, ← Nat.zero_add 1, offset_cons, offset_zero,
    Nat.add_zero]

lemma offset_add_length_drop (cs : List Char) (i : Nat) :
    offset cs i + (encode (cs.drop i)).length = (encode cs).length := by
  rw [offset, ← List.length_append, ← encode_append, List.take_append_drop]

lemma TornEnd.nil : TornEnd [] :=
  ⟨by simp, by simp⟩

lemma TornEnd.take {q : List UInt8} (h : TornEnd q) (n : Nat) : TornEnd (q.take n) where
  length_le := Nat.le_trans (List.length_take_le' n q) h.length_le
  later := fun b hb => h.later b (List.mem_of_mem_take hb)

lemma TornStart.nil : TornStart [] 0 :=
  ⟨by simp, by simp, decode_nil⟩

lemma TornStart.take {c : Char} {n : Nat} (hpos : 0 < n) (hn : n < (encodeChar c).length) :
    TornStart ((encodeChar c).take n) 1 where
  count_le := Nat.le_refl 1
  count_le_length := by
    rw [List.length_take]
    omega
  decode_eq := decode_take_encodeChar hpos hn

lemma length_encodeChar_pos (c : Char) : 0 < (encodeChar c).length := by
  rcases encodeChar_cases c with ⟨-, hc⟩ | ⟨b, rest, -, hc, -⟩ <;> simp [hc]

lemma length_encodeChar_le (c : Char) : (encodeChar c).length ≤ 4 := by
  rcases encodeChar_cases c with ⟨-, hc⟩ | ⟨b, rest, l, hc, hspells⟩
  · simp [hc]
  · have hrest := hspells.length_eq
    have hmore := hspells.more_le
    rw [hc, List.length_cons]
    omega

lemma TornEnd.drop (c : Char) {n : Nat} (hpos : 0 < n) : TornEnd ((encodeChar c).drop n) := by
  obtain ⟨n, rfl⟩ := Nat.exists_eq_add_of_lt hpos
  rcases encodeChar_cases c with ⟨-, hc⟩ | ⟨b, rest, l, hc, hspells⟩
  · rw [hc, Nat.zero_add, List.drop_succ_cons, List.drop_nil]
    exact .nil
  · have hlength : (rest.drop n).length ≤ rest.length := by simp
    rw [hc, Nat.zero_add, List.drop_succ_cons]
    refine ⟨Nat.le_trans hlength (hspells.length_eq ▸ hspells.more_le), fun b hb => ?_⟩
    exact hspells.later b (List.mem_of_mem_drop hb)

/-- The bytes from a place on: what is left of a torn character, and the characters that begin at
that place or later. -/
lemma exists_drop_encode (cs : List Char) (n : Nat) :
    ∃ i q, (encode cs).drop n = q ++ encode (cs.drop i) ∧ TornEnd q ∧ i ≤ cs.length ∧
      ∀ j, n ≤ offset cs j → i ≤ j := by
  induction cs generalizing n with
  | nil => exact ⟨0, [], by simp [encode], .nil, Nat.le_refl 0, by simp⟩
  | cons c cs ih =>
    rcases Nat.eq_zero_or_pos n with rfl | hpos
    · exact ⟨0, [], rfl, .nil, Nat.zero_le _, by simp⟩
    by_cases hn : n < (encodeChar c).length
    · refine ⟨1, (encodeChar c).drop n, ?_, .drop c hpos, by simp, fun j hj => ?_⟩
      · rw [encode_cons, List.drop_append_of_le_length (Nat.le_of_lt hn), List.drop_one, List.tail_cons]
      · by_contra hzero
        obtain rfl : j = 0 := by omega
        rw [offset_zero] at hj
        omega
    · obtain ⟨i, q, hdrop, hq, hi, hleast⟩ := ih (n - (encodeChar c).length)
      refine ⟨i + 1, q, ?_, hq, by simpa using hi, fun j hj => ?_⟩
      · rw [encode_cons, List.drop_append, List.drop_eq_nil_of_le (Nat.le_of_not_lt hn),
          List.nil_append, hdrop, List.drop_succ_cons]
      · cases j with
        | zero =>
          rw [offset_zero] at hj
          omega
        | succ j =>
          rw [offset_cons] at hj
          have := hleast j (by omega)
          omega

/-- The bytes up to a place: the characters that end there or earlier, and what is left of a torn
one. -/
lemma exists_take_encode (cs : List Char) (n : Nat) :
    ∃ i p count, (encode cs).take n = encode (cs.take i) ++ p ∧ TornStart p count ∧ i ≤ cs.length ∧
      ∀ j ≤ cs.length, offset cs j ≤ n → j ≤ i := by
  induction cs generalizing n with
  | nil => exact ⟨0, [], 0, by simp [encode], .nil, Nat.le_refl 0, by simp⟩
  | cons c cs ih =>
    by_cases hn : n < (encodeChar c).length
    · have hmost : ∀ j ≤ (c :: cs).length, offset (c :: cs) j ≤ n → j ≤ 0 := by
        intro j _ hj
        cases j with
        | zero => exact Nat.le_refl 0
        | succ j =>
          rw [offset_cons] at hj
          omega
      have htake : (encode (c :: cs)).take n = encode ((c :: cs).take 0) ++ (encodeChar c).take n := by
        rw [encode_cons, List.take_append_of_le_length (Nat.le_of_lt hn)]
        rfl
      rcases Nat.eq_zero_or_pos n with rfl | hpos
      · exact ⟨0, [], 0, htake, .nil, Nat.zero_le _, hmost⟩
      · exact ⟨0, _, 1, htake, .take hpos hn, Nat.zero_le _, hmost⟩
    · obtain ⟨i, p, count, htake, hp, hi, hmost⟩ := ih (n - (encodeChar c).length)
      refine ⟨i + 1, p, count, ?_, hp, by simpa using hi, fun j hj hoffset => ?_⟩
      · rw [encode_cons, List.take_append, List.take_of_length_le (Nat.le_of_not_lt hn), htake,
          List.take_succ_cons, encode_cons, List.append_assoc]
      · cases j with
        | zero => exact Nat.zero_le _
        | succ j =>
          rw [offset_cons] at hoffset
          rw [List.length_cons] at hj
          have := hmost j (by omega) (by omega)
          omega

end Cuts

end IncidentTriage.Text.Utf8
