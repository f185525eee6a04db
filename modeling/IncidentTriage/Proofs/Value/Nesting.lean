import IncidentTriage.Value.Json
import Mathlib.Tactic.Common

/-!
# Lists that nest too deep

A document whose bytes are a character each is read character by character. One that opens one list
more than may nest is not read, whatever stands behind.
-/

namespace IncidentTriage.Text.Utf8

lemma pieces_ascii {bytes : List UInt8} (h : ∀ b ∈ bytes, b.toNat < 0x80) (surrogates : Bool) :
    pieces surrogates bytes = bytes.map fun b => some b.toNat := by
  induction bytes with
  | nil => simp [pieces]
  | cons b rest ih =>
    obtain ⟨hb, hrest⟩ := List.forall_mem_cons.1 h
    simp [pieces, piece, hb, ih hrest]

lemma decodeWide?_ascii {bytes : List UInt8} (h : ∀ b ∈ bytes, b.toNat < 0x80) :
    decodeWide? bytes = some (bytes.map fun b => .ofCode b.toNat) := by
  rw [decodeWide?, pieces_ascii h, List.mapM_map]
  exact List.mapM_pure

end IncidentTriage.Text.Utf8

namespace IncidentTriage.Json
open IncidentTriage.Text

/-- Bytes that spell a character each are told from those of another encoding. -/
lemma decode?_ascii {bytes : List UInt8} (h : ∀ b ∈ bytes, 0 < b.toNat ∧ b.toNat < 0x80) :
    decode? bytes = some (bytes.map fun b => .ofCode b.toNat) := by
  have hne : ∀ b ∈ bytes, b ≠ 0 := by
    rintro b hb rfl
    simpa using (h 0 hb).1
  have hutf8 : decode? bytes = Utf8.decodeWide? bytes := by
    unfold decode?
    split <;> simp_all
    split <;> simp_all
  rw [hutf8, Utf8.decodeWide?_ascii fun b hb => (h b hb).2]

lemma readBytes_ascii {bytes : List UInt8} (h : ∀ b ∈ bytes, 0 < b.toNat ∧ b.toNat < 0x80)
    (depth : Nat) :
    readBytes depth bytes = read depth (bytes.map fun b => .ofCode b.toNat) := by
  rw [readBytes, decode?_ascii h]

/-- The fault of the first item of a list is the fault of the list. -/
lemma readItems_of_error {fuel depth : Nat} {cs : List Symbol} {e : Error}
    (h : readValue fuel depth cs = .error e) : readItems (fuel + 1) depth cs = .error e := by
  rw [readItems, h]
  rfl

lemma readValue_of_error {fuel depth : Nat} {cs : List Symbol} {e : Error}
    (h : readItems fuel depth (.char '[' :: cs) = .error e) :
    readValue (fuel + 1) (depth + 1) (.char '[' :: .char '[' :: cs) = .error e := by
  have hskip : skipSpace (.char '[' :: cs) = .char '[' :: cs := rfl
  rw [readValue, hskip]
  change (readItems fuel depth (.char '[' :: cs) >>= _) = _
  rw [h]
  rfl

lemma readValue_openings (depth : Nat) {fuel : Nat} (h : 2 * depth < fuel) (cs : List Symbol) :
    readValue fuel depth (List.replicate (depth + 1) (.char '[') ++ cs) =
      .error (.tooDeep "array") := by
  induction depth generalizing fuel with
  | zero =>
    obtain ⟨fuel, rfl⟩ := Nat.exists_eq_add_of_lt h
    simp [readValue]
  | succ depth ih =>
    obtain ⟨fuel, rfl⟩ : ∃ n, fuel = n + 2 := ⟨fuel - 2, by omega⟩
    exact readValue_of_error (readItems_of_error (ih (by omega)))

/-- The brackets of one list more than may nest, whatever they hold. -/
lemma read_openings (depth : Nat) (cs : List Symbol) :
    read depth (List.replicate (depth + 1) (.char '[') ++ cs) = .error (.tooDeep "array") := by
  have hskip : skipSpace (List.replicate (depth + 1) (.char '[') ++ cs) =
      List.replicate (depth + 1) (.char '[') ++ cs := rfl
  rw [read, hskip, readValue_openings depth (by simp; omega)]
  rfl

lemma readBytes_openings (depth : Nat) {bytes : List UInt8}
    (h : ∀ b ∈ bytes, 0 < b.toNat ∧ b.toNat < 0x80) :
    readBytes depth (List.replicate (depth + 1) 0x5b ++ bytes) = .error (.tooDeep "array") := by
  have hascii : ∀ b ∈ List.replicate (depth + 1) 0x5b ++ bytes, 0 < b.toNat ∧ b.toNat < 0x80 := by
    intro b hb
    rcases List.mem_append.1 hb with hb | hb
    · rw [List.eq_of_mem_replicate hb]
      decide
    · exact h b hb
  have hopening : Symbol.ofCode (0x5b : UInt8).toNat = .char '[' := rfl
  rw [readBytes_ascii hascii, List.map_append, List.map_replicate, hopening]
  exact read_openings depth _

end IncidentTriage.Json
