import IncidentTriage.Decimal.Fixed
import Mathlib.Algebra.Group.Nat.Defs
import Mathlib.Data.List.Forall2
import Mathlib.Data.List.Lex
import Mathlib.Tactic.Common

/-!
# Numbers in columns

A number that has room in a column fills it, with zeros in front. A row of such columns, each with a
mark behind it, is read back as the numbers it was written from, and rows of the same columns are in
the order of their numbers, the first column first.
-/

namespace IncidentTriage.Decimal

section Digits

variable {width n : ℕ} {c d : Char} {cs ds : List Char}

lemma length_padded (hwidth : 0 < width) (h : n < 10 ^ width) : (padded width n).length = width := by
  have hlength := (Nat.length_toDigits_le_iff (by decide : 1 < 10) hwidth).2 h
  simp only [padded, List.length_append, List.length_replicate]
  omega

/-- A number that fills its column is written as it is. -/
lemma padded_of_le (hwidth : 0 < width) (h : 10 ^ width ≤ n) :
    padded (width + 1) n = Nat.toDigits 10 n := by
  have hlength := (Nat.length_toDigits_le_iff (by decide : 1 < 10) hwidth).not.2 h.not_gt
  rw [padded, Nat.sub_eq_zero_of_le (by omega), List.replicate_zero, List.nil_append]

lemma isDigit_of_mem_padded (h : c ∈ padded width n) : c.isDigit = true := by
  rcases List.mem_append.1 h with hzero | hdigit
  · rw [(List.mem_replicate.1 hzero).2]
    rfl
  · exact Nat.isDigit_of_mem_toDigits (by decide) (by decide) hdigit

@[simp] lemma ofDigitChars_padded (width n : ℕ) : Nat.ofDigitChars 10 (padded width n) 0 = n := by
  simp [padded, Nat.ofDigitChars_append, Nat.ofDigitChars_replicate_zero]

lemma toNat_bounds (h : c.isDigit = true) : 48 ≤ c.toNat ∧ c.toNat ≤ 57 :=
  Char.isDigit_iff_toNat.1 h

lemma ofDigitChars_cons_zero (c : Char) (cs : List Char) : Nat.ofDigitChars 10 (c :: cs) 0 =
    10 ^ cs.length * (c.toNat - 48) + Nat.ofDigitChars 10 cs 0 := by
  rw [Nat.ofDigitChars_cons, Nat.ofDigitChars_eq_ofDigitChars_zero, Nat.mul_zero, Nat.zero_add]
  rfl

lemma ofDigitChars_lt_pow (h : ∀ c ∈ cs, c.isDigit = true) :
    Nat.ofDigitChars 10 cs 0 < 10 ^ cs.length := by
  induction cs with
  | nil => decide
  | cons c cs ih =>
    have hrest := ih fun d hd => h d (.tail _ hd)
    have hdigit : c.toNat - 48 + 1 ≤ 10 := by
      have hbounds := toNat_bounds (h c (.head _))
      omega
    calc Nat.ofDigitChars 10 (c :: cs) 0
        < 10 ^ cs.length * (c.toNat - 48 + 1) := by
          rw [ofDigitChars_cons_zero, Nat.mul_add]
          omega
      _ ≤ 10 ^ (c :: cs).length := by
          rw [List.length_cons, Nat.pow_succ]
          exact Nat.mul_le_mul_left _ hdigit

/-- Of as many digits, those of the smaller number come first. -/
lemma lt_of_ofDigitChars_lt (hlength : cs.length = ds.length)
    (hcs : ∀ c ∈ cs, c.isDigit = true) (hds : ∀ d ∈ ds, d.isDigit = true)
    (h : Nat.ofDigitChars 10 cs 0 < Nat.ofDigitChars 10 ds 0) : cs < ds := by
  induction cs generalizing ds with
  | nil =>
    rw [List.length_eq_zero_iff.1 hlength.symm] at h
    exact absurd h (Nat.lt_irrefl _)
  | cons c cs ih =>
    obtain ⟨d, ds, rfl⟩ := List.exists_cons_of_length_eq_add_one hlength.symm
    have hlength' : cs.length = ds.length := Nat.succ.inj hlength
    have hdigits := ofDigitChars_lt_pow fun d' hd => hds d' (.tail _ hd)
    have hc := toNat_bounds (hcs c (.head _))
    have hd := toNat_bounds (hds d (.head _))
    rw [ofDigitChars_cons_zero, ofDigitChars_cons_zero, hlength'] at h
    rw [List.cons_lt_cons_iff]
    rcases lt_trichotomy c.toNat d.toNat with hlt | heq | hgt
    · exact .inl hlt
    · rw [heq, Nat.add_lt_add_iff_left] at h
      exact .inr ⟨Char.toNat_inj.1 heq, ih hlength' (fun c' hc => hcs c' (.tail _ hc))
        (fun d' hd => hds d' (.tail _ hd)) h⟩
    · have hstep := Nat.mul_le_mul_left (10 ^ ds.length)
        (show d.toNat - 48 + 1 ≤ c.toNat - 48 by omega)
      rw [Nat.mul_add, Nat.mul_one] at hstep
      omega

lemma padded_lt {m : ℕ} (hlength : (padded width m).length = (padded width n).length) (h : m < n) :
    padded width m < padded width n := by
  refine lt_of_ofDigitChars_lt hlength (fun _ => isDigit_of_mem_padded)
    (fun _ => isDigit_of_mem_padded) ?_
  simpa using h

end Digits

lemma append_lt_append_iff {α : Type} [LT α] {cs ds rest rest' : List α}
    (hlength : cs.length = ds.length) :
    cs ++ rest < ds ++ rest' ↔ cs < ds ∨ cs = ds ∧ rest < rest' := by
  induction cs generalizing ds with
  | nil =>
    rw [List.length_eq_zero_iff.1 hlength.symm]
    simp
  | cons c cs ih =>
    obtain ⟨d, ds, rfl⟩ := List.exists_cons_of_length_eq_add_one hlength.symm
    rw [List.cons_append, List.cons_append, List.cons_lt_cons_iff, List.cons_lt_cons_iff,
      ih (Nat.succ.inj hlength), List.cons.injEq]
    tauto

/-- Room for a number of so many digits, and what stands behind it. -/
structure Column where
  width : ℕ
  mark : List Char

namespace Column

/-- The number fills the column and does not run over it. -/
def Holds (column : Column) (n : ℕ) : Prop :=
  (padded column.width n).length = column.width

def write (column : Column) (n : ℕ) : List Char :=
  padded column.width n ++ column.mark

/-- The number in a column at the beginning of a text, and what follows its mark. -/
def read? (column : Column) (cs : List Char) : Option (ℕ × List Char) :=
  let digits := cs.take column.width
  let rest := cs.drop column.width
  if digits.length = column.width ∧ digits.all Char.isDigit ∧ column.mark <+: rest then
    some (Nat.ofDigitChars 10 digits 0, rest.drop column.mark.length)
  else none

def writeRow (columns : List Column) (ns : List ℕ) : List Char :=
  (List.zipWith write columns ns).flatten

/-- The numbers of a text that is one row. -/
def readRow? : List Column → List Char → Option (List ℕ)
  | [], [] => some []
  | [], _ :: _ => none
  | column :: columns, cs =>
    (column.read? cs).bind fun (n, rest) => (readRow? columns rest).map (n :: ·)

lemma read?_write {column : Column} {n : ℕ} (h : column.Holds n) (rest : List Char) :
    column.read? (column.write n ++ rest) = some (n, rest) := by
  have htake : (column.write n ++ rest).take column.width = padded column.width n := by
    rw [write, List.append_assoc, List.take_left' h]
  have hdrop : (column.write n ++ rest).drop column.width = column.mark ++ rest := by
    rw [write, List.append_assoc, List.drop_left' h]
  have hdigits : (padded column.width n).all Char.isDigit = true :=
    List.all_eq_true.2 fun _ => isDigit_of_mem_padded
  rw [read?]
  simp only [htake, hdrop]
  rw [if_pos ⟨h, hdigits, List.prefix_append ..⟩, ofDigitChars_padded, List.drop_left]

variable {columns : List Column} {ms ns : List ℕ}

lemma readRow?_writeRow (h : List.Forall₂ Holds columns ns) :
    readRow? columns (writeRow columns ns) = some ns := by
  induction h with
  | nil => rfl
  | cons hn _ ih =>
    rw [writeRow, List.zipWith_cons_cons, List.flatten_cons, readRow?, read?_write hn]
    exact congrArg (Option.map _) ih

lemma writeRow_lt (hms : List.Forall₂ Holds columns ms) (hns : List.Forall₂ Holds columns ns)
    (h : ms < ns) : writeRow columns ms < writeRow columns ns := by
  induction hms generalizing ns with
  | nil =>
    cases hns
    exact absurd h (List.lt_irrefl _)
  | @cons column m columns ms hm _ ih =>
    obtain ⟨n, ns, hn, hrest, rfl⟩ := List.forall₂_cons_left_iff.1 hns
    simp only [writeRow, List.zipWith_cons_cons, List.flatten_cons, write, List.append_assoc]
    rcases List.cons_lt_cons_iff.1 h with hlt | ⟨rfl, hlt⟩
    · have hlength := hm.trans hn.symm
      exact (append_lt_append_iff hlength).2 (.inl (padded_lt hlength hlt))
    · exact List.append_left_lt (List.append_left_lt (ih hrest hlt))

end Column

end IncidentTriage.Decimal
