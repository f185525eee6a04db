import Mathlib.Data.Prod.Lex
import Mathlib.Data.Int.Order.Basic
import Mathlib.Order.Compare
import Mathlib.Tactic.Common

/-!
# The order of binary numbers

Every binary number but those that stand for none has a rank, and numbers are compared by their
ranks. So their order is that of the ranks, which is linear; a comparison with what is no number is
always false.
-/

namespace IncidentTriage.Decimal
open Float.Model

abbrev Rank := ℤ ×ₗ ℤ ×ₗ ℤ

/-- Numbers are ranked by their signs first, infinities beyond all others. Those of one sign are ranked
by their exponents and then by their mantissas. -/
def rankUnpacked? : UnpackedFloat → Option Rank
  | .notANumber => none
  | .infinity .negative => some (toLex (-2, toLex (0, 0)))
  | .finite .negative mantissa exponent _ => some (toLex (-1, toLex (-exponent, -mantissa)))
  | .zero _ => some (toLex (0, toLex (0, 0)))
  | .finite .positive mantissa exponent _ => some (toLex (1, toLex (exponent, mantissa)))
  | .infinity .positive => some (toLex (2, toLex (0, 0)))

def rank? (x : Float) : Option Rank :=
  rankUnpacked? x.toModel.unpack

lemma compare_rank (p q : Rank) :
    compare p q = (compare (ofLex p).1 (ofLex q).1).then
      ((compare (ofLex (ofLex p).2).1 (ofLex (ofLex q).2).1).then
        (compare (ofLex (ofLex p).2).2 (ofLex (ofLex q).2).2)) := rfl

lemma compare_neg (m n : ℤ) : compare (-m) (-n) = (compare m n).swap := by
  have hcomm : m = n ↔ n = m := eq_comm
  rw [Int.compare_swap]
  simp only [compare, compareOfLessAndEq, Int.neg_lt_neg_iff, Int.neg_inj, hcomm]

lemma compare_natCast (m n : ℕ) : compare (m : ℤ) (n : ℤ) = compare m n := by
  simp only [compare, compareOfLessAndEq, Int.ofNat_lt, Int.ofNat_inj]

lemma compare_unpacked (a b : UnpackedFloat) :
    a.compare b = (rankUnpacked? a).bind fun p => (rankUnpacked? b).map fun q => compare p q := by
  rcases a with (_ | _) | _ | _ | ⟨_ | _, m, e, _⟩ <;>
    rcases b with (_ | _) | _ | _ | ⟨_ | _, m', e', _⟩
  case finite.negative.finite.negative =>
    change some ((compare e e').then (compare m m')).swap = some (compare _ _)
    rw [compare_rank]
    simp [compare_neg, compare_natCast, Ordering.swap_then]
  case finite.positive.finite.positive =>
    change some ((compare e e').then (compare m m')) = some (compare _ _)
    rw [compare_rank]
    simp [compare_natCast]
  all_goals rfl

section Order

variable {x y z : Float}

lemma le_iff_rank : x ≤ y ↔ ∃ p ∈ rank? x, ∃ q ∈ rank? y, p ≤ q := by
  have hunpack : x ≤ y ↔ x.toModel.unpack.le y.toModel.unpack = true := decide_eq_true_iff
  rw [hunpack, UnpackedFloat.le, compare_unpacked, rank?, rank?]
  cases rankUnpacked? x.toModel.unpack with
  | none => simp
  | some p =>
    cases rankUnpacked? y.toModel.unpack with
    | none => simp
    | some q => simp [← compare_le_iff_le, ← Ordering.ne_gt_iff_isLE]

lemma lt_iff_rank : x < y ↔ ∃ p ∈ rank? x, ∃ q ∈ rank? y, p < q := by
  have hunpack : x < y ↔ x.toModel.unpack.lt y.toModel.unpack = true := decide_eq_true_iff
  rw [hunpack, UnpackedFloat.lt, compare_unpacked, rank?, rank?]
  cases rankUnpacked? x.toModel.unpack with
  | none => simp
  | some p =>
    cases rankUnpacked? y.toModel.unpack with
    | none => simp
    | some q => simp [← compare_lt_iff_lt]

protected lemma le_trans (hxy : x ≤ y) (hyz : y ≤ z) : x ≤ z := by
  obtain ⟨p, hp, q, hq, hpq⟩ := le_iff_rank.1 hxy
  obtain ⟨q', hq', r, hr, hqr⟩ := le_iff_rank.1 hyz
  rw [Option.mem_unique hq' hq] at hqr
  exact le_iff_rank.2 ⟨p, hp, r, hr, hpq.trans hqr⟩

protected lemma not_le_of_lt (h : x < y) : ¬ y ≤ x := by
  intro hle
  obtain ⟨p, hp, q, hq, hpq⟩ := lt_iff_rank.1 h
  obtain ⟨q', hq', p', hp', hqp⟩ := le_iff_rank.1 hle
  rw [Option.mem_unique hp' hp, Option.mem_unique hq' hq] at hqp
  exact hpq.not_ge hqp

end Order

end IncidentTriage.Decimal
