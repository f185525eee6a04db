import IncidentTriage.Proofs.Calendar.Moment
import IncidentTriage.Proofs.Decimal.Nearest
import Mathlib.Algebra.Order.Field.Basic
import Mathlib.Data.Nat.Cast.Order.Field

/-!
# Times are exact to the millisecond

Below `2 ^ 33` seconds a floating-point number of seconds is off by less than half a microsecond, and
the scaling of its fraction adds next to nothing. So the microseconds of an instant are seen as they
were given, and its text is that of the millisecond in which it lies.
-/

namespace IncidentTriage.Calendar
open IncidentTriage.Decimal

section Seen

variable {num den micros : ℕ}

/-- A number of seconds with more whole ones than the instant would be a microsecond off. -/
lemma whole_le (h : |(num : ℚ) / den - micros / 1000000| ≤ 1 / 2 ^ 21) :
    num / den * 1000000 ≤ micros := by
  have hwhole : ((num / den : ℕ) : ℚ) ≤ num / den := Nat.cast_div_le
  have hclose := (abs_le.1 h).2
  have hlt : ((num / den * 1000000 : ℕ) : ℚ) < (micros + 1 : ℕ) := by
    push_cast
    linarith
  exact Nat.lt_succ_iff.1 (Nat.cast_lt.1 hlt)

/-- The fraction of a close number of seconds, scaled and rounded, is the rest of the instant. -/
lemma read_micros (hden : 0 < den) (h : |(num : ℚ) / den - micros / 1000000| ≤ 1 / 2 ^ 21) :
    num / den * 1000000 + roundHalfEven (nearestBinary (num % den * 1000000) den).quotient.1
      (nearestBinary (num % den * 1000000) den).quotient.2 = micros := by
  obtain ⟨rest, rfl⟩ := Nat.exists_eq_add_of_le (whole_le h)
  have hpos : (0 : ℚ) < den := by exact_mod_cast hden
  have hsplit : (num : ℚ) / den = (num / den : ℕ) + (num % den : ℕ) / den := by
    rw [div_eq_iff hpos.ne', add_mul, div_mul_cancel₀ _ hpos.ne']
    exact_mod_cast (Nat.div_add_mod' num den).symm
  have hfraction : ((num % den * 1000000 : ℕ) : ℚ) / den = (num % den : ℕ) / den * 1000000 := by
    rw [Nat.cast_mul, mul_div_right_comm, Nat.cast_ofNat]
  have hsmall : ((num % den * 1000000 : ℕ) : ℚ) / den < 2 ^ (20 : ℤ) := by
    have hlt : ((num % den : ℕ) : ℚ) / den < 1 :=
      (div_lt_one hpos).2 (by exact_mod_cast Nat.mod_lt num hden)
    rw [hfraction, show (2 : ℚ) ^ (20 : ℤ) = 1048576 by norm_num]
    linarith
  have hscaled := abs_nearestBinary_sub_le hden hsmall
  have hround : roundHalfEven (nearestBinary (num % den * 1000000) den).quotient.1
      (nearestBinary (num % den * 1000000) den).quotient.2 = rest := by
    refine roundHalfEven_eq (Scaled.quotient_den_pos _) ?_
    rw [hfraction, show (2 : ℚ) ^ (20 - 54 : ℤ) = 1 / 2 ^ 34 by norm_num, abs_le] at hscaled
    rw [hsplit, abs_le] at h
    push_cast at h
    rw [Scaled.quotient_div, abs_lt]
    -- What the seconds are off, times a million, and what the scaling adds are less than a half.
    constructor <;> linarith
  rw [hround]

lemma seenMicros_eq {micros : ℤ} (h0 : 0 ≤ micros) (h : micros < 2 ^ 33 * 10 ^ 6) :
    seenMicros micros = micros := by
  obtain ⟨n, rfl⟩ := Int.eq_ofNat_of_zero_le h0
  have hn : (n : ℚ) < 2 ^ 33 * 10 ^ 6 := by exact_mod_cast h
  have hseconds : (n : ℚ) / (1000000 : ℕ) < 2 ^ (33 : ℤ) := by
    rw [div_lt_iff₀ (by norm_num)]
    calc (n : ℚ) < 2 ^ 33 * 10 ^ 6 := hn
      _ = 2 ^ (33 : ℤ) * (1000000 : ℕ) := by norm_num
  have hclose := abs_nearestBinary_sub_le (by decide) hseconds
  rw [← Scaled.quotient_div, Nat.cast_ofNat,
    show (2 : ℚ) ^ (33 - 54 : ℤ) = 1 / 2 ^ 21 by norm_num] at hclose
  have hread := read_micros (Scaled.quotient_den_pos _) hclose
  simp only [seenMicros, Int.natAbs_natCast, h0.not_gt, if_false, hread]

end Seen

section Shown

variable {micros : ℤ}

lemma inCalendar_of_lt (h0 : 0 ≤ micros) (h : micros < 2 ^ 33 * 10 ^ 6) : inCalendar micros = true := by
  rw [inCalendar, Bool.and_eq_true, decide_eq_true_eq, decide_eq_true_eq]
  omega

lemma timeText_eq (h0 : 0 ≤ micros) (h : micros < 2 ^ 33 * 10 ^ 6) :
    timeText micros = (Moment.ofMillis (micros / 1000)).text := by
  have hyear := Moment.year_ofMillis (show 0 ≤ micros / 1000 by omega) (by omega)
  rw [timeText, seenMicros_eq h0 h, inCalendar_of_lt h0 h, if_pos rfl]
  exact Moment.instantText_eq (by omega)

/-- Below `2 ^ 33` seconds an instant is shown as the moment, in the calendar and by the clock, of the
millisecond in which it lies; what is shown gives that millisecond back, and a later instant is not
shown as an earlier text. -/
theorem shown_to_the_millisecond (h0 : 0 ≤ micros) (h : micros < 2 ^ 33 * 10 ^ 6) :
    (∃! m : Moment, m.millis = micros / 1000) ∧
    (∀ m : Moment, m.millis = micros / 1000 → timeText micros = m.text) ∧
    (Moment.read? (timeText micros)).map Moment.millis = some (micros / 1000) ∧
    ∀ later, micros ≤ later → later < 2 ^ 33 * 10 ^ 6 → timeText micros ≤ timeText later := by
  have hmillis : (Moment.ofMillis (micros / 1000)).millis = micros / 1000 :=
    Moment.millis_ofMillis (by omega)
  have hunique (m : Moment) (hm : m.millis = micros / 1000) : m = Moment.ofMillis (micros / 1000) :=
    Moment.eq_of_millis (hm.trans hmillis.symm)
  have hyear := Moment.year_ofMillis (show 0 ≤ micros / 1000 by omega) (by omega)
  refine ⟨⟨_, hmillis, hunique⟩, ?_, ?_, ?_⟩
  · intro m hm
    rw [timeText_eq h0 h, hunique m hm]
  · rw [timeText_eq h0 h, Moment.read?_text hyear.2, Option.map_some, hmillis]
  · intro later hle hlater
    have hlaterYear := Moment.year_ofMillis (show 0 ≤ later / 1000 by omega) (by omega)
    rw [timeText_eq h0 h, timeText_eq (h0.trans hle) hlater]
    refine Moment.text_le hlaterYear.2 ?_
    rw [hmillis, Moment.millis_ofMillis (show 0 ≤ later / 1000 by omega)]
    omega

/-- In one of the last seconds, at the end of a millisecond; the number of seconds is almost half a
microsecond too large. -/
theorem shown_to_the_millisecond_of_late_instant :
    timeText 8589934589026999 = "2242-03-16 12:56:29.026 UTC" ∧
    (Moment.read? (timeText 8589934589026999)).map Moment.millis = some 8589934589026 ∧
    timeText 8589934589026999 ≤ timeText 8589934591999999 := by
  have hmillis := Moment.millis_ofMillis (show 0 ≤ 8589934589026 by decide)
  obtain ⟨-, htext, hread, hle⟩ := shown_to_the_millisecond
    (show 0 ≤ 8589934589026999 by decide) (by decide)
  refine ⟨(htext _ hmillis).trans ?_, hread, hle _ (by decide) (by decide)⟩
  decide

-- One millisecond past the bound a microsecond is lost, and the millisecond with it.
example : timeText (2 ^ 33 * 10 ^ 6 + 1000) = "2242-03-16 12:56:32.000 UTC" := by decide

end Shown

end IncidentTriage.Calendar
