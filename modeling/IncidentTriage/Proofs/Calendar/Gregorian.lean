import IncidentTriage.Calendar
import Mathlib.Algebra.BigOperators.Intervals
import Mathlib.Algebra.Order.BigOperators.Group.Finset
import Mathlib.Tactic.IntervalCases

/-!
# The days of the Gregorian calendar

The days of the calendar are counted from the beginning of the year 0, by the lengths of the years and
of the months. The date that is found for a number of days is a day of the calendar, and as many days
come before it; of two days the one with the earlier date comes first.
-/

namespace IncidentTriage.Calendar
open Finset

/-- Every fourth year, but among the years that end a century only every fourth one. -/
def IsLeapYear (year : ℕ) : Prop :=
  4 ∣ year ∧ (100 ∣ year → 400 ∣ year)

instance : DecidablePred IsLeapYear := fun _ => inferInstanceAs (Decidable (_ ∧ _))

def leapDays (year : ℕ) : ℕ :=
  if IsLeapYear year then 1 else 0

def monthLength (year : ℕ) : ℕ → ℕ
  | 2 => 28 + leapDays year
  | 4 | 6 | 9 | 11 => 30
  | _ => 31

def yearLength (year : ℕ) : ℕ :=
  ∑ month ∈ Ico 1 13, monthLength year month

structure Date.IsValid (d : Date) : Prop where
  month_mem : d.month ∈ Ico 1 13
  day_mem : d.day ∈ Icc 1 (monthLength d.year d.month)

instance : DecidablePred Date.IsValid := fun d =>
  decidable_of_iff (d.month ∈ Ico 1 13 ∧ d.day ∈ Icc 1 (monthLength d.year d.month))
    ⟨fun h => ⟨h.1, h.2⟩, fun h => ⟨h.1, h.2⟩⟩

/-- The days from the beginning of the year 0 to the date. -/
def Date.daysBefore (d : Date) : ℕ :=
  ∑ year ∈ range d.year, yearLength year + ∑ month ∈ Ico 1 d.month, monthLength d.year month +
    (d.day - 1)

section Lengths

lemma leapDays_le_one (year : ℕ) : leapDays year ≤ 1 := by
  rw [leapDays]
  split_ifs <;> decide

lemma monthLength_le (year month : ℕ) : monthLength year month ≤ 31 := by
  have hleap := leapDays_le_one year
  rw [monthLength.eq_def]
  split <;> omega

lemma yearLength_eq (year : ℕ) : yearLength year = 365 + leapDays year := by
  simp only [yearLength, monthLength, sum_Ico_succ_top, Nat.reduceLeDiff, Ico_self, sum_empty]
  omega

/-- Of the years before a given one, a fourth are leap years, less those that end a century and more by
those that end four of them. -/
lemma sum_yearLength (year : ℕ) : ∑ y ∈ range year, yearLength y + (year + 99) / 100 =
    365 * year + (year + 3) / 4 + (year + 399) / 400 := by
  induction year with
  | zero => rfl
  | succ year ih =>
    rw [sum_range_succ, yearLength_eq, leapDays]
    split_ifs with hleap <;> rw [IsLeapYear] at hleap <;> omega

lemma sum_monthLength (year : ℕ) {month : ℕ} (h : month < 10) :
    ∑ m ∈ Ico 1 (month + 3), monthLength year m = 59 + leapDays year + (153 * month + 2) / 5 := by
  interval_cases month <;>
    simp only [monthLength, sum_Ico_succ_top, Nat.reduceLeDiff, Nat.reduceAdd, Ico_self,
      sum_empty] <;> omega

lemma monthLength_eq (year : ℕ) {month : ℕ} (h : month < 10) :
    monthLength year (month + 3) + (153 * month + 2) / 5 = (153 * (month + 1) + 2) / 5 := by
  interval_cases month <;> rfl

end Lengths

section Days

lemma marchYear_div (era : ℕ) {century four single : ℕ} (hcentury : century ≤ 3) (hfour : four ≤ 24)
    (hsingle : single ≤ 3) :
    (era * 400 + century * 100 + four * 4 + single) / 4 = era * 100 + century * 25 + four ∧
      (era * 400 + century * 100 + four * 4 + single) / 100 = era * 4 + century ∧
      (era * 400 + century * 100 + four * 4 + single) / 400 = era := by
  omega

/-- A year that begins with March ends with the leap day of the year that it reaches into. -/
lemma exists_marchYear (days : ℕ) : ∃ year inYear, Date.ofDays days = Date.ofMarchYear year inYear ∧
    days + year / 100 = 365 * year + year / 4 + year / 400 + inYear ∧
    inYear < 365 + leapDays (year + 1) := by
  refine ⟨_, _, rfl, ?_⟩
  generalize hera : days / 146097 = era
  generalize hinEra : days % 146097 = inEra
  generalize hcentury : min (inEra / 36524) 3 = century
  generalize hinCentury : inEra - century * 36524 = inCentury
  generalize hfour : inCentury / 1461 = four
  generalize hinFour : inCentury % 1461 = inFour
  generalize hsingle : min (inFour / 365) 3 = single
  generalize hinYear : inFour - single * 365 = inYear
  -- Only the last century of an era, and only the last year of four, can be a day longer.
  have hlongCentury : inEra = century * 36524 + inCentury ∧ century ≤ 3 ∧ inCentury ≤ 36524 ∧
      (inCentury = 36524 → century = 3) := by omega
  have hlongYear : inFour = single * 365 + inYear ∧ single ≤ 3 ∧ inYear ≤ 365 ∧
      (inYear = 365 → single = 3) := by omega
  have hdays : days = era * 146097 + century * 36524 + four * 1461 + single * 365 + inYear := by omega
  obtain ⟨hdiv4, hdiv100, hdiv400⟩ :=
    marchYear_div era hlongCentury.2.1 (show four ≤ 24 by omega) hlongYear.2.1
  constructor
  · rw [hdiv4, hdiv100, hdiv400]
    omega
  · rw [leapDays]
    split_ifs with hleap
    · omega
    · rw [IsLeapYear] at hleap
      omega

/-- Ten months of the year end in the year in which it begins, January and February in the next. -/
lemma ofMarchYear_eq {year inYear : ℕ} (h : inYear < 365 + leapDays (year + 1)) :
    (∃ month < 10, (153 * month + 2) / 5 ≤ inYear ∧ inYear < (153 * (month + 1) + 2) / 5 ∧
      Date.ofMarchYear year inYear = ⟨year, month + 3, inYear - (153 * month + 2) / 5 + 1⟩) ∨
    (306 ≤ inYear ∧ inYear < 337 ∧ Date.ofMarchYear year inYear = ⟨year + 1, 1, inYear - 306 + 1⟩) ∨
    (337 ≤ inYear ∧ Date.ofMarchYear year inYear = ⟨year + 1, 2, inYear - 337 + 1⟩) := by
  have hleap := leapDays_le_one (year + 1)
  rw [Date.ofMarchYear]
  generalize hmonth : (5 * inYear + 2) / 153 = month
  obtain hlate | rfl | rfl : month < 10 ∨ month = 10 ∨ month = 11 := by omega
  · exact .inl ⟨month, hlate, by omega, by omega, if_pos hlate⟩
  · exact .inr (.inl ⟨by omega, by omega, rfl⟩)
  · exact .inr (.inr ⟨by omega, rfl⟩)

lemma isValid_ofMarchYear {year inYear : ℕ} (h : inYear < 365 + leapDays (year + 1)) :
    (Date.ofMarchYear year inYear).IsValid := by
  obtain ⟨month, hmonth, hlow, hhigh, heq⟩ | ⟨hlow, hhigh, heq⟩ | ⟨hlow, heq⟩ := ofMarchYear_eq h <;>
    rw [heq]
  · have hlength := monthLength_eq year hmonth
    refine ⟨mem_Ico.2 ?_, mem_Icc.2 ?_⟩ <;> dsimp only <;> omega
  · refine ⟨mem_Ico.2 ?_, mem_Icc.2 ?_⟩ <;> simp only [monthLength] <;> omega
  · refine ⟨mem_Ico.2 ?_, mem_Icc.2 ?_⟩ <;> simp only [monthLength] <;> omega

lemma daysBefore_ofMarchYear {year inYear : ℕ} (h : inYear < 365 + leapDays (year + 1)) :
    (Date.ofMarchYear year inYear).daysBefore + year / 100 =
      365 * year + year / 4 + year / 400 + inYear + 60 := by
  have hnext := sum_yearLength (year + 1)
  obtain ⟨month, hmonth, hlow, hhigh, heq⟩ | ⟨hlow, hhigh, heq⟩ | ⟨hlow, heq⟩ := ofMarchYear_eq h <;>
    rw [heq, Date.daysBefore] <;> dsimp only
  · rw [sum_monthLength year hmonth]
    rw [sum_range_succ, yearLength_eq] at hnext
    omega
  · rw [Ico_self, sum_empty]
    omega
  · rw [sum_Ico_succ_top le_rfl, Ico_self, sum_empty]
    simp only [monthLength]
    omega

theorem isValid_ofDays (days : ℕ) : (Date.ofDays days).IsValid := by
  obtain ⟨year, inYear, heq, -, hlt⟩ := exists_marchYear days
  exact heq ▸ isValid_ofMarchYear hlt

/-- Sixty days come before the first of March of the year 0. -/
theorem daysBefore_ofDays (days : ℕ) : (Date.ofDays days).daysBefore = days + 60 := by
  obtain ⟨year, inYear, heq, hdays, hlt⟩ := exists_marchYear days
  have hbefore := daysBefore_ofMarchYear hlt
  rw [heq]
  omega

example : Date.ofDays (epochDays + 11016) = ⟨2000, 2, 29⟩ := by decide

end Days

section Order

variable {d e : Date}

def Date.numbers (d : Date) : List ℕ :=
  [d.year, d.month, d.day]

lemma Date.numbers_injective (h : d.numbers = e.numbers) : d = e := by
  cases d
  cases e
  simpa [Date.numbers] using h

lemma sum_monthLength_mono (year : ℕ) {m n : ℕ} (h : m ≤ n) :
    ∑ month ∈ Ico 1 m, monthLength year month ≤ ∑ month ∈ Ico 1 n, monthLength year month :=
  sum_le_sum_of_subset (Ico_subset_Ico_right h)

/-- The date lies before the end of its month. -/
lemma Date.IsValid.lt_nextMonth (hd : d.IsValid) :
    d.daysBefore < ∑ year ∈ range d.year, yearLength year +
      ∑ month ∈ Ico 1 (d.month + 1), monthLength d.year month := by
  have hday := mem_Icc.1 hd.day_mem
  rw [Date.daysBefore, sum_Ico_succ_top (mem_Ico.1 hd.month_mem).1]
  omega

lemma Date.IsValid.lt_nextYear (hd : d.IsValid) :
    d.daysBefore < ∑ year ∈ range (d.year + 1), yearLength year := by
  have hmonth := sum_monthLength_mono d.year (show d.month + 1 ≤ 13 from (mem_Ico.1 hd.month_mem).2)
  have hday := hd.lt_nextMonth
  rw [sum_range_succ, yearLength]
  omega

/-- An earlier date, the year first, then the month and then the day, is that of an earlier day. -/
theorem daysBefore_lt (hd : d.IsValid) (h : d.numbers < e.numbers) :
    d.daysBefore < e.daysBefore := by
  simp only [Date.numbers, List.cons_lt_cons_iff, List.not_lt_nil, and_false, or_false] at h
  rcases h with hyear | ⟨hyear, hmonth | ⟨hmonth, hday⟩⟩
  · calc d.daysBefore
        < ∑ year ∈ range (d.year + 1), yearLength year := hd.lt_nextYear
      _ ≤ ∑ year ∈ range e.year, yearLength year := sum_le_sum_of_subset (range_mono hyear)
      _ ≤ e.daysBefore := by
          rw [Date.daysBefore, Nat.add_assoc]
          exact Nat.le_add_right ..
  · calc d.daysBefore
        < ∑ year ∈ range d.year, yearLength year +
            ∑ month ∈ Ico 1 (d.month + 1), monthLength d.year month := hd.lt_nextMonth
      _ ≤ ∑ year ∈ range e.year, yearLength year +
            ∑ month ∈ Ico 1 e.month, monthLength e.year month := by
          rw [hyear]
          exact Nat.add_le_add_left (sum_monthLength_mono e.year hmonth) _
      _ ≤ e.daysBefore := Nat.le_add_right ..
  · have hfirst := mem_Icc.1 hd.day_mem
    rw [Date.daysBefore, Date.daysBefore, hyear, hmonth]
    omega

end Order

end IncidentTriage.Calendar
