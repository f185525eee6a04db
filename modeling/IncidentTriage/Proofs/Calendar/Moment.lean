import IncidentTriage.Proofs.Calendar.Gregorian
import IncidentTriage.Proofs.Decimal.Columns
import Mathlib.Data.String.Basic

/-!
# Moments

A moment is a day of the calendar and a time of that day to the millisecond. Every count of
milliseconds from the beginning of 1970 on is that of exactly one moment. As long as years have four
digits, the text of a moment is read back as the moment, and a later moment has a later text.
-/

namespace IncidentTriage.Calendar
open IncidentTriage.Decimal

structure Moment where
  date : Date
  hour : Fin 24
  minute : Fin 60
  second : Fin 60
  milli : Fin 1000
  isValid : date.IsValid

def epoch : Date :=
  ⟨1970, 1, 1⟩

namespace Moment

/-- The milliseconds from the beginning of the day on; every minute has sixty seconds. -/
def ofDay (m : Moment) : ℕ :=
  ((m.hour.val * 60 + m.minute.val) * 60 + m.second.val) * 1000 + m.milli.val

/-- The milliseconds from the beginning of 1970 on. -/
def millis (m : Moment) : ℤ :=
  ((m.date.daysBefore : ℤ) - epoch.daysBefore) * 86400000 + m.ofDay

def timeNumbers (m : Moment) : List ℕ :=
  [m.hour.val, m.minute.val, m.second.val, m.milli.val]

def numbers (m : Moment) : List ℕ :=
  m.date.numbers ++ m.timeNumbers

def columns : List Column :=
  [⟨4, ['-']⟩, ⟨2, ['-']⟩, ⟨2, [' ']⟩, ⟨2, [':']⟩, ⟨2, [':']⟩, ⟨2, ['.']⟩, ⟨3, [' ', 'U', 'T', 'C']⟩]

def text (m : Moment) : String :=
  String.ofList (Column.writeRow columns m.numbers)

def ofNumbers? : List ℕ → Option Moment
  | [year, month, day, hour, minute, second, milli] =>
    if h : (Date.mk year month day).IsValid ∧ hour < 24 ∧ minute < 60 ∧ second < 60 ∧ milli < 1000 then
      some {
        date := ⟨year, month, day⟩
        hour := ⟨hour, h.2.1⟩
        minute := ⟨minute, h.2.2.1⟩
        second := ⟨second, h.2.2.2.1⟩
        milli := ⟨milli, h.2.2.2.2⟩
        isValid := h.1 }
    else none
  | _ => none

/-- The moment that a text gives by its numbers. -/
def read? (text : String) : Option Moment :=
  (Column.readRow? columns text.toList).bind ofNumbers?

variable {m m' : Moment}

lemma ofNumbers?_numbers (m : Moment) : ofNumbers? m.numbers = some m :=
  dif_pos ⟨m.isValid, m.hour.isLt, m.minute.isLt, m.second.isLt, m.milli.isLt⟩

lemma numbers_injective (h : m.numbers = m'.numbers) : m = m' := by
  rw [← Option.some_inj, ← ofNumbers?_numbers, h, ofNumbers?_numbers]

section Order

lemma ofDay_lt_day (m : Moment) : m.ofDay < 86400000 := by
  rw [ofDay]
  omega

lemma ofDay_lt (h : m.timeNumbers < m'.timeNumbers) : m.ofDay < m'.ofDay := by
  simp only [timeNumbers, List.cons_lt_cons_iff, List.not_lt_nil, and_false, or_false] at h
  rw [ofDay, ofDay]
  omega

theorem millis_lt (h : m.numbers < m'.numbers) : m.millis < m'.millis := by
  have hend := m.ofDay_lt_day
  have hlength : m.date.numbers.length = m'.date.numbers.length := rfl
  rw [millis, millis]
  rcases (append_lt_append_iff hlength).1 h with hdate | ⟨hdate, htime⟩
  · have hdays := daysBefore_lt m.isValid hdate
    omega
  · have hofDay := ofDay_lt htime
    rw [Date.numbers_injective hdate]
    omega

lemma eq_of_millis (h : m.millis = m'.millis) : m = m' := by
  rcases lt_trichotomy m.numbers m'.numbers with hlt | heq | hgt
  · exact absurd h (millis_lt hlt).ne
  · exact numbers_injective heq
  · exact absurd h (millis_lt hgt).ne'

lemma numbers_le (h : m.millis ≤ m'.millis) : m.numbers ≤ m'.numbers :=
  not_lt.1 fun hlt => (millis_lt hlt).not_ge h

end Order

section Existence

lemma daysBefore_epoch : epoch.daysBefore = epochDays + 60 := by
  -- With a variable for the year the sum over the years is not evaluated.
  obtain ⟨year, hyear⟩ : ∃ year, year = 1970 := ⟨_, rfl⟩
  have hdays := sum_yearLength year
  rw [epoch, ← hyear, Date.daysBefore, Finset.Ico_self, Finset.sum_empty, epochDays]
  dsimp only
  omega

/-- The moment so many milliseconds after the beginning of 1970. -/
def ofMillis (millis : ℤ) : Moment where
  date := Date.ofDays (millis / 86400000 + epochDays).toNat
  hour := ⟨(millis % 86400000).toNat / 3600000, by omega⟩
  minute := ⟨(millis % 86400000).toNat / 60000 % 60, Nat.mod_lt _ (by decide)⟩
  second := ⟨(millis % 86400000).toNat / 1000 % 60, Nat.mod_lt _ (by decide)⟩
  milli := ⟨(millis % 86400000).toNat % 1000, Nat.mod_lt _ (by decide)⟩
  isValid := isValid_ofDays _

lemma millis_ofMillis {millis : ℤ} (h : 0 ≤ millis) : (ofMillis millis).millis = millis := by
  rw [Moment.millis, daysBefore_epoch, ofMillis, daysBefore_ofDays, ofDay]
  dsimp only
  omega

end Existence

section Years

lemma le_year (h : 0 ≤ m.millis) : 1970 ≤ m.date.year := by
  have hyears := sum_yearLength (m.date.year + 1)
  have hnext := m.isValid.lt_nextYear
  have hend := m.ofDay_lt_day
  rw [millis, daysBefore_epoch, epochDays] at h
  omega

lemma year_lt (h : m.millis < 253402300800000) : m.date.year < 10000 := by
  have hyears := sum_yearLength m.date.year
  rw [millis, daysBefore_epoch, epochDays, Date.daysBefore] at h
  omega

/-- From the beginning of 1970 to the end of the year 9999. -/
lemma year_ofMillis {millis : ℤ} (h0 : 0 ≤ millis) (h : millis < 253402300800000) :
    1970 ≤ (ofMillis millis).date.year ∧ (ofMillis millis).date.year < 10000 := by
  have hmillis := millis_ofMillis h0
  exact ⟨le_year (hmillis.ge.trans' h0), year_lt (hmillis.trans_lt h)⟩

end Years

section Text

lemma holds_numbers (h : m.date.year < 10000) : List.Forall₂ Column.Holds columns m.numbers := by
  have hmonth := Finset.mem_Ico.1 m.isValid.month_mem
  have hday := Finset.mem_Icc.1 m.isValid.day_mem
  have hlength := monthLength_le m.date.year m.date.month
  have hyear : (padded 4 m.date.year).length = 4 := length_padded (by decide) h
  have htwo {n : ℕ} (hn : n < 100) : (padded 2 n).length = 2 := length_padded (by decide) hn
  have hmilli : (padded 3 m.milli.val).length = 3 := length_padded (by decide) m.milli.isLt
  exact .cons hyear (.cons (htwo (by omega)) (.cons (htwo (by omega)) (.cons (htwo (by omega))
    (.cons (htwo (by omega)) (.cons (htwo (by omega)) (.cons hmilli .nil))))))

theorem read?_text (h : m.date.year < 10000) : read? m.text = some m := by
  rw [read?, text, String.toList_ofList, Column.readRow?_writeRow (holds_numbers h)]
  exact ofNumbers?_numbers m

theorem text_le (hyear : m'.date.year < 10000) (h : m.millis ≤ m'.millis) : m.text ≤ m'.text := by
  rcases (numbers_le h).lt_or_eq with hlt | heq
  · have hyear' : m.date.year < 10000 := by
      refine Nat.lt_of_le_of_lt ?_ hyear
      simp only [numbers, Date.numbers, List.cons_append, List.cons_lt_cons_iff] at hlt
      omega
    rw [String.le_iff_toList_le]
    simp only [text, String.toList_ofList]
    exact (Column.writeRow_lt (holds_numbers hyear') (holds_numbers hyear) hlt).le
  · rw [numbers_injective heq]

/-- Years of four digits are written as they are. -/
theorem instantText_eq {micros : ℤ} (hyear : 1000 ≤ (ofMillis (micros / 1000)).date.year) :
    instantText micros = (ofMillis (micros / 1000)).text := by
  have hpadded : padded 4 (ofMillis (micros / 1000)).date.year =
      (toString (ofMillis (micros / 1000)).date.year).toList := by
    rw [padded_of_le (by decide) hyear, Nat.toString_eq_repr, Nat.toList_repr]
  apply String.toList_injective
  rw [text, String.toList_ofList]
  simp only [Column.writeRow, columns, numbers, Date.numbers, timeNumbers, List.cons_append,
    List.nil_append, List.zipWith_cons_cons, List.zipWith_nil_right, List.flatten_cons,
    List.flatten_nil, Column.write, hpadded]
  simp [instantText, ofMillis]

end Text

end Moment

end IncidentTriage.Calendar
