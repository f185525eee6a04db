import IncidentTriage.Decimal.Fixed

/-!
# Dates and times

An instant is a whole number of microseconds since the beginning of 1970, universal time. It is
shown as a date of the Gregorian calendar and a time of day to the millisecond. Before that it
passes through a floating-point number of seconds, whose fraction is scaled to microseconds, as a
floating-point number again, and rounded; the calendar runs from the year 1 to the year 9999.
-/

namespace IncidentTriage.Calendar
open IncidentTriage.Decimal

structure Date where
  year : Nat
  month : Nat
  day : Nat
  deriving DecidableEq, Repr

/-- Days from the first of March of the year 0 to the beginning of 1970. -/
def epochDays : Nat := 719468

/-- The date of a day, counted from 0, of a year that begins with March, so that a leap day is the last
day of its year. From March on, five months have 153 days. -/
def Date.ofMarchYear (year inYear : Nat) : Date :=
  let month := (5 * inYear + 2) / 153
  let day := inYear - (153 * month + 2) / 5 + 1
  if month < 10 then ⟨year, month + 3, day⟩ else ⟨year + 1, month - 9, day⟩

/-- The date a number of days after the first of March of the year 0. Years are counted from March on:
four hundred of them have 146097 days, a century 36524 of these or, the last one, one more, and four
years 1461 or, where a century ends without a leap day, one less. -/
def Date.ofDays (days : Nat) : Date :=
  let inEra := days % 146097
  let century := min (inEra / 36524) 3
  let inCentury := inEra - century * 36524
  let inFour := inCentury % 1461
  let single := min (inFour / 365) 3
  Date.ofMarchYear (days / 146097 * 400 + century * 100 + inCentury / 1461 * 4 + single)
    (inFour - single * 365)

/-- The microseconds that are read back from the seconds as a floating-point number. The whole
seconds are exact; their fraction is rounded once more when it is scaled. -/
def seenMicros (micros : Int) : Int :=
  let seconds := (nearestBinary micros.natAbs 1000000).quotient
  let scaled := (nearestBinary (seconds.1 % seconds.2 * 1000000) seconds.2).quotient
  let seen := seconds.1 / seconds.2 * 1000000 + roundHalfEven scaled.1 scaled.2
  if micros < 0 then -(seen : Int) else seen

def inCalendar (micros : Int) : Bool :=
  decide (-62135596800 * 1000000 ≤ micros) && decide (micros < 253402300800 * 1000000)

/-- The date and the time of day of an instant in the calendar, the microseconds cut to
milliseconds. -/
def instantText (micros : Int) : String :=
  let millis := micros / 1000
  let date := Date.ofDays (millis / 86400000 + epochDays).toNat
  let ofDay := (millis % 86400000).toNat
  let two := fun n => String.ofList (padded 2 n)
  toString date.year ++ "-" ++ two date.month ++ "-" ++ two date.day ++ " " ++
    two (ofDay / 3600000) ++ ":" ++ two (ofDay / 60000 % 60) ++ ":" ++
    two (ofDay / 1000 % 60) ++ "." ++ String.ofList (padded 3 (ofDay % 1000)) ++ " UTC"

/-- The text of an instant; outside the calendar it is shown as it was given. -/
def timeText (micros : Int) : String :=
  if inCalendar (seenMicros micros) then instantText (seenMicros micros)
  else toString micros ++ "µs since epoch"

end IncidentTriage.Calendar
