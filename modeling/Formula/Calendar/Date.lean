set_option autoImplicit false

/-!
# Dates

Dates of the proleptic Gregorian calendar are counted in days from 1 January 1970. Years are counted
astronomically: year 0 precedes year 1.

## Main definitions

* `Formula.Date.year`, `Formula.Date.month`, `Formula.Date.day`, `Formula.Date.ordinal`,
  `Formula.Date.weekday` — what a date is called.
* `Formula.Date.isoYear`, `Formula.Date.isoWeek` — the year and week that its Thursday lies in.
* `Formula.Date.ofYmd?`, `Formula.Date.ofOrdinal?`, `Formula.Date.ofIsoWeek?`,
  `Formula.Date.ofWeek?` — the date with given names, inside the range of years.
-/

namespace Formula

/-- A date, as the days since 1 January 1970. -/
structure Date where
  days : Int
deriving DecidableEq

/-- A day of the week, Monday being `0`. -/
abbrev Weekday := Nat

namespace Date

/-- The first year that dates may lie in. -/
def leastYear : Int := -262143

/-- The last year that dates may lie in. -/
def greatestYear : Int := 262142

/-- Leap years: every fourth year, centuries only every fourth time. -/
def isLeap (year : Int) : Bool :=
  year % 4 == 0 && (year % 100 != 0 || year % 400 == 0)

/-- The number of days in a month. -/
def daysInMonth (year : Int) (month : Nat) : Nat :=
  if month = 2 then (if isLeap year then 29 else 28)
  else if month = 4 ∨ month = 6 ∨ month = 9 ∨ month = 11 then 30
  else 31

/-- The number of days in a year. -/
def daysInYear (year : Int) : Nat :=
  if isLeap year then 366 else 365

/-- The days from 1 January 1970 to 1 January of a year. -/
def yearStart (year : Int) : Int :=
  let y := year - 1
  365 * y + y / 4 - y / 100 + y / 400 - 719162

/-- The days of a year before a month. -/
def daysBefore (year : Int) (month : Nat) : Nat :=
  (List.range (month - 1)).foldl (fun days m => days + daysInMonth year (m + 1)) 0

/-- The year of a date. Four hundred years have 146097 days, so the estimate is at most one year
too high. -/
def year (d : Date) : Int :=
  let estimate := (400 * (d.days + 719162)) / 146097 + 1
  let estimate := if d.days < yearStart estimate then estimate - 1 else estimate
  if yearStart (estimate + 1) ≤ d.days then estimate + 1 else estimate

/-- The day of the year, from `1` on. -/
def ordinal (d : Date) : Nat :=
  (d.days - yearStart d.year).toNat + 1

/-- The month, from `1` on: the last one that starts no later than the date. -/
def month (d : Date) : Nat :=
  (List.range 12).foldl
    (fun best m => if daysBefore d.year (m + 1) < d.ordinal then m + 1 else best) 1

/-- The day of the month, from `1` on. -/
def day (d : Date) : Nat :=
  d.ordinal - daysBefore d.year d.month

/-- The quarter of the year, from `1` on. -/
def quarter (d : Date) : Nat :=
  (d.month - 1) / 3 + 1

/-- The day of the week; 1 January 1970 was a Thursday. -/
def weekday (d : Date) : Weekday :=
  ((d.days + 3) % 7).toNat

/-- The days from the last `start` of the week up to a day of the week. -/
def daysSince (weekday start : Weekday) : Nat :=
  (weekday + 7 - start) % 7

/-- The week of the year when weeks start on a given day of the week; days before the first such day
are in week `0`. -/
def weekFrom (start : Weekday) (d : Date) : Nat :=
  (d.ordinal + 6 - daysSince d.weekday start) / 7

/-- The Thursday of the week, counted from Monday, that a date lies in. -/
def thursday (d : Date) : Date :=
  ⟨d.days - d.weekday + 3⟩

/-- The year that the week of a date belongs to. -/
def isoYear (d : Date) : Int :=
  d.thursday.year

/-- The number of the week in that year, from `1` on. -/
def isoWeek (d : Date) : Nat :=
  (d.thursday.ordinal - 1) / 7 + 1

/-- The date, if its year is one that dates may lie in. -/
def inRange? (d : Date) : Option Date :=
  if leastYear ≤ d.year ∧ d.year ≤ greatestYear then some d else none

/-- The day of a year with the given number. -/
def ofOrdinal? (year : Int) (ordinal : Nat) : Option Date :=
  if leastYear ≤ year ∧ year ≤ greatestYear ∧ 1 ≤ ordinal ∧ ordinal ≤ daysInYear year then
    some ⟨yearStart year + ordinal - 1⟩
  else none

/-- The date with a year, a month and a day. -/
def ofYmd? (year : Int) (month day : Nat) : Option Date :=
  if leastYear ≤ year ∧ year ≤ greatestYear ∧ 1 ≤ month ∧ month ≤ 12 ∧ 1 ≤ day ∧
      day ≤ daysInMonth year month then
    some ⟨yearStart year + daysBefore year month + day - 1⟩
  else none

/-- The number of weeks of a year: 53 if 1 January is a Thursday, or a Wednesday of a leap year. -/
def isoWeeks (year : Int) : Nat :=
  let first := (⟨yearStart year⟩ : Date).weekday
  if first = 3 ∨ (first = 2 ∧ isLeap year) then 53 else 52

/-- The date with a day of the week in a numbered week of a year. -/
def ofIsoWeek? (year : Int) (week : Nat) (weekday : Weekday) : Option Date :=
  if leastYear ≤ year ∧ year ≤ greatestYear ∧ 1 ≤ week ∧ week ≤ isoWeeks year then
    -- 4 January always lies in the first week
    let monday := (⟨yearStart year + 3⟩ : Date).thursday.days - 3
    inRange? ⟨monday + 7 * ((week : Int) - 1) + weekday⟩
  else none

/-- The date with a day of the week in a week of a year, weeks starting on `start`. It must lie in
that year. -/
def ofWeek? (year : Int) (week : Nat) (weekday start : Weekday) : Option Date :=
  let firstStart : Int := 1 + daysSince start (⟨yearStart year⟩ : Date).weekday
  let ordinal : Int := firstStart + 7 * ((week : Int) - 1) + daysSince weekday start
  if 1 ≤ ordinal then ofOrdinal? year ordinal.toNat else none

end Date

end Formula
