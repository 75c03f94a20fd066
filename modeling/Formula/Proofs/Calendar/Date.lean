import Formula.Calendar.Date
import Mathlib.Tactic.Lemma

set_option autoImplicit false

/-!
# Dates and their names

Every date has one year, month and day, and they lead back to it. The year of a date is decided by the
days on which years start. Its month is decided by the day of the year and by whether there is a
29 February, so the months of one leap year and of one other year stand for those of all years.

## Main definitions

* `Formula.Date.monthOf` — the month of a numbered day of a year.

## Main results

* `Formula.Date.le_year_iff` — years are in the order of the days on which they start.
* `Formula.Date.month_spec` — the month of a date starts no later than the date, and ends no earlier.
* `Formula.Date.ofYmd?_names` — a date is the one with its year, month and day.
-/

namespace Formula.Date

variable {y y' : Int}

/-! ## Years -/

/-- The rule for leap years of the Gregorian calendar. -/
lemma isLeap_iff : isLeap y = true ↔ y % 4 = 0 ∧ (y % 100 ≠ 0 ∨ y % 400 = 0) := by
  simp [isLeap]

/-- A year starts when the one before it has passed.

**Proof sketch.** There is one case for each length of a year. In both of them the numbers of the leap
years before differ as the rule says, which is arithmetic. -/
lemma yearStart_succ (y : Int) : yearStart (y + 1) = yearStart y + daysInYear y := by
  unfold yearStart daysInYear
  dsimp only
  split
  all_goals
    next h =>
      rw [isLeap_iff] at h
      omega

/-- The year of a date starts no later than the date. -/
lemma yearStart_year_le (d : Date) : yearStart d.year ≤ d.days := by
  unfold year yearStart
  dsimp only
  split <;> split <;> omega

/-- The year after the one of a date starts later than the date. -/
lemma lt_yearStart_succ_year (d : Date) : d.days < yearStart (d.year + 1) := by
  unfold year yearStart
  dsimp only
  split <;> split <;> omega

/-- Years are in the order of the days on which they start. -/
lemma le_year_iff {d : Date} : y ≤ d.year ↔ yearStart y ≤ d.days := by
  have hle := yearStart_year_le d
  have hlt := lt_yearStart_succ_year d
  unfold yearStart at *
  dsimp only at *
  omega

/-! ## Days of the year -/

/-- A date is counted from the start of its year. -/
lemma days_eq (d : Date) : d.days = yearStart d.year + d.ordinal - 1 := by
  have hle := yearStart_year_le d
  unfold ordinal
  omega

/-- The days of a year are counted from one. -/
lemma ordinal_pos (d : Date) : 0 < d.ordinal :=
  Nat.succ_pos _

/-- A year has no more days than it has. -/
lemma ordinal_le (d : Date) : d.ordinal ≤ daysInYear d.year := by
  have hlt := lt_yearStart_succ_year d
  have hdays := days_eq d
  rw [yearStart_succ] at hlt
  omega

/-! ## Months -/

/-- The month of a numbered day of a year: the last one that starts no later. -/
def monthOf (year : Int) (ordinal : Nat) : Nat :=
  (List.range 12).foldl (fun best m => if daysBefore year (m + 1) < ordinal then m + 1 else best) 1

/-- The month of a date depends on its year and on the number of its day alone. -/
lemma month_eq (d : Date) : d.month = monthOf d.year d.ordinal :=
  rfl

section SameLength

variable (h : isLeap y = isLeap y')

include h

/-- A month of two such years has the same length. -/
lemma daysInMonth_congr (month : Nat) : daysInMonth y month = daysInMonth y' month := by
  rw [daysInMonth, daysInMonth, h]

/-- A month of two such years starts at the same day. -/
lemma daysBefore_congr (month : Nat) : daysBefore y month = daysBefore y' month := by
  simp only [daysBefore, daysInMonth_congr h]

/-- A day of two such years lies in the same month. -/
lemma monthOf_congr (ordinal : Nat) : monthOf y ordinal = monthOf y' ordinal := by
  simp only [monthOf, daysBefore_congr h]

/-- Two such years have the same length. -/
lemma daysInYear_congr : daysInYear y = daysInYear y' := by
  rw [daysInYear, daysInYear, h]

end SameLength

/-- A day of a year lies in the month that it is said to lie in. -/
def LiesInMonth (year : Int) (ordinal month : Nat) : Prop :=
  1 ≤ month ∧ month ≤ 12 ∧ daysBefore year month < ordinal ∧
    ordinal ≤ daysBefore year month + daysInMonth year month

instance (year : Int) (ordinal month : Nat) : Decidable (LiesInMonth year ordinal month) :=
  inferInstanceAs (Decidable (_ ∧ _))

/-- In a common year and in a leap year each day lies in the month that it is said to lie in. -/
lemma liesInMonth_monthOf_sample : ∀ year ∈ [(1999 : Int), 2000], ∀ ordinal ≤ daysInYear year,
    0 < ordinal → LiesInMonth year ordinal (monthOf year ordinal) := by
  decide +kernel

/-- In every year each day lies in the month that it is said to lie in.

**Proof sketch.** Whether a day lies in a month depends on the length of the year alone. The two years
of the sample have both lengths. -/
lemma liesInMonth_monthOf {ordinal : Nat} (hpos : 0 < ordinal) (hle : ordinal ≤ daysInYear y) :
    LiesInMonth y ordinal (monthOf y ordinal) := by
  -- all years are as long, month by month, as one of the two of the sample
  have hsample : ∃ year ∈ [(1999 : Int), 2000], isLeap y = isLeap year := by
    cases isLeap y
    · exact ⟨1999, by simp, rfl⟩
    · exact ⟨2000, by simp, rfl⟩
  obtain ⟨year, hmem, hleap⟩ := hsample
  rw [daysInYear_congr hleap] at hle
  have hlies := liesInMonth_monthOf_sample year hmem ordinal hle hpos
  rwa [← monthOf_congr hleap, LiesInMonth, ← daysBefore_congr hleap, ← daysInMonth_congr hleap] at hlies

/-- The month of a date starts no later than the date, and ends no earlier. -/
lemma month_spec (d : Date) : LiesInMonth d.year d.ordinal d.month := by
  rw [month_eq]
  exact liesInMonth_monthOf (ordinal_pos d) (ordinal_le d)

/-- The days of a month are counted from one. -/
lemma day_pos (d : Date) : 0 < d.day := by
  obtain ⟨-, -, hlt, -⟩ := month_spec d
  unfold day
  omega

/-- A month has no more days than it has. -/
lemma day_le (d : Date) : d.day ≤ daysInMonth d.year d.month := by
  obtain ⟨-, -, -, hle⟩ := month_spec d
  unfold day
  omega

/-- No month has more than 31 days. -/
lemma daysInMonth_le (year : Int) (month : Nat) : daysInMonth year month ≤ 31 := by
  unfold daysInMonth
  split
  · split <;> decide
  · split <;> decide

/-- A date is the one with its year, month and day.

**Proof sketch.** The year, the month and the day are within their bounds, and the days before them add
up to the date. -/
lemma ofYmd?_names {d : Date} (hleast : leastYear ≤ d.year) (hgreatest : d.year ≤ greatestYear) :
    ofYmd? d.year d.month d.day = some d := by
  obtain ⟨hmonth, hmonth', hlt, -⟩ := month_spec d
  have hdays : yearStart d.year + daysBefore d.year d.month + d.day - 1 = d.days := by
    have heq := days_eq d
    unfold day
    omega
  rw [ofYmd?, if_pos ⟨hleast, hgreatest, hmonth, hmonth', day_pos d, day_le d⟩, hdays]

end Formula.Date
