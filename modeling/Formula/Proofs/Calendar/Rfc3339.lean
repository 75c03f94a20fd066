import Formula.Calendar.Rfc3339
import Formula.Proofs.Calendar.Date
import Formula.Proofs.Decimal.Digits
import Mathlib.Algebra.Group.Nat.Defs
import Mathlib.Data.List.TakeWhile

set_option autoImplicit false

/-!
# Written timestamps are read

The fields of a written timestamp are numbers with as many digits as their readers take, so each reader
takes its own field and leaves the rest. Only the year may have more than four digits, or a sign: such
timestamps are not read.

## Main results

* `Formula.Calendar.number?_zeroPadded`, `Formula.Calendar.fraction?_fractionChars`,
  `Formula.Calendar.offset?_offsetChars` — the fields are read as what was written.
* `Formula.Timestamp.ofChars?_chars` — a timestamp in the years 0 to 9999 is read as itself.
* `Formula.Timestamp.ofChars?_chars_eq_none` — no other year is read.
-/

namespace Formula

namespace Calendar

variable {ds rest : List Char} {least most width n : Nat}

/-! ## Numbers -/

/-- The digits in front are read as digits are read everywhere. -/
lemma number?_eq (least most : Nat) (cs : List Char) :
    number? least most cs =
      let ds := (cs.take most).takeWhile Char.isDigit
      if ds.length < least ∨ greatestNumber < Decimal.ofDigitChars ds then none
      else some (Decimal.ofDigitChars ds, cs.drop ds.length) :=
  rfl

/-- What a reader of digits takes, if it takes them all and no more. -/
lemma number?_of_isDigit (hdigits : ∀ c ∈ ds, c.isDigit = true) (hleast : least ≤ ds.length)
    (hmost : ds.length ≤ most) (hstop : (rest.take (most - ds.length)).takeWhile Char.isDigit = [])
    (hvalue : Decimal.ofDigitChars ds ≤ greatestNumber) :
    number? least most (ds ++ rest) = some (Decimal.ofDigitChars ds, rest) := by
  have htaken : ((ds ++ rest).take most).takeWhile Char.isDigit = ds := by
    rw [List.take_append, List.take_of_length_le hmost, List.takeWhile_append_of_pos hdigits, hstop,
      List.append_nil]
  have hfits : ¬(ds.length < least ∨ greatestNumber < Decimal.ofDigitChars ds) := by omega
  simp only [number?_eq, htaken, if_neg hfits, List.drop_left]

/-- A padded number is written with digits alone. -/
lemma isDigit_of_mem_zeroPadded {c : Char} (h : c ∈ zeroPadded width n) : c.isDigit = true := by
  rcases List.mem_append.mp h with h | h
  · rw [List.eq_of_mem_replicate h]
    rfl
  · exact Decimal.isDigit_of_mem_digitChars h

/-- A number that fits into a width is padded to that width. -/
lemma length_zeroPadded (hwidth : 0 < width) (h : n < 10 ^ width) :
    (zeroPadded width n).length = width := by
  have hlength : (Decimal.digitChars n).length ≤ width :=
    (Nat.length_toDigits_le_iff (by decide) hwidth).mpr h
  rw [zeroPadded, padLeft, List.length_append, List.length_replicate]
  omega

/-- A padded number denotes itself.

**Proof sketch.** The zeros in front contribute nothing, and behind them the digits of the number are
read. -/
lemma ofDigitChars_zeroPadded (width n : Nat) : Decimal.ofDigitChars (zeroPadded width n) = n := by
  have hzeros (k : Nat) :
      (List.replicate k '0').foldl (fun n c => n * 10 + Decimal.digitValue c) 0 = 0 := by
    induction k with
    | zero => rfl
    | succ k ih => exact ih
  rw [zeroPadded, padLeft, Decimal.ofDigitChars, List.foldl_append, hzeros]
  exact Decimal.ofDigitChars_digitChars n

/-- A number is read behind which there may be anything, since no more digits are taken than it has.

**Proof sketch.** The text has exactly as many digits as are asked for, so no digit behind it is taken,
and they denote the number. -/
lemma number?_zeroPadded (hwidth : 0 < width) (h : n < 10 ^ width) (hvalue : n ≤ greatestNumber)
    (rest : List Char) : number? width width (zeroPadded width n ++ rest) = some (n, rest) := by
  have hlength := length_zeroPadded hwidth h
  have hread : number? width width (zeroPadded width n ++ rest) =
      some (Decimal.ofDigitChars (zeroPadded width n), rest) :=
    number?_of_isDigit (fun _ => isDigit_of_mem_zeroPadded) (Nat.le_of_eq hlength.symm)
      (Nat.le_of_eq hlength) (by simp [hlength]) (by rwa [ofDigitChars_zeroPadded])
  rwa [ofDigitChars_zeroPadded] at hread

/-- A number of two digits is read, whatever stands behind it. -/
lemma number?_two (h : n < 100) (rest : List Char) :
    number? 2 2 (zeroPadded 2 n ++ rest) = some (n, rest) :=
  number?_zeroPadded (by decide) h (Nat.le_trans (Nat.le_of_lt h) (by decide)) rest

/-! ## Fractions of a second -/

/-- A text with no digit in front. -/
def NoDigit (cs : List Char) : Prop :=
  ∀ c ∈ cs.head?, c.isDigit = false

/-- No digits are taken from such a text. -/
lemma NoDigit.takeWhile (h : NoDigit rest) : rest.takeWhile Char.isDigit = [] := by
  cases rest with
  | nil => rfl
  | cons c rest => exact List.takeWhile_cons_of_neg (by simp [h c rfl])

/-- No digits are dropped from such a text. -/
lemma NoDigit.dropWhile (h : NoDigit rest) : rest.dropWhile Char.isDigit = rest := by
  cases rest with
  | nil => rfl
  | cons c rest => exact List.dropWhile_cons_of_neg (by simp [h c rfl])

/-- The start of such a text has no digit in front either.

**Proof sketch.** If it is empty there is nothing in front, and otherwise it starts as the text does. -/
lemma NoDigit.take (h : NoDigit rest) (k : Nat) : NoDigit (rest.take k) := by
  cases k with
  | zero => exact nofun
  | succ k =>
    cases rest with
    | nil => exact nofun
    | cons c rest => exact h

/-- Places behind the point are read as the nanoseconds they stand for.

**Proof sketch.** Up to nine digits are read, and the digits end before nine. What is read is scaled by
the places that are left. -/
lemma nanos?_zeroPadded (hwidth : 0 < width) (hmost : width ≤ 9) (h : n < 10 ^ width)
    (hrest : NoDigit rest) :
    nanos? (zeroPadded width n ++ rest) = some (n * Nat.pow 10 (9 - width), rest) := by
  have hlength := length_zeroPadded hwidth h
  have hvalue : n ≤ greatestNumber := by
    have hpow : 10 ^ width ≤ 10 ^ 9 := Nat.pow_le_pow_right (by decide) hmost
    have hle : n ≤ 10 ^ 9 := Nat.le_of_lt (Nat.lt_of_lt_of_le h hpow)
    exact Nat.le_trans hle (by decide)
  have hread : number? 1 9 (zeroPadded width n ++ rest) =
      some (Decimal.ofDigitChars (zeroPadded width n), rest) :=
    number?_of_isDigit (fun _ => isDigit_of_mem_zeroPadded) (by omega) (by omega)
      (hrest.take _).takeWhile (by rwa [ofDigitChars_zeroPadded])
  rw [ofDigitChars_zeroPadded] at hread
  simp only [nanos?, hread, Option.map_some, hrest.dropWhile, List.length_append, hlength,
    Nat.add_sub_cancel]

/-- The places that are written are read as the nanoseconds they stand for.

**Proof sketch.** One case for each number of places that is written: none, three, six or nine. In each
of them the nanoseconds are divided and multiplied by the same power of ten, which loses nothing. -/
lemma fraction?_fractionChars {nano : Nat} (h : nano < nanosPerSecond) (hrest : NoDigit rest)
    (hpoint : rest.head? ≠ some '.') :
    Timestamp.fraction? (fractionChars nano ++ rest) = some (nano, rest) := by
  unfold nanosPerSecond at h
  unfold fractionChars
  split
  · next hzero =>
    subst hzero
    unfold Timestamp.fraction?
    split
    · next heq =>
      rw [List.nil_append] at heq
      exact absurd (congrArg List.head? heq) hpoint
    · rfl
  split
  · show nanos? (zeroPadded 3 (nano / 1000000) ++ rest) = _
    rw [nanos?_zeroPadded (by decide) (by decide) (by omega) hrest]
    congr 2
    show nano / 1000000 * 1000000 = nano
    omega
  split
  · show nanos? (zeroPadded 6 (nano / 1000) ++ rest) = _
    rw [nanos?_zeroPadded (by decide) (by decide) (by omega) hrest]
    congr 2
    show nano / 1000 * 1000 = nano
    omega
  · show nanos? (zeroPadded 9 nano ++ rest) = _
    rw [nanos?_zeroPadded (by decide) (by decide) h hrest]
    congr 2
    exact Nat.mul_one nano

/-! ## Offsets -/

/-- The minutes of an offset are read as themselves. -/
lemma offsetMinutes?_zeroPadded : ∀ minutes < 60,
    offsetMinutes? false (zeroPadded 2 minutes) = some (minutes, []) := by
  decide

/-- An offset of whole minutes is read as itself.

**Proof sketch.** The hours and the minutes are those of the absolute value, which is a whole number of
minutes, so rounding to minutes changes nothing. The sign in front of them is read back. -/
lemma offset?_offsetChars {offset : Int} (hminutes : offset % 60 = 0)
    (h : offset.natAbs ≤ Timestamp.greatestOffset) :
    offset? .strict (offsetChars .minutes true offset) = some (offset, []) := by
  have hgreatest : Timestamp.greatestOffset = 86340 := rfl
  have hhours : number? 2 2 (zeroPadded 2 ((offset.natAbs + 30) / 60 / 60) ++
      ':' :: zeroPadded 2 ((offset.natAbs + 30) / 60 % 60)) = some ((offset.natAbs + 30) / 60 / 60, _) :=
    number?_two (by omega) _
  have hrest := offsetMinutes?_zeroPadded ((offset.natAbs + 30) / 60 % 60) (by omega)
  -- `simp` may write `natAbs` in other ways, so it is a number of its own from here on.
  have habs := Int.natAbs_eq offset
  have hneg : offset < 0 ↔ offset ≠ offset.natAbs := by omega
  unfold offsetChars
  generalize offset.natAbs = n at *
  by_cases hsign : offset < 0
  · simp [offset?, OffsetForm.strict, hsign, hhours, char?, hrest]
    omega
  · simp [offset?, OffsetForm.strict, hsign, hhours, char?, hrest]
    omega

end Calendar

namespace Timestamp

open Calendar

variable {t : Timestamp}

/-! ## Local time -/

/-- The second of the local day is what is left of the local seconds behind whole days. -/
lemma second_cast (t : Timestamp) : ((t.localSecond : Nat) : Int) = t.localSeconds % secondsPerDay := by
  unfold localSecond secondsPerDay
  omega

/-- The second of the local day lies within a day. -/
lemma localSecond_lt (t : Timestamp) : t.localSecond < secondsPerDay := by
  have hcast := second_cast t
  unfold secondsPerDay at *
  omega

/-! The fields of a clock. -/

/-- There are 24 hours in a day. -/
lemma localHour_le (t : Timestamp) : t.localHour ≤ 23 := by
  have hlt := localSecond_lt t
  unfold secondsPerDay at hlt
  unfold localHour
  omega

/-- There are 60 minutes in an hour. -/
lemma localMinute_le (t : Timestamp) : t.localMinute ≤ 59 := by
  unfold localMinute
  omega

/-- The hour, the minute and the second make up the second of the day. -/
lemma localSecond_eq (t : Timestamp) :
    t.localHour * 3600 + t.localMinute * 60 + t.localSecond % 60 = t.localSecond := by
  unfold localHour localMinute
  omega

/-- The second that is shown is at most 60. -/
lemma shownSecond_le (t : Timestamp) : t.shownSecond ≤ 60 := by
  have hlt := t.nano_lt
  unfold shownSecond
  unfold nanosPerSecond at *
  omega

/-- Second 60 is shown for a leap second alone.

**Proof sketch.** With a leap second the second is 59 and the nanoseconds exceed a second, so 60 is
shown. Otherwise the second is shown as it is, and is at most 59. -/
lemma shownTime (h : nanosPerSecond ≤ t.nano → t.localSecond % 60 = 59) :
    (if t.shownSecond = 60 then (59, nanosPerSecond + t.shownNano) else (t.shownSecond, t.shownNano)) =
      (t.localSecond % 60, t.nano) := by
  have hlt := t.nano_lt
  unfold shownSecond shownNano
  unfold nanosPerSecond at *
  split
  all_goals
    rw [Prod.mk.injEq]
    omega

/-- A timestamp whose date may exist is the one that shows its local time at its offset.

**Proof sketch.** The offset is taken from the local seconds again, which leaves the seconds in
universal time. Their day and their second of the day are those of the timestamp, and its date is in
range. -/
lemma ofLocal?_localDate (hleast : Date.leastYear ≤ t.date.year)
    (hgreatest : t.date.year ≤ Date.greatestYear) :
    ofLocal? t.localDate t.localSecond t.nano t.offset = some t := by
  have hseconds : t.localDate.days * secondsPerDay + t.localSecond - t.offset = t.unixSeconds := by
    have hcast := second_cast t
    simp only [localDate, localSeconds] at *
    unfold secondsPerDay at *
    omega
  have hlt := t.second_lt
  have hdate : (⟨t.unixSeconds / secondsPerDay⟩ : Date) = t.date := by
    have hdays : t.unixSeconds / secondsPerDay = t.date.days := by
      unfold unixSeconds secondsPerDay at *
      omega
    rw [hdays]
  have hsecond : (t.unixSeconds % secondsPerDay).toNat = t.second := by
    unfold unixSeconds secondsPerDay at *
    omega
  unfold ofLocal? mk?
  simp only [hseconds, hdate, hsecond, dif_pos t.second_lt, dif_pos t.nano_lt, Date.inRange?,
    if_pos (And.intro hleast hgreatest), Option.map_some]

/-- The offset moves the date by a day at most, so a date in universal time exists if the local year is one
of four digits.

**Proof sketch.** The local day and the day differ by one at most, and the years of four digits lie far
within the years that a date can have. -/
lemma year_bounds (hleast : 0 ≤ t.localDate.year) (hgreatest : t.localDate.year ≤ 9999)
    (hoffset : t.offset.natAbs ≤ greatestOffset) :
    Date.leastYear ≤ t.date.year ∧ t.date.year ≤ Date.greatestYear := by
  have hdays : t.localDate.days - 1 ≤ t.date.days ∧ t.date.days ≤ t.localDate.days + 1 := by
    have hlt := t.second_lt
    simp only [localDate, localSeconds, unixSeconds]
    unfold greatestOffset at hoffset
    unfold secondsPerDay at *
    omega
  have hstart : Date.yearStart 0 ≤ t.localDate.days := Date.le_year_iff.mp hleast
  have hstop : ¬Date.yearStart 10000 ≤ t.localDate.days := by
    rw [← Date.le_year_iff]
    omega
  have hafter : ¬Date.greatestYear + 1 ≤ t.date.year := by
    rw [Date.le_year_iff]
    simp only [Date.yearStart, Date.greatestYear] at *
    omega
  refine ⟨?_, by omega⟩
  rw [Date.le_year_iff]
  simp only [Date.yearStart, Date.leastYear] at *
  omega

/-! ## Timestamps -/

/-- What is written behind the time of day. -/
def offsetText (t : Timestamp) : List Char :=
  if t.offset = 0 then ['Z'] else offsetChars .minutes true t.offset

/-- The offset that is written is read as itself, also if it is written as `Z`.

**Proof sketch.** No offset is written as `Z`, which is read as none. Any other one is written with its
hours and minutes. -/
lemma offset?_offsetText (hminutes : t.offset % 60 = 0) (h : t.offset.natAbs ≤ greatestOffset) :
    offset? .strict t.offsetText = some (t.offset, []) := by
  unfold offsetText
  split
  · next hzero =>
    rw [hzero]
    rfl
  · exact offset?_offsetChars hminutes h

/-- An offset begins with a letter or a sign.

**Proof sketch.** There is one case for `Z` and one for each sign. -/
lemma head?_offsetText (t : Timestamp) :
    ∃ c, t.offsetText.head? = some c ∧ c.isDigit = false ∧ c ≠ '.' := by
  unfold offsetText offsetChars
  split
  · exact ⟨'Z', rfl, rfl, by decide⟩
  · by_cases hneg : t.offset < 0
    · exact ⟨'-', by simp [hneg], rfl, by decide⟩
    · exact ⟨'+', by simp [hneg], rfl, by decide⟩

/-- Places are read up to the offset behind them. -/
lemma fraction?_append_offsetText {nano : Nat} (h : nano < nanosPerSecond) :
    fraction? (fractionChars nano ++ t.offsetText) = some (nano, t.offsetText) := by
  obtain ⟨c, hhead, hdigit, hpoint⟩ := head?_offsetText t
  refine fraction?_fractionChars h (fun d hd => ?_) (by simpa [hhead] using hpoint)
  rw [hhead, Option.mem_some_iff] at hd
  rwa [← hd]

/-- The text of a timestamp, part by part. -/
lemma chars_eq (t : Timestamp) :
    t.chars = yearChars t.localDate.year ++ '-' :: (zeroPadded 2 t.localDate.month ++
      '-' :: (zeroPadded 2 t.localDate.day ++ 'T' :: (zeroPadded 2 t.localHour ++
      ':' :: (zeroPadded 2 t.localMinute ++ ':' :: (zeroPadded 2 t.shownSecond ++
      (fractionChars t.shownNano ++ t.offsetText)))))) := by
  simp [chars, charsWith, dateChars, offsetText]

/-- A year of four digits is read, whatever stands behind it.

**Proof sketch.** Four digits are written and four are read. -/
lemma year?_yearChars {year : Int} (hleast : 0 ≤ year) (hgreatest : year ≤ 9999) (rest : List Char) :
    year? false (yearChars year ++ rest) = some (year, rest) := by
  obtain ⟨n, rfl⟩ := Int.eq_ofNat_of_zero_le hleast
  have hlt : n < 10000 := by omega
  have hread : number? 4 4 (zeroPadded 4 n ++ rest) = some (n, rest) :=
    number?_zeroPadded (by decide) hlt (by unfold greatestNumber; omega) rest
  rw [yearChars, if_pos ⟨hleast, hgreatest⟩, year?]
  · rw [Int.toNat_natCast, hread, Option.map_some]
  all_goals exact nofun

/-- No other year is read, since it has a sign in front. -/
lemma year?_yearChars_eq_none {year : Int} (h : ¬(0 ≤ year ∧ year ≤ 9999)) (rest : List Char) :
    year? false (yearChars year ++ rest) = none := by
  rw [yearChars, if_neg h]
  by_cases hneg : year < 0 <;> simp [year?, number?_eq, hneg]

/-- **A written timestamp is read as itself.** Its local year has to be one of four digits, and its
offset one of whole minutes, less than a day. A leap second has to stand at the end of a minute, as it
does at such offsets.

**Proof sketch.** Each reader takes the field that was written and leaves the rest. Second 60 is written
for a leap second alone. -/
theorem ofChars?_chars (hleast : 0 ≤ t.localDate.year) (hgreatest : t.localDate.year ≤ 9999)
    (hminutes : t.offset % 60 = 0) (hoffset : t.offset.natAbs ≤ greatestOffset)
    (hleap : nanosPerSecond ≤ t.nano → t.localSecond % 60 = 59) : ofChars? t.chars = some t := by
  obtain ⟨hfirst, hlast⟩ := year_bounds hleast hgreatest hoffset
  obtain ⟨-, hmonth, -, -⟩ := Date.month_spec t.localDate
  have hday := Nat.le_trans (Date.day_le t.localDate) (Date.daysInMonth_le _ _)
  have hhour : t.localHour ≤ 23 := localHour_le t
  have hminute : t.localMinute ≤ 59 := localMinute_le t
  have hsecond : t.shownSecond ≤ 60 := shownSecond_le t
  have hdate : Date.ofYmd? t.localDate.year t.localDate.month t.localDate.day = some t.localDate :=
    Date.ofYmd?_names (Int.le_trans (by decide) hleast) (Int.le_trans hgreatest (by decide))
  have hfraction :
      fraction? (fractionChars t.shownNano ++ t.offsetText) = some (t.shownNano, t.offsetText) :=
    fraction?_append_offsetText (Nat.mod_lt _ (by decide))
  -- One step for each field, and one for each character between two of them.
  rw [ofChars?, ofCharsWith?, chars_eq]
  refine Option.bind_eq_some_iff.mpr ⟨_, year?_yearChars hleast hgreatest _, ?_⟩
  refine Option.bind_eq_some_iff.mpr ⟨_, rfl, ?_⟩
  refine Option.bind_eq_some_iff.mpr ⟨_, number?_two (n := t.localDate.month) (by omega) _, ?_⟩
  refine Option.bind_eq_some_iff.mpr ⟨_, rfl, ?_⟩
  refine Option.bind_eq_some_iff.mpr ⟨_, number?_two (n := t.localDate.day) (by omega) _, ?_⟩
  refine Option.bind_eq_some_iff.mpr ⟨_, rfl, ?_⟩
  refine Option.bind_eq_some_iff.mpr ⟨_, number?_two (n := t.localHour) (by omega) _, ?_⟩
  refine Option.bind_eq_some_iff.mpr ⟨_, rfl, ?_⟩
  refine Option.bind_eq_some_iff.mpr ⟨_, number?_two (n := t.localMinute) (by omega) _, ?_⟩
  refine Option.bind_eq_some_iff.mpr ⟨_, rfl, ?_⟩
  refine Option.bind_eq_some_iff.mpr ⟨_, number?_two (n := t.shownSecond) (by omega) _, ?_⟩
  refine Option.bind_eq_some_iff.mpr ⟨_, hfraction, ?_⟩
  refine Option.bind_eq_some_iff.mpr ⟨_, offset?_offsetText hminutes hoffset, ?_⟩
  refine Option.bind_eq_some_iff.mpr ⟨_, hdate, ?_⟩
  dsimp only
  rw [if_pos ⟨rfl, hhour, hminute, hsecond, hoffset⟩, shownTime hleap, localSecond_eq]
  exact ofLocal?_localDate hfirst hlast

/-- No timestamp in another year is read. -/
theorem ofChars?_chars_eq_none (h : ¬(0 ≤ t.localDate.year ∧ t.localDate.year ≤ 9999)) :
    ofChars? t.chars = none := by
  rw [ofChars?, ofCharsWith?, chars_eq, year?_yearChars_eq_none h]
  rfl

end Timestamp

end Formula
