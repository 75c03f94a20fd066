import Formula.Calendar.Date

set_option autoImplicit false

/-!
# Timestamps

A timestamp is an instant together with the offset from universal time in which it is shown. The
offset takes no part in comparisons. A leap second is the second before it with a nanosecond count
of `10 ^ 9` or more.

## Main definitions

* `Formula.Timestamp` — instant and offset.
* `Formula.Timestamp.instant` — the integer that orders instants.
* `Formula.Timestamp.addMillis?`, `Formula.Timestamp.millisSince`, `Formula.Timestamp.unixMillis`,
  `Formula.Timestamp.ofUnixMillis?` — arithmetic in milliseconds.
-/

namespace Formula

/-- Seconds in a day. -/
def secondsPerDay : Nat := 86400

/-- Nanoseconds in a second. -/
def nanosPerSecond : Nat := 1000000000

/-- An instant and an offset. -/
structure Timestamp where
  /-- The date in universal time. -/
  date : Date
  /-- The second of that date. -/
  second : Nat
  /-- The nanosecond; `10 ^ 9` more inside a leap second. -/
  nano : Nat
  /-- Seconds by which local time is ahead of universal time. -/
  offset : Int
  second_lt : second < secondsPerDay
  nano_lt : nano < 2 * nanosPerSecond

namespace Timestamp

/-- The timestamp with the given parts, if they are in range. -/
def mk? (date : Date) (second nano : Nat) (offset : Int) : Option Timestamp :=
  if hs : second < secondsPerDay then
    if hn : nano < 2 * nanosPerSecond then
      date.inRange?.map fun date => ⟨date, second, nano, offset, hs, hn⟩
    else none
  else none

/-- Whole seconds since the start of 1970, a leap second counted as the second before it. -/
def unixSeconds (t : Timestamp) : Int :=
  t.date.days * secondsPerDay + t.second

/-- The integer that orders instants. -/
def instant (t : Timestamp) : Int :=
  t.unixSeconds * (2 * nanosPerSecond) + t.nano

/-- The order of instants. -/
def compare (t u : Timestamp) : Ordering :=
  Ord.compare t.instant u.instant

/-- Whether two timestamps are the same instant. -/
def eq (t u : Timestamp) : Bool :=
  t.instant == u.instant

/-- The same instant in universal time. -/
def utc (t : Timestamp) : Timestamp :=
  { t with offset := 0 }

/-! ## Local time -/

/-- Seconds since the start of 1970 on a local clock. -/
def localSeconds (t : Timestamp) : Int :=
  t.unixSeconds + t.offset

/-- The local date. -/
def localDate (t : Timestamp) : Date :=
  ⟨t.localSeconds / secondsPerDay⟩

/-- The second of the local day. -/
def localSecond (t : Timestamp) : Nat :=
  (t.localSeconds % secondsPerDay).toNat

/-- The timestamp that shows the given local date, second and nanosecond at an offset. -/
def ofLocal? (date : Date) (second nano : Nat) (offset : Int) : Option Timestamp :=
  let seconds : Int := date.days * secondsPerDay + second - offset
  mk? ⟨seconds / secondsPerDay⟩ (seconds % secondsPerDay).toNat nano offset

/-! ## Arithmetic in milliseconds -/

/-- The timestamp so many milliseconds later. A step that leaves a leap second does so at the second
after it or, backwards, before it; a step that stays inside moves the nanoseconds only. -/
def addMillis? (t : Timestamp) (millis : Int) : Option Timestamp :=
  let seconds := millis.tdiv 1000
  let nanos := millis.tmod 1000 * 1000000
  let leap : Bool := decide (nanosPerSecond ≤ t.nano)
  let leaves : Bool := decide (0 < seconds) ||
    (decide (0 < nanos) && decide ((2 * nanosPerSecond : Nat) ≤ t.nano + nanos))
  if leap && !leaves && decide (0 ≤ seconds) then
    mk? t.date t.second ((t.nano : Int) + nanos).toNat t.offset
  else
    let start : Int := if leap && !leaves then t.unixSeconds + 1 else t.unixSeconds
    let nano : Int := (if leap then (t.nano : Int) - nanosPerSecond else t.nano) + nanos
    let total := start + seconds + nano / nanosPerSecond
    mk? ⟨total / secondsPerDay⟩ (total % secondsPerDay).toNat (nano % nanosPerSecond).toNat
      t.offset

/-- The nanoseconds from `u` to `t`. A leap second that lies between the two times of day is
counted. -/
def nanosSince (t u : Timestamp) : Int :=
  let leap : Int :=
    if u.second < t.second ∧ nanosPerSecond ≤ u.nano then 1
    else if t.second < u.second ∧ nanosPerSecond ≤ t.nano then -1
    else 0
  (t.unixSeconds - u.unixSeconds + leap) * nanosPerSecond + ((t.nano : Int) - u.nano)

/-- The whole milliseconds from `u` to `t`, toward zero. -/
def millisSince (t u : Timestamp) : Int :=
  (t.nanosSince u).tdiv 1000000

/-- The milliseconds since the start of 1970, rounded down. -/
def unixMillis (t : Timestamp) : Int :=
  t.unixSeconds * 1000 + (t.nano / 1000000 : Nat)

/-- The timestamp, in universal time, so many milliseconds after the start of 1970. -/
def ofUnixMillis? (millis : Int) : Option Timestamp :=
  let seconds := millis / 1000
  mk? ⟨seconds / secondsPerDay⟩ (seconds % secondsPerDay).toNat
    ((millis % 1000).toNat * 1000000) 0

end Timestamp

end Formula
