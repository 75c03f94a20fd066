import Formula.Proofs.Builtin.Calls
import Formula.Proofs.Calendar.Rfc3339
import Formula.Proofs.Value.Integer
import Formula.Proofs.Value.RoundTrip

set_option autoImplicit false

/-!
# Timestamps that are made of numbers, and their texts

Timestamps are made of a number of seconds since the start of 1970, and of a timestamp and a number of
seconds. They are shown in universal time. Their texts are read as the timestamps they were written for,
and then do in their place in every function on timestamps, if the year has four digits. Further away,
there are timestamps whose texts are not read.

## Main definitions

* `Formula.Timestamp.Plain` — timestamps in universal time, outside leap seconds.
* `Formula.Builtin.Times.Made` — timestamps that functions make of numbers.
* `Formula.Builtin.Times.Interchangeable` — a timestamp and a text do the same in all functions on
  timestamps.

## Main results

* `Formula.Builtin.Times.Made.plain` — timestamps made of numbers are in universal time.
* `Formula.Builtin.Times.interchangeable_of_read` — a text that is read as a timestamp does in its place.
* `Formula.Builtin.Times.written_read` — which timestamps made of numbers are read from their texts.
-/

namespace Formula

namespace Timestamp

variable {t t' : Timestamp} {date : Date} {second nano : Nat} {offset millis : Int}

/-- A timestamp in universal time, outside a leap second. -/
structure Plain (t : Timestamp) : Prop where
  offset_eq : t.offset = 0
  nano_lt : t.nano < nanosPerSecond

/-- What is made of parts has the nanoseconds and the offset it is made of.

**Proof sketch.** If the seconds and the nanoseconds are within their bounds and the date is in range,
they become the fields. Otherwise nothing is made. -/
lemma fields_of_mk? (h : mk? date second nano offset = some t) : t.nano = nano ∧ t.offset = offset := by
  unfold mk? at h
  split at h
  · split at h
    · obtain ⟨d, -, rfl⟩ := Option.map_eq_some_iff.mp h
      exact ⟨rfl, rfl⟩
    · cases h
  · cases h

/-- A timestamp from a number of milliseconds is in universal time, outside a leap second. -/
lemma plain_of_ofUnixMillis? (h : ofUnixMillis? millis = some t) : t.Plain := by
  obtain ⟨hnano, hoffset⟩ := fields_of_mk? h
  refine ⟨hoffset, ?_⟩
  rw [hnano]
  unfold nanosPerSecond
  omega

/-- Outside a leap second, a step comes to no leap second.

**Proof sketch.** The nanoseconds are those within a second, and the offset stays. -/
lemma Plain.of_addMillis? (ht : t.Plain) (h : t.addMillis? millis = some t') : t'.Plain := by
  have hleap : decide (nanosPerSecond ≤ t.nano) = false := by simpa using ht.nano_lt
  unfold addMillis? at h
  simp only [hleap, Bool.false_and, Bool.false_eq_true, if_false] at h
  obtain ⟨hnano, hoffset⟩ := fields_of_mk? h
  refine ⟨hoffset.trans ht.offset_eq, ?_⟩
  rw [hnano]
  unfold nanosPerSecond
  omega

/-- The timestamps whose years have four digits. -/
def FourDigits (t : Timestamp) : Prop :=
  0 ≤ t.localDate.year ∧ t.localDate.year ≤ 9999

instance (t : Timestamp) : Decidable t.FourDigits :=
  inferInstanceAs (Decidable (_ ∧ _))

/-- In universal time these are the seconds from the start of year 0 to the start of year 10000. -/
lemma Plain.fourDigits_iff (h : t.Plain) :
    t.FourDigits ↔ -62167219200 ≤ t.unixSeconds ∧ t.unixSeconds < 253402300800 := by
  have hafter : t.localDate.year ≤ 9999 ↔ ¬10000 ≤ t.localDate.year := by omega
  rw [FourDigits, hafter, Date.le_year_iff, Date.le_year_iff]
  simp only [Date.yearStart, localDate, localSeconds, h.offset_eq, secondsPerDay]
  omega

/-- The text of such a timestamp is read back, if its year has four digits. -/
lemma Plain.ofChars?_chars (h : t.Plain) (hyear : t.FourDigits) : ofChars? t.chars = some t :=
  Timestamp.ofChars?_chars hyear.1 hyear.2 (by rw [h.offset_eq]; rfl) (by rw [h.offset_eq]; decide)
    fun hleap => absurd h.nano_lt (Nat.not_lt.mpr hleap)

end Timestamp

namespace Builtin.Times

variable {t t' : Timestamp} {v w : Value} {s : String} {name : String} {r : Except EvalError Value}

/-! ## Timestamps made of numbers -/

/-- Timestamps that functions make of numbers. -/
inductive Made : Timestamp → Prop
  | fromUnix {t : Timestamp} {v : Value} (h : Gives "fromUnix" [v] (.ok (.timestamp t))) : Made t
  | addSeconds {t t' : Timestamp} {v : Value} (ht : Made t)
      (h : Gives "addSeconds" [.timestamp t, v] (.ok (.timestamp t'))) : Made t'

/-- What `fromUnix` gives is the timestamp of some milliseconds.

**Proof sketch.** The milliseconds are read from the argument. If they are those of no timestamp, the
function gives none. -/
lemma ofUnixMillis?_of_gives (h : Gives "fromUnix" [v] (.ok (.timestamp t))) :
    ∃ millis, Timestamp.ofUnixMillis? millis = some t := by
  have hresult : fromUnix [v] = .ok (.timestamp t) := (gives_plain rfl rfl rfl).unique h
  simp only [fromUnix, Except.bind_eq_ok_iff] at hresult
  obtain ⟨x, -, delta, -, hresult⟩ := hresult
  refine ⟨delta, ?_⟩
  split at hresult
  · next u hu =>
    cases hresult
    exact hu
  · cases hresult

/-- What `addSeconds` gives is its first argument some milliseconds later.

**Proof sketch.** The milliseconds are read from the second argument. If they lead to no timestamp, the
function gives none. -/
lemma addMillis?_of_gives (h : Gives "addSeconds" [.timestamp t, v] (.ok (.timestamp t'))) :
    ∃ millis, t.addMillis? millis = some t' := by
  have hresult : addSeconds [.timestamp t, v] = .ok (.timestamp t') :=
    (gives_plain rfl rfl rfl).unique h
  have hargument : Argument.timestamp "addSeconds" [.timestamp t, v] 0 = .ok t := rfl
  simp only [addSeconds, Except.bind_eq_ok_iff, hargument] at hresult
  obtain ⟨u, hu, x, -, delta, -, hresult⟩ := hresult
  cases hu
  refine ⟨delta, ?_⟩
  split at hresult
  · next u hu =>
    cases hresult
    exact hu
  · cases hresult

/-- The function `addSeconds` gives the timestamp so many milliseconds later. -/
lemma gives_addSeconds {x : Double} {delta : Int} (hdelta : millis "addSeconds" x = .ok delta)
    (h : t.addMillis? delta = some t') :
    Gives "addSeconds" [.timestamp t, .number x] (.ok (.timestamp t')) := by
  refine gives_plain rfl rfl ?_
  have htimestamp : Argument.timestamp "addSeconds" [.timestamp t, .number x] 0 = .ok t := rfl
  have hnumber : Argument.number "addSeconds" [.timestamp t, .number x] 1 = .ok x := rfl
  simp only [addSeconds, bind, Except.bind, htimestamp, hnumber, hdelta, h]
  rfl

/-- Timestamps made of numbers are in universal time, outside leap seconds.

**Proof sketch.** Induction on how the timestamp is made. The step is `Plain.of_addMillis?`. -/
lemma Made.plain (h : Made t) : t.Plain := by
  induction h with
  | fromUnix h =>
    obtain ⟨millis, hmillis⟩ := ofUnixMillis?_of_gives h
    exact Timestamp.plain_of_ofUnixMillis? hmillis
  | addSeconds _ h ih =>
    obtain ⟨millis, hmillis⟩ := addMillis?_of_gives h
    exact ih.of_addMillis? hmillis

/-! ## Texts in place of timestamps -/

/-- A text does in place of a timestamp: no function on timestamps tells the two apart, in front of
whatever other arguments. The functions of any number of timestamps do not tell them apart in any
place. -/
def Interchangeable (s : String) (t : Timestamp) : Prop :=
  ∀ d ∈ library.definitions, d.name ∉ ["parseTime", "fromUnix"] → ∀ before after : List Value,
    before = [] ∨ d.name ∈ ["earliest", "latest"] → ∀ surroundings : Surroundings,
      d.call surroundings (before ++ .string s :: after) =
        d.call surroundings (before ++ .timestamp t :: after)

/-- Lists that differ in one place agree in every other one.

**Proof sketch.** The place lies before the one where they differ, or behind it. -/
lemma getElem?_beside {before after : List Value} {i : Nat} (h : i ≠ before.length) :
    (before ++ v :: after)[i]? = (before ++ w :: after)[i]? := by
  rcases Nat.lt_or_gt_of_ne h with hlt | hgt
  · rw [List.getElem?_append_left hlt, List.getElem?_append_left hlt]
  · obtain ⟨k, rfl⟩ : ∃ k, i = before.length + (k + 1) := ⟨i - before.length - 1, by omega⟩
    rw [List.getElem?_append_right (Nat.le_add_right _ _),
      List.getElem?_append_right (Nat.le_add_right _ _),
      Nat.add_sub_cancel_left]
    rfl

/-- A function of its arguments is called alike for as many arguments of which it makes the same. -/
lemma call_plain_congr {arity : Arity} {f : List Value → Except EvalError Value} {args args' : List Value}
    (hlength : args.length = args'.length) (h : f args = f args') (surroundings : Surroundings) :
    (Definition.plain name arity f).call surroundings args =
      (Definition.plain name arity f).call surroundings args' := by
  show (if arity.accepts args.length then Evaluation.ofExcept (f args) else _) =
    if arity.accepts args'.length then Evaluation.ofExcept (f args') else _
  rw [h, hlength]

section Read

variable (hread : Timestamp.ofChars? s.toList = some t)

include hread

/-- The reader of arguments does not tell them apart. -/
lemma timestamp_congr (name : String) (before after : List Value) (i : Nat) :
    Argument.timestamp name (before ++ .string s :: after) i =
      Argument.timestamp name (before ++ .timestamp t :: after) i := by
  unfold Argument.timestamp Argument.any
  by_cases hi : i = before.length
  · simp only [hi, List.getElem?_append_right (Nat.le_refl _), Nat.sub_self, List.getElem?_cons_zero,
      bind, Except.bind, hread]
  · rw [getElem?_beside hi]

/-- As the first argument, the text is read as the timestamp is. -/
lemma first_congr (name : String) (after : List Value) :
    Argument.timestamp name (.string s :: after) 0 = Argument.timestamp name (.timestamp t :: after) 0 :=
  timestamp_congr hread name [] after 0

/-- The function `strftime` does not tell the two apart. -/
lemma strftime_congr (after : List Value) :
    strftime (.string s :: after) = strftime (.timestamp t :: after) := by
  have hlayout : Argument.string "strftime" (.string s :: after) 1 =
      Argument.string "strftime" (.timestamp t :: after) 1 := rfl
  rw [strftime, strftime, first_congr hread, hlayout]

/-- The function `addSeconds` does not tell the two apart. -/
lemma addSeconds_congr (after : List Value) :
    addSeconds (.string s :: after) = addSeconds (.timestamp t :: after) := by
  have hnumber : Argument.number "addSeconds" (.string s :: after) 1 =
      Argument.number "addSeconds" (.timestamp t :: after) 1 := rfl
  rw [addSeconds, addSeconds, first_congr hread, hnumber]

/-- A choice among timestamps does not tell the two apart in any place. -/
lemma choose_congr (name : String) (replaces : Ordering → Bool) (before after : List Value) :
    choose name replaces (before ++ .string s :: after) =
      choose name replaces (before ++ .timestamp t :: after) := by
  simp only [choose, timestamps, timestamp_congr hread, List.length_append, List.length_cons]

/-- A text that is read as a timestamp does in its place.

**Proof sketch.** One case for each function. Those of any number of timestamps read all of them in the
same way, and the others read theirs as the first argument. -/
lemma interchangeable_of_read : Interchangeable s t := by
  intro d hd hname before after hplace surroundings
  have hlength : (before ++ .string s :: after).length = (before ++ .timestamp t :: after).length := by simp
  simp only [library, List.mem_cons, List.not_mem_nil, or_false] at hd
  rcases hd with rfl | rfl | rfl | rfl | rfl | rfl | rfl | rfl | rfl | rfl
  case inr.inr.inr.inl =>
    exact call_plain_congr hlength (choose_congr hread "earliest" _ before after) surroundings
  case inr.inr.inr.inr.inl =>
    exact call_plain_congr hlength (choose_congr hread "latest" _ before after) surroundings
  case inr.inl => exact absurd (by decide) hname
  case inr.inr.inr.inr.inr.inr.inr.inr.inr => exact absurd (by decide) hname
  -- the other functions take one timestamp, as their first argument
  all_goals
    obtain rfl : before = [] := hplace.resolve_right (by decide)
    refine call_plain_congr hlength ?_ surroundings
  · simp only [List.nil_append, parseIsoTime, first_congr hread]
  · exact strftime_congr hread after
  · simp only [List.nil_append, isLeapYear, first_congr hread]
  · simp only [List.nil_append, isWeekDay, first_congr hread]
  · exact addSeconds_congr hread after
  · simp only [List.nil_append, unix, first_congr hread]

end Read

/-! ## Texts of timestamps -/

/-- The function `parseISOTime` gives the timestamp that a text denotes. -/
lemma gives_parseIsoTime_of_read (h : Timestamp.ofChars? s.toList = some t) :
    Gives "parseISOTime" [.string s] (.ok (.timestamp t)) := by
  refine gives_plain rfl rfl ?_
  rw [parseIsoTime, first_congr h]
  rfl

/-- The function `parseISOTime` refuses a text that denotes none.

**Proof sketch.** The argument is a text, so it is read, and the refusal of the reader is the one of the
function. -/
lemma gives_parseIsoTime_of_unread (h : Timestamp.ofChars? s.toList = none) :
    Gives "parseISOTime" [.string s] (.error (.function "parseISOTime" (.invalidTimestamp s))) := by
  refine gives_plain rfl rfl ?_
  have hargument : Argument.timestamp "parseISOTime" [.string s] 0 =
      .error (.function "parseISOTime" (.invalidTimestamp s)) := by
    simp only [Argument.timestamp, Argument.any, List.getElem?_cons_zero, bind, Except.bind, h]
    rfl
  rw [parseIsoTime, hargument]
  rfl

/-- The text of a timestamp comes out of a JSON text as it went in. -/
lemma gives_json (t : Timestamp) :
    Gives "toJSON" [.timestamp t] (.ok (.string (Json.stringText t.text))) ∧
      Gives "parseJSON" [.string (Json.stringText t.text)] (.ok (.string t.text)) := by
  refine ⟨gives_plain rfl rfl rfl, gives_plain rfl rfl (Value.parseJson_eq_ok ?_)⟩
  have hread := @Json.reads_string (2 * (Json.stringText t.text).toList.length + 1) 127 [] t.text
  rw [List.append_nil] at hread
  exact hread.ofText?

/-- **The text of a timestamp that is made of numbers is read, if its year has four digits.** The
timestamp is made of a number of seconds since the start of 1970, and perhaps of further seconds.

1. Its year has four digits from the start of year 0 to the end of year 9999.
2. Then its text, as it is shown, is read as the timestamp itself.
3. Then its text does in its place in all functions on timestamps.
4. Otherwise its text is refused.
5. In JSON there is this text, and it is read as such.

**Proof sketch.** What is made of numbers is in universal time and outside leap seconds. There, the
fields that are written are those that are read, but for a sign in front of the year, which is not
read. -/
theorem written_read (h : Made t) :
    (t.FourDigits ↔ -62167219200 ≤ t.unixSeconds ∧ t.unixSeconds < 253402300800) ∧
    (t.FourDigits →
      Gives "parseISOTime" [.string (Value.timestamp t).display] (.ok (.timestamp t)) ∧
      Interchangeable (Value.timestamp t).display t) ∧
    (¬t.FourDigits →
      Gives "parseISOTime" [.string (Value.timestamp t).display]
        (.error (.function "parseISOTime" (.invalidTimestamp (Value.timestamp t).display)))) ∧
    ∃ json, Gives "toJSON" [.timestamp t] (.ok (.string json)) ∧
      Gives "parseJSON" [.string json] (.ok (.string (Value.timestamp t).display)) := by
  have htext : (Value.timestamp t).display = t.text := rfl
  rw [htext]
  refine ⟨h.plain.fourDigits_iff, fun hyear => ?_, fun hyear => ?_, _, gives_json t⟩
  · have hread : Timestamp.ofChars? t.text.toList = some t := by
      rw [Timestamp.text, String.toList_ofList]
      exact h.plain.ofChars?_chars hyear
    exact ⟨gives_parseIsoTime_of_read hread, interchangeable_of_read hread⟩
  · have hunread : Timestamp.ofChars? t.text.toList = none := by
      rw [Timestamp.text, String.toList_ofList]
      exact Timestamp.ofChars?_chars_eq_none hyear
    exact gives_parseIsoTime_of_unread hunread

/-- The last second of the year 9999, from its number, and half a second and a second later. The text of
the former is read, and the text of the latter is refused.

**Proof sketch.** The timestamps are made by evaluation, and so are their texts. What is read and what
is refused then follows from the general theorem. -/
theorem written_read_last_second :
    let second : Timestamp := ⟨⟨2932896⟩, 86399, 0, 0, by decide, by decide⟩
    let half : Timestamp := ⟨⟨2932896⟩, 86399, 500000000, 0, by decide, by decide⟩
    let next : Timestamp := ⟨⟨2932897⟩, 0, 0, 0, by decide, by decide⟩
    Made second ∧ Made half ∧ Made next ∧
    Gives "parseISOTime" [.string "9999-12-31T23:59:59.500Z"] (.ok (.timestamp half)) ∧
    Interchangeable "9999-12-31T23:59:59.500Z" half ∧
    Gives "parseISOTime" [.string "+10000-01-01T00:00:00Z"]
      (.error (.function "parseISOTime" (.invalidTimestamp "+10000-01-01T00:00:00Z"))) := by
  intro second half next
  have hsecond : Made second := .fromUnix (v := .number (.ofNat 253402300799)) (gives_plain rfl rfl rfl)
  have hhalfMillis : millis "addSeconds" ⟨0x3fe0000000000000⟩ = .ok 500 := by decide +kernel
  have hhalf : Made half :=
    .addSeconds hsecond (gives_addSeconds hhalfMillis (by dsimp only [second]; rfl))
  have hnextMillis : millis "addSeconds" (.ofNat 1) = .ok 1000 := by decide +kernel
  have hnext : Made next :=
    .addSeconds hsecond (gives_addSeconds hnextMillis (by dsimp only [second]; rfl))
  have htext : (Value.timestamp half).display = "9999-12-31T23:59:59.500Z" := by decide +kernel
  have hnextText : (Value.timestamp next).display = "+10000-01-01T00:00:00Z" := by decide +kernel
  obtain ⟨hread, hplace⟩ := (written_read hhalf).2.1 (by decide +kernel)
  have hunread := (written_read hnext).2.2.1 (by decide +kernel)
  rw [htext] at hread hplace
  rw [hnextText] at hunread
  exact ⟨hsecond, hhalf, hnext, hread, hplace, hunread⟩

/-- The timestamp of the first second of the year 10000 is made, and its text is refused. -/
theorem year_10000_unread :
    let t : Timestamp := ⟨⟨2932897⟩, 0, 0, 0, by decide, by decide⟩
    Gives "fromUnix" [.number (.ofNat 253402300800)] (.ok (.timestamp t)) ∧
    (Value.timestamp t).display = "+10000-01-01T00:00:00Z" ∧
    ¬∃ u, Gives "parseISOTime" [.string "+10000-01-01T00:00:00Z"] (.ok (.timestamp u)) := by
  intro t
  refine ⟨gives_plain rfl rfl rfl, by decide +kernel, ?_⟩
  rintro ⟨u, hu⟩
  have hunread : Timestamp.ofChars? "+10000-01-01T00:00:00Z".toList = none := by rfl
  cases (gives_parseIsoTime_of_unread hunread).unique hu

end Builtin.Times

end Formula
