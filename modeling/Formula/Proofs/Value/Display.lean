import Formula.Proofs.Decimal.Positional
import Formula.Proofs.Token.Following
import Formula.Proofs.Value.Integer
import Formula.Value.Text

set_option autoImplicit false

/-!
# Numbers are read back from their texts

What a number is shown as is read as a number that is equal to it. Whole numbers of moderate size are
shown as integers, which have no negative zero; all other numbers are shown by the shortest digits that
are rounded to them.

## Main results

* `Formula.Double.ofChars?_text`, `Formula.Double.ofChars?_intText` — what the two notations are read as.
* `Formula.Value.toNumber_display` — the text of a number is a number that is equal to it, so different
  numbers have different texts.
-/

namespace Formula

/-- Nothing is cut off a text without blanks.

**Proof sketch.** Nothing is dropped at either end. -/
lemma Text.trim_eq_self {cs : List Char} (h : ∀ c ∈ cs, isBlank c = false) : trim cs = cs := by
  have hself {ds : List Char} (hds : ∀ c ∈ ds, isBlank c = false) : ds.dropWhile isBlank = ds := by
    cases ds with
    | nil => rfl
    | cons c more => exact List.dropWhile_cons_of_neg (by simp [hds c List.mem_cons_self])
  rw [trim, trimLeft, hself h, trimRight, hself fun c hc => h c (List.mem_reverse.mp hc),
    List.reverse_reverse]

namespace Double

variable {x y : Double}

/-! ## The two notations -/

/-- The digits of an integer, with its sign, are read as the nearest number to the integer.

**Proof sketch.** The digits are read as the integer that they were written for, and a number is rounded
as its value is. -/
lemma ofChars?_intText (i : Int) : ofChars? (intText i).toList = some (ofInt i) := by
  have hdigits : ∀ c ∈ Decimal.digitChars i.natAbs, c.isDigit = true :=
    fun _ => Decimal.isDigit_of_mem_digitChars
  have hread := Decimal.ofChars?_of_isDigit Decimal.digitChars_ne_nil hdigits
  rw [intText, String.toList_ofList, ofChars?_signChars _ (fun c hc => .inl (hdigits c hc)) hread,
    Decimal.ofDigitChars_digitChars, Decimal.toDouble_eq_nearest, ofInt, ofScaled_eq_nearest,
    Decimal.value, zpow_zero, zpow_zero]

/-- Plain notation lays out the shortest decimal with a point. -/
lemma write_plain (x : Double) : Style.plain.write x = (Decimal.shortest .up x).positional := by
  simp [Style.write, Style.plain, Style.isPlain]

/-- Plain notation is read as the number, the sign of zero included.

**Proof sketch.** A number is an infinity, a zero, or finite, and is then shown by its shortest decimal,
which is read back as it. -/
lemma ofChars?_text (h : x.isNaN = false) : ofChars? x.text.toList = some x := by
  have hself := x.ofMagnitude_magnitude
  rw [text, h, if_neg Bool.false_ne_true, String.toList_ofList]
  split
  · next hinfinite =>
    rw [show x.magnitude = infiniteMagnitude from of_decide_eq_true hinfinite] at hself
    rw [← hself]
    cases x.isNegative <;> decide
  · next hinfinite =>
    split
    · next hzero =>
      rw [eq_zero_of_isZero hzero]
      cases x.isNegative <;> decide
    · rw [write_plain]
      refine ofChars?_shortest_positional (decide_eq_true ?_) .up
      have hnan : ¬infiniteMagnitude < x.magnitude := of_decide_eq_false h
      have hne : ¬x.magnitude = infiniteMagnitude := fun heq => hinfinite (decide_eq_true heq)
      omega

/-- What a number is shown as is read as the number, but for the sign of zero.

**Proof sketch.** An integer that is small enough is shown by its digits, and only the sign of zero is
lost. Every other number is shown in plain notation. -/
lemma exists_ofChars?_display (h : x.isNaN = false) :
    ∃ y, ofChars? x.display.toList = some y ∧ y.eq x = true ∧ (x.isZero = false → y = x) := by
  unfold display
  split
  · next i hint =>
    obtain ⟨hi, hbound⟩ := Option.filter_eq_some_iff.mp hint
    have hofInt := ofInt_of_toInt? hi ((of_decide_eq_true hbound).trans (by decide))
    refine ⟨ofInt i, ofChars?_intText i, ?_, ?_⟩
    · rw [hofInt]
      split
      · next hzero =>
        rw [eq_zero_of_isZero hzero]
        cases x.isNegative <;> decide
      · exact eq_self_of_isFinite (isFinite_of_toInt? hi)
    · intro hzero
      rw [hofInt, if_neg (ne_true_of_eq_false hzero)]
  · exact ⟨x, ofChars?_text h, eq_iff.mpr ⟨h, h, rfl⟩, fun _ => rfl⟩

/-! ## No blanks -/

/-- A sign is no blank. -/
lemma isBlank_of_mem_signChars {negative : Bool} {c : Char} (h : c ∈ signChars negative) :
    Text.isBlank c = false := by
  unfold signChars at h
  split at h
  · rw [List.mem_singleton.mp h]
    decide
  · cases h

/-- Plain notation has no blanks.

**Proof sketch.** It consists of a sign and a word, or of a sign, digits and a point. -/
lemma isBlank_of_mem_text {c : Char} (h : c ∈ x.text.toList) : Text.isBlank c = false := by
  have hword {word : List Char} (hnone : word.any Text.isBlank = false) (hc : c ∈ word) :
      Text.isBlank c = false :=
    Bool.eq_false_iff.mpr (List.any_eq_false.mp hnone c hc)
  unfold text at h
  split at h
  · exact hword (by decide) h
  · rw [String.toList_ofList, List.mem_append] at h
    rcases h with h | h
    · exact isBlank_of_mem_signChars h
    · split at h
      · exact hword (by decide) h
      · split at h
        · exact hword (by decide) h
        · rw [write_plain] at h
          rcases Decimal.mem_positional h with hdigit | rfl
          · exact Lexer.isBlank_of_isDigit hdigit
          · decide

/-- What a number is shown as has no blanks. -/
lemma isBlank_of_mem_display {c : Char} (h : c ∈ x.display.toList) : Text.isBlank c = false := by
  unfold display at h
  split at h
  · rw [intText, String.toList_ofList, List.mem_append] at h
    exact h.elim isBlank_of_mem_signChars fun h =>
      Lexer.isBlank_of_isDigit (Decimal.isDigit_of_mem_digitChars h)
  · exact isBlank_of_mem_text h

/-- A NaN is shown by name. -/
lemma display_of_isNaN (h : x.isNaN = true) : x.display = "NaN" := by
  have hnone : x.intBelow? 1000000000000000 = none := by
    have hfinite : ¬x.isFinite = true := fun hfinite => by
      rw [not_isNaN_of_isFinite hfinite] at h
      cases h
    simp [intBelow?, toInt?, hfinite]
  rw [display, hnone]
  simp [text, h]

end Double

namespace Value

variable {x : Double}

/-- The text of a number is taken for what is read of it. -/
lemma number?_display (x : Double) :
    (string (number x).display).number? = Double.ofChars? x.display.toList :=
  congrArg Double.ofChars? (Text.trim_eq_self fun _ => Double.isBlank_of_mem_display)

/-- **The text of a number is a number that is equal to it.** The two are the same, but for the sign of
zero, which is not shown. So only numbers that are equal have one text; the text of a NaN is that of no
other number.

**Proof sketch.** A whole number below `10 ^ 15` is shown by its digits, which are read as that integer,
and the nearest number to it is the number itself. Infinities are read by name. Any other number is shown
by a decimal that was tried when it was chosen: rounding it gave the number. Laying the decimal out with
zeros and a point, reading these as digits, and dropping trailing zeros keep its exact value, and
rounding depends on the exact value alone. Two numbers with one text are equal to what it is read as. -/
theorem toNumber_display (h : x.isNaN = false) (operation : String) :
    (∃ y, (string (number x).display).toNumber operation = .ok y ∧ y.eq x = true ∧
      (x.isZero = false → y = x)) ∧
    ∀ y, (number x).display = (number y).display → x.eq y = true := by
  obtain ⟨z, hread, heq, hself⟩ := Double.exists_ofChars?_display h
  refine ⟨⟨z, toNumber_eq_ok_iff.mpr ((number?_display x).trans hread), heq, hself⟩, fun y hsame => ?_⟩
  have hready : Double.ofChars? y.display.toList = some z := by
    rwa [← show x.display = y.display from hsame]
  obtain ⟨hz, hx, hkey⟩ := Double.eq_iff.mp heq
  cases hy : y.isNaN with
  | false =>
    obtain ⟨z', hread', heq', -⟩ := Double.exists_ofChars?_display hy
    obtain rfl : z = z' := Option.some.inj (hready.symm.trans hread')
    exact Double.eq_iff.mpr ⟨hx, hy, hkey.symm.trans (Double.eq_iff.mp heq').2.2⟩
  | true =>
    -- The text of a NaN is read as a NaN, which is equal to no number.
    have hnan : Double.ofChars? "NaN".toList = some .nan := by decide
    rw [Double.display_of_isNaN hy, hnan] at hready
    rw [← Option.some.inj hready] at hz
    cases hz

/-- The least number above zero, and an infinity. -/
theorem toNumber_display_least :
    (string (number ⟨1⟩).display).toNumber "+" = .ok ⟨1⟩ ∧
    (string (number (.infinity true)).display).toNumber "+" = .ok (.infinity true) := by
  obtain ⟨⟨y, hy, -, hself⟩, -⟩ := toNumber_display (x := ⟨1⟩) (by decide) "+"
  obtain ⟨⟨z, hz, -, hinfinite⟩, -⟩ := toNumber_display (x := .infinity true) (by decide) "+"
  rw [hy, hself (by decide), hz, hinfinite (by decide)]
  exact ⟨rfl, rfl⟩

end Value

end Formula
