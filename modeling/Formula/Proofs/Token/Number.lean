import Formula.Proofs.Token.Following

set_option autoImplicit false

/-!
# Where numbers end

A decimal number is digits, decimal places if there are any, and an exponent if there is one. It is
read as a number as far as it goes, unless a word follows directly. A hexadecimal number is read as
far as its digits go, whatever follows.

## Main definitions

* `Formula.Lexer.IsDecimal`, `Formula.Lexer.IsHexadecimal` — the texts of numbers.
* `Formula.Lexer.Separate` — a decimal number ends in front of what follows.

## Main results

* `Formula.Lexer.decimalChars_of_eq_ok`, `Formula.Lexer.decimalChars_append` — which decimal number is
  read at the start of a text.
* `Formula.Lexer.number_eq_ok_iff` — which number is read, decimal or hexadecimal.
-/

namespace Formula.Lexer

variable {cs all left : List Char}

/-! ## The texts of numbers -/

/-- One digit or more. -/
def Digits (cs : List Char) : Prop :=
  cs ≠ [] ∧ ∀ c ∈ cs, c.isDigit = true

/-- Decimal places with their point, or none. -/
inductive IsPlaces : List Char → Prop
  | none : IsPlaces []
  | point {digits : List Char} : Digits digits → IsPlaces ('.' :: digits)

/-- An exponent with its letter, or none. -/
inductive IsExponent : List Char → Prop
  | none : IsExponent []
  | letter {e : Char} {sign digits : List Char} : e = 'e' ∨ e = 'E' →
      sign = [] ∨ sign = ['+'] ∨ sign = ['-'] → Digits digits → IsExponent (e :: (sign ++ digits))

/-- The text of a decimal number. -/
inductive IsDecimal : List Char → Prop
  | mk {whole places exponent : List Char} : Digits whole → IsPlaces places → IsExponent exponent →
      IsDecimal (whole ++ places ++ exponent)

/-- The text of a hexadecimal number. -/
inductive IsHexadecimal : List Char → Prop
  | mk {x : Char} {digits : List Char} : x = 'x' ∨ x = 'X' → digits ≠ [] →
      (∀ d ∈ digits, Text.isHexDigit d = true) → IsHexadecimal ('0' :: x :: digits)

/-- Only digits are no decimal places. -/
lemma IsPlaces.eq_nil (h : IsPlaces cs) (hdigits : ∀ c ∈ cs, c.isDigit = true) : cs = [] := by
  cases h with
  | none => rfl
  | point _ => exact absurd (hdigits '.' List.mem_cons_self) (by decide)

/-- Only digits are no exponent. -/
lemma IsExponent.eq_nil (h : IsExponent cs) (hdigits : ∀ c ∈ cs, c.isDigit = true) : cs = [] := by
  cases h with
  | none => rfl
  | letter he =>
    have hdigit := hdigits _ List.mem_cons_self
    rcases he with rfl | rfl <;> cases hdigit

/-- The characters of decimal places.

**Proof sketch.** A point stands in front, and digits behind it. -/
lemma IsPlaces.mem {c : Char} (h : IsPlaces cs) (hc : c ∈ cs) : c.isDigit = true ∨ c = '.' := by
  cases h with
  | none => cases hc
  | point hdigits =>
    rcases List.mem_cons.mp hc with rfl | hc
    · exact .inr rfl
    · exact .inl (hdigits.2 c hc)

/-- The characters of exponents.

**Proof sketch.** The letter stands in front, a sign may follow it, and then come digits. -/
lemma IsExponent.mem {c : Char} (h : IsExponent cs) (hc : c ∈ cs) :
    c.isDigit = true ∨ c = 'e' ∨ c = 'E' ∨ c = '+' ∨ c = '-' := by
  cases h with
  | none => cases hc
  | letter he hsign hdigits =>
    rcases List.mem_cons.mp hc with rfl | hc
    · tauto
    · rcases List.mem_append.mp hc with hc | hc
      · rcases hsign with rfl | rfl | rfl <;> simp at hc <;> simp [hc]
      · exact .inl (hdigits.2 c hc)

/-- The characters of decimal numbers.

**Proof sketch.** They are those of its three parts. -/
lemma IsDecimal.mem {c : Char} (h : IsDecimal cs) (hc : c ∈ cs) :
    c.isDigit = true ∨ c = '.' ∨ c = 'e' ∨ c = 'E' ∨ c = '+' ∨ c = '-' := by
  obtain @⟨whole, places, exponent, hwhole, hplaces, hexponent⟩ := h
  rcases List.mem_append.mp hc with hc | hc
  · rcases List.mem_append.mp hc with hc | hc
    · exact .inl (hwhole.2 c hc)
    · rcases hplaces.mem hc with hc | hc
      · exact .inl hc
      · exact .inr (.inl hc)
  · rcases hexponent.mem hc with hc | hc
    · exact .inl hc
    · exact .inr (.inr hc)

/-- What follows a decimal number does not go on with it, and is no word. -/
structure Separate (all left : List Char) : Prop where
  word : ∀ c ∈ left.head?, isWordChar c = false
  /-- Decimal places would belong to a number that is digits only. -/
  places : (∀ c ∈ all, c.isDigit = true) → ∀ d more, left = '.' :: d :: more → d.isDigit = false

/-! ## Decimal numbers -/

/-- An exponent is read up to the end of its digits.

**Proof sketch.** Without the letter nothing is read. Behind the letter comes a sign or none, and then
the longest row of digits, of which there is one at least. -/
lemma exponentChars_of_eq_ok {exponent : List Char} (h : exponentChars cs = .ok exponent) :
    IsExponent exponent ∧ ∃ left, cs = exponent ++ left ∧
      ((∀ c ∈ cs.head?, c.isDigit = false) → ∀ c ∈ left.head?, c.isDigit = false) := by
  cases cs with
  | nil =>
    cases h
    exact ⟨.none, [], rfl, id⟩
  | cons e rest =>
    rw [exponentChars] at h
    split at h
    · next he =>
      extract_lets sign digits at h
      -- At most one character is taken for a sign.
      have hsign : (sign = [] ∨ sign = ['+'] ∨ sign = ['-']) ∧ rest = sign ++ rest.drop sign.length := by
        simp only [sign]
        cases rest with
        | nil => simp
        | cons c rest =>
          by_cases hplus : c = '+'
          · simp [hplus]
          · by_cases hminus : c = '-'
            · simp [hminus]
            · simp [hplus, hminus]
      obtain ⟨hshape, hrest⟩ := hsign
      obtain ⟨hcut, hdigits, hleft⟩ := takeWhile_spec Char.isDigit (rest.drop sign.length)
      split at h
      · cases h
      · next hne =>
        cases h
        refine ⟨.letter he hshape ⟨hne, hdigits⟩, (rest.drop sign.length).dropWhile Char.isDigit, ?_,
          fun _ => hleft⟩
        rw [List.cons_append, List.append_assoc, ← hcut, ← hrest]
    · cases h
      exact ⟨.none, e :: rest, rfl, id⟩

/-- An exponent is read in front of what goes on no word.

**Proof sketch.** Without an exponent, what follows does not begin with its letter. With one, its digits
end where no digit stands. -/
lemma exponentChars_append {exponent : List Char} (h : IsExponent exponent)
    (hleft : ∀ c ∈ left.head?, isWordChar c = false) :
    exponentChars (exponent ++ left) = .ok exponent := by
  cases h with
  | none =>
    cases left with
    | nil => rfl
    | cons c left =>
      have hc : ¬(c = 'e' ∨ c = 'E') := by
        rintro (rfl | rfl)
        · exact absurd (hleft 'e' rfl) (by decide)
        · exact absurd (hleft 'E' rfl) (by decide)
      rw [List.nil_append, exponentChars, if_neg hc]
  | @letter e sign digits he hsign hdigits =>
    obtain ⟨hne, hdigits⟩ := hdigits
    have hdigit : ∀ c ∈ left.head?, c.isDigit = false := fun c hc =>
      (not_isWordChar_iff.mp (hleft c hc)).2
    obtain ⟨d, digits, rfl⟩ := List.exists_cons_of_ne_nil hne
    have hd := hdigits d List.mem_cons_self
    have hplus : d ≠ '+' := by rintro rfl; cases hd
    have hminus : d ≠ '-' := by rintro rfl; cases hd
    have htake : ((sign ++ (d :: digits ++ left)).take 1).filter (fun c => c == '+' || c == '-') =
        sign := by
      rcases hsign with rfl | rfl | rfl <;> simp [hplus, hminus]
    rw [List.cons_append, List.append_assoc, exponentChars, if_pos he, htake]
    simp only [List.drop_left, (takeWhile_append hdigits hdigit).1, hne, if_false]

/-- The decimal places that a text begins with, if it does. -/
def placesChars (cs : List Char) : List Char :=
  match cs with
  | '.' :: c :: more => if c.isDigit then '.' :: (c :: more).takeWhile Char.isDigit else []
  | _ => []

/-- A point with a digit behind it belongs to the decimal places.

**Proof sketch.** There are places if a point has a digit behind it, and then the longest row of digits
is taken. -/
lemma placesChars_spec (hcs : ∀ c ∈ cs.head?, c.isDigit = false) :
    IsPlaces (placesChars cs) ∧ ∃ tail, cs = placesChars cs ++ tail ∧
      (∀ c ∈ tail.head?, c.isDigit = false) ∧
      (placesChars cs = [] → ∀ d more, tail = '.' :: d :: more → d.isDigit = false) := by
  unfold placesChars
  split
  · next d more =>
    obtain ⟨hmore, hdigits, htail⟩ := takeWhile_spec Char.isDigit (d :: more)
    split
    · next hd =>
      refine ⟨.point ⟨by simp [hd], hdigits⟩, (d :: more).dropWhile Char.isDigit, ?_, htail, by simp⟩
      rw [List.cons_append, ← hmore]
    · next hd =>
      refine ⟨.none, '.' :: d :: more, rfl, hcs, fun _ d' more' heq => ?_⟩
      obtain ⟨rfl, rfl⟩ := List.cons.inj (List.cons.inj heq).2
      exact Bool.not_eq_true _ ▸ hd
  · next hpoint => exact ⟨.none, cs, rfl, hcs, fun _ d more heq => absurd heq (hpoint d more)⟩

/-- Decimal places are read in front of what does not go on with them.

**Proof sketch.** Without places, what follows is no point with a digit behind it. With places, their
digits end where no digit stands. -/
lemma placesChars_append {places tail : List Char} (h : IsPlaces places)
    (htail : ∀ c ∈ tail.head?, c.isDigit = false)
    (hpoint : places = [] → ∀ d more, tail = '.' :: d :: more → d.isDigit = false) :
    placesChars (places ++ tail) = places := by
  cases h with
  | none =>
    rw [List.nil_append]
    unfold placesChars
    split
    · next d more => simp [hpoint rfl d more rfl]
    · rfl
  | point hdigits =>
    obtain ⟨hne, hdigits⟩ := hdigits
    obtain ⟨d, digits, rfl⟩ := List.exists_cons_of_ne_nil hne
    have htake := (takeWhile_append hdigits htail).1
    rw [List.cons_append] at htake
    simp only [placesChars, List.cons_append, hdigits d List.mem_cons_self, if_true, htake]

/-- A decimal number is read up to what is separate from it.

**Proof sketch.** The digits, the places and the exponent are read one behind the other, each as far as
it goes. What is left goes on no word, since otherwise the number would have been refused, and it begins
with places only if there were places or an exponent before. -/
lemma decimalChars_of_eq_ok {c : Char} {rest : List Char} (hc : c.isDigit = true)
    (h : decimalChars (c :: rest) = .ok all) :
    IsDecimal all ∧ ∃ left, c :: rest = all ++ left ∧ Separate all left := by
  unfold decimalChars at h
  extract_lets whole behind places at h
  have hspec : c :: rest = whole ++ behind ∧ (∀ c ∈ whole, c.isDigit = true) ∧
      ∀ c ∈ behind.head?, c.isDigit = false := takeWhile_spec Char.isDigit (c :: rest)
  obtain ⟨hcs, hwhole, hbehind⟩ := hspec
  have hne : whole ≠ [] := by simp [whole, hc]
  have hcut : places = placesChars behind := rfl
  obtain ⟨hplaces, tail, hrest, htail, hpoint⟩ := placesChars_spec hbehind
  rw [← hcut] at hplaces hrest hpoint
  clear_value whole behind places
  rw [hrest, List.drop_left] at h
  cases hexponent : exponentChars tail with
  | error cut => simp [hexponent] at h
  | ok exponent =>
    obtain ⟨hshape, left, rfl, hleft⟩ := exponentChars_of_eq_ok hexponent
    have hall : c :: rest = (whole ++ places ++ exponent) ++ left := by
      rw [hcs, hrest, List.append_assoc, List.append_assoc]
    simp only [hexponent] at h
    rw [hall, List.drop_left] at h
    -- A letter behind the number would have been refused with it.
    have hend : all = whole ++ places ++ exponent ∧ ∀ c ∈ left.head?, isWordStart c = false := by
      cases left with
      | nil =>
        cases h
        exact ⟨rfl, by simp⟩
      | cons c left =>
        simp only at h
        split at h
        · cases h
        · next hstart =>
          cases h
          exact ⟨rfl, by simpa using hstart⟩
    obtain ⟨rfl, hstart⟩ := hend
    refine ⟨.mk ⟨hne, hwhole⟩ hplaces hshape, left, hall, fun c hc => ?_, fun hdigits => ?_⟩
    · exact not_isWordChar_iff.mpr ⟨hstart c hc, hleft htail c hc⟩
    · obtain rfl := hshape.eq_nil fun c hc => hdigits c (List.mem_append_right _ hc)
      have hnil := hplaces.eq_nil fun c hc =>
        hdigits c (List.mem_append_left _ (List.mem_append_right _ hc))
      exact hpoint hnil

/-- A decimal number is read in front of whatever is separate from it.

**Proof sketch.** Each part is read as it stands, since the part behind it does not go on with it.
Behind the last one comes what is separate. -/
lemma decimalChars_append (h : IsDecimal all) (hleft : Separate all left) :
    decimalChars (all ++ left) = .ok all := by
  obtain @⟨whole, places, exponent, ⟨-, hwhole⟩, hplaces, hexponent⟩ := h
  have htail : ∀ c ∈ (exponent ++ left).head?, c.isDigit = false := by
    cases hexponent with
    | none => exact fun c hc => (not_isWordChar_iff.mp (hleft.word c hc)).2
    | letter he =>
      rintro c ⟨⟩
      rcases he with rfl | rfl <;> rfl
  have hbehind : ∀ c ∈ (places ++ (exponent ++ left)).head?, c.isDigit = false := by
    cases hplaces with
    | none => exact htail
    | point _ =>
      rintro c ⟨⟩
      rfl
  -- A point behind the number does not belong to it, so no digit may follow that point.
  have hpoint : places = [] → ∀ d more, exponent ++ left = '.' :: d :: more →
      d.isDigit = false := by
    rintro rfl d more heq
    cases hexponent with
    | none => exact hleft.places (by simpa using hwhole) d more heq
    | letter he =>
      have hchar := (List.cons.inj heq).1
      rcases he with rfl | rfl <;> cases hchar
  have hcs : whole ++ places ++ exponent ++ left = whole ++ (places ++ (exponent ++ left)) := by
    simp only [List.append_assoc]
  obtain ⟨htake, hdrop⟩ := takeWhile_append hwhole hbehind
  unfold decimalChars
  rw [hcs, htake, hdrop]
  extract_lets first behind cut
  have hcut : cut = places := placesChars_append hplaces htail hpoint
  rw [hcut, show behind.drop places.length = exponent ++ left from List.drop_left,
    exponentChars_append hexponent hleft.word]
  simp only [first]
  rw [← hcs, List.drop_left]
  cases left with
  | nil => rfl
  | cons c left =>
    have hstart : isWordStart c = false := (not_isWordChar_iff.mp (hleft.word c rfl)).1
    simp [hstart]

/-! ## Numbers -/

variable {c : Char} {more rest : List Char} {pos count : Nat} {token : Token} {x : Double}

/-- The text of a number, what is left behind it, and the number. -/
inductive NumberText (text left : List Char) : Double → Prop
  | decimal {x : Double} : IsDecimal text → Separate text left → Double.ofChars? text = some x →
      NumberText text left x
  | hexadecimal : IsHexadecimal text → Text.hexNumber (text.drop 2) < 0x10000000000000000 →
      (∀ c ∈ left.head?, Text.isHexDigit c = false) →
      NumberText text left (Double.ofNat (Text.hexNumber (text.drop 2)))

/-- A decimal number begins with a digit. -/
lemma IsDecimal.exists_cons (h : IsDecimal all) : ∃ c more, all = c :: more ∧ c.isDigit = true := by
  obtain @⟨whole, places, exponent, ⟨hne, hdigits⟩, -, -⟩ := h
  obtain ⟨c, whole, rfl⟩ := List.exists_cons_of_ne_nil hne
  exact ⟨c, whole ++ places ++ exponent, rfl, hdigits c List.mem_cons_self⟩

/-- A decimal number is read up to what is separate from it, if it denotes a number.

**Proof sketch.** One direction is `decimalChars_of_eq_ok`, the other one `decimalChars_append`. -/
lemma decimal_eq_ok_iff (hc : c.isDigit = true) :
    decimal pos (c :: rest) = .ok (token, count) ↔
      ∃ more left x, rest = more ++ left ∧ IsDecimal (c :: more) ∧ Separate (c :: more) left ∧
        Double.ofChars? (c :: more) = some x ∧ token = .number x ∧ count = more.length + 1 := by
  constructor
  · intro h
    unfold decimal at h
    split at h
    · cases h
    · next all hall =>
      obtain ⟨hshape, left, hcs, hleft⟩ := decimalChars_of_eq_ok hc hall
      split at h
      · next x hx =>
        cases h
        obtain ⟨d, more, rfl, -⟩ := hshape.exists_cons
        obtain ⟨rfl, rfl⟩ := List.cons.inj hcs
        exact ⟨more, left, x, rfl, hshape, hleft, hx, rfl, rfl⟩
      · cases h
  · rintro ⟨more, left, x, rfl, hshape, hleft, hx, rfl, rfl⟩
    have hall := decimalChars_append hshape hleft
    rw [List.cons_append] at hall
    unfold decimal
    rw [hall]
    simp only [hx, List.length_cons]

/-- A hexadecimal number is read up to the end of its digits, if there are any and they take 64 bits at
most.

**Proof sketch.** The digits are the longest row of them, which ends where no such digit stands. -/
lemma hexadecimal_eq_ok_iff {mark : List Char} :
    hexadecimal pos mark rest = .ok (token, count) ↔
      ∃ digits left, rest = digits ++ left ∧ digits ≠ [] ∧
        (∀ d ∈ digits, Text.isHexDigit d = true) ∧ (∀ c ∈ left.head?, Text.isHexDigit c = false) ∧
        Text.hexNumber digits < 0x10000000000000000 ∧
        token = .number (Double.ofNat (Text.hexNumber digits)) ∧ count = mark.length + digits.length := by
  unfold hexadecimal
  extract_lets digits n
  constructor
  · intro h
    obtain ⟨hrest, hdigits, hleft⟩ := takeWhile_spec Text.isHexDigit rest
    split at h
    · cases h
    · next hfits =>
      obtain ⟨hne, hlt⟩ := not_or.mp hfits
      cases h
      exact ⟨digits, _, hrest, hne, hdigits, hleft, Nat.not_le.mp hlt, rfl, rfl⟩
  · rintro ⟨digits', left, rfl, hne, hdigits, hleft, hlt, rfl, rfl⟩
    have hsame : digits = digits' := (takeWhile_append hdigits hleft).1
    rw [show n = Text.hexNumber digits' from congrArg _ hsame, hsame,
      if_neg (not_or.mpr ⟨hne, Nat.not_le.mpr hlt⟩)]

/-- Whether a text behind a digit `c` makes it the beginning of a hexadecimal number. -/
def MarksHexadecimal (c : Char) (rest : List Char) : Prop :=
  c = '0' ∧ ∃ x digits, rest = x :: digits ∧ (x = 'x' ∨ x = 'X')

/-- Behind `0x` a hexadecimal number is read. -/
lemma number_of_marksHexadecimal {mark : Char} {digits : List Char} (hmark : mark = 'x' ∨ mark = 'X') :
    number pos '0' (mark :: digits) =
      (hexadecimal pos ['0', mark] digits).map fun r => (r.1, r.2 - 1) := by
  simp only [number, true_and, if_pos hmark]
  cases hexadecimal pos ['0', mark] digits <;> rfl

/-- Without the mark of a hexadecimal number a decimal one is read.

**Proof sketch.** One character alone has no mark, and two have one if they are its characters. -/
lemma number_of_not_marksHexadecimal (h : ¬MarksHexadecimal c rest) :
    number pos c rest = (decimal pos (c :: rest)).map fun r => (r.1, r.2 - 1) := by
  cases rest with
  | nil =>
    simp only [number]
    cases decimal pos [c] <;> rfl
  | cons d rest =>
    have hmark : ¬(c = '0' ∧ (d = 'x' ∨ d = 'X')) := fun hd => h ⟨hd.1, d, rest, rfl, hd.2⟩
    simp only [number, if_neg hmark]
    cases decimal pos (c :: d :: rest) <;> rfl

/-- A decimal number that ends in front of what follows is not the beginning of a hexadecimal one.

**Proof sketch.** The letter of the mark would be a character of the number or the first one behind it.
It is neither a character of decimal numbers nor separate from one. -/
lemma IsDecimal.not_marksHexadecimal (h : IsDecimal (c :: more)) (hleft : Separate (c :: more) left) :
    ¬MarksHexadecimal c (more ++ left) := by
  rintro ⟨-, x, digits, hrest, hx⟩
  cases more with
  | nil =>
    have hword := hleft.word x (by rw [← List.nil_append left, hrest]; rfl)
    rcases hx with rfl | rfl <;> cases hword
  | cons d more =>
    obtain ⟨rfl, -⟩ := List.cons.inj hrest
    have hmem := h.mem (List.mem_cons_of_mem c List.mem_cons_self)
    rcases hx with rfl | rfl <;> revert hmem <;> decide

/-- Which number is read: the text of a number, as far as it goes.

**Proof sketch.** The mark of a hexadecimal number decides between the two cases
(`hexadecimal_eq_ok_iff` and `decimal_eq_ok_iff`), and a decimal number does not have it
(`IsDecimal.not_marksHexadecimal`). -/
theorem number_eq_ok_iff (hc : c.isDigit = true) :
    number pos c rest = .ok (token, count) ↔
      ∃ more left x, rest = more ++ left ∧ NumberText (c :: more) left x ∧ token = .number x ∧
        count = more.length := by
  constructor
  · intro h
    by_cases hmark : MarksHexadecimal c rest
    · obtain ⟨rfl, mark, digits, rfl, hmark⟩ := hmark
      rw [number_of_marksHexadecimal hmark] at h
      obtain ⟨⟨token', count'⟩, hread, heq⟩ := exists_of_map_eq_ok h
      cases heq
      obtain ⟨digits, left, rfl, hne, hdigits, hleft, hlt, rfl, rfl⟩ := hexadecimal_eq_ok_iff.mp hread
      refine ⟨mark :: digits, left, _, rfl, .hexadecimal (.mk hmark hne hdigits) hlt hleft, rfl, ?_⟩
      simp only [List.length_cons, List.length_nil]
      omega
    · rw [number_of_not_marksHexadecimal hmark] at h
      obtain ⟨⟨token', count'⟩, hread, heq⟩ := exists_of_map_eq_ok h
      cases heq
      obtain ⟨more, left, x, rfl, hshape, hleft, hx, rfl, rfl⟩ := (decimal_eq_ok_iff hc).mp hread
      exact ⟨more, left, x, rfl, .decimal hshape hleft hx, rfl, rfl⟩
  · rintro ⟨more, left, x, rfl, hnumber, rfl, rfl⟩
    cases hnumber with
    | decimal hshape hleft hx =>
      rw [number_of_not_marksHexadecimal (hshape.not_marksHexadecimal hleft),
        (decimal_eq_ok_iff hc).mpr ⟨more, left, x, rfl, hshape, hleft, hx, rfl, rfl⟩]
      rfl
    | hexadecimal hshape hlt hleft =>
      cases hshape with
      | @mk mark digits hmark hne hdigits =>
        have hread : hexadecimal pos ['0', mark] (digits ++ left) =
            .ok (.number (Double.ofNat (Text.hexNumber digits)), 2 + digits.length) :=
          hexadecimal_eq_ok_iff.mpr ⟨digits, left, rfl, hne, hdigits, hleft, hlt, rfl, rfl⟩
        rw [List.cons_append, number_of_marksHexadecimal hmark, hread]
        simp only [Except.map, List.length_cons]
        congr 2
        omega

/-- A number begins with a digit.

**Proof sketch.** A decimal number does so, and a hexadecimal one begins with zero. -/
lemma NumberText.isDigit (h : NumberText (c :: more) left x) : c.isDigit = true := by
  cases h with
  | decimal hshape _ _ =>
    obtain ⟨d, digits, heq, hd⟩ := hshape.exists_cons
    obtain ⟨rfl, -⟩ := List.cons.inj heq
    exact hd
  | hexadecimal hshape _ _ =>
    cases hshape
    rfl

/-- The characters of numbers have one byte each.

**Proof sketch.** The characters of decimal numbers and of hexadecimal digits are below 128. -/
lemma NumberText.mem_lt (h : NumberText all left x) (hc : c ∈ all) : c.toNat < 128 := by
  cases h with
  | decimal hshape _ _ =>
    rcases hshape.mem hc with hdigit | rfl | rfl | rfl | rfl | rfl
    · have hbounds := bounds_of_isWordChar (isWordChar_of_isDigit hdigit)
      omega
    all_goals decide
  | hexadecimal hshape _ _ =>
    obtain ⟨hmark, -, hdigits⟩ := hshape
    simp only [List.mem_cons] at hc
    rcases hc with rfl | rfl | hc
    · decide
    · rcases hmark with rfl | rfl <;> decide
    · exact lt_of_isHexDigit (hdigits c hc)

/-- A number stays separate if the text is cut off behind it or broken off by a blank.

**Proof sketch.** The first character that is left is the one from before or a blank, and a blank goes
on no word. If a point and a digit are left, then they were there before. -/
lemma Separate.clipped {left' : List Char} (h : Separate all left) (hleft : Clipped left left') :
    Separate all left' := by
  refine ⟨hleft.head (fun _ => id) h.word, fun hdigits d more heq => ?_⟩
  subst heq
  by_contra hd
  rw [Bool.not_eq_false] at hd
  obtain ⟨more', rfl, hclip⟩ := hleft.cons (by decide)
  obtain ⟨more', rfl, -⟩ := hclip.cons (isBlank_of_isDigit hd)
  rw [h.places hdigits d more' rfl] at hd
  cases hd

/-- The text of a number stays one if the text is cut off behind it or broken off by a blank. -/
lemma NumberText.clipped {left' : List Char} (h : NumberText all left x) (hleft : Clipped left left') :
    NumberText all left' x := by
  cases h with
  | decimal hshape hseparate hx => exact .decimal hshape (hseparate.clipped hleft) hx
  | hexadecimal hshape hlt hend =>
    exact .hexadecimal hshape hlt (hleft.head (fun _ => isWordChar_of_isHexDigit) hend)

end Formula.Lexer
