import Formula.Proofs.Builtin.Calls
import Formula.Proofs.Token.Following
import Formula.Proofs.Value.Integer

set_option autoImplicit false

/-!
# Templates put together

A template that is read to the end spells directives, one after the other, and only these. So templates may be
put together, and with them the values that they take: what is written is put together as well.

## Main definitions

* `Formula.Template.Spells` — directives as they are spelled.
* `Formula.Template.needed` — the number of values that directives take.
* `Formula.Template.escape` — text in which all percent signs are doubled.

## Main results

* `Formula.Template.ofChars_eq_iff` — a template is read as the directives that it spells.
* `Formula.Template.writeAll_append` — directives are written one part after the other.
* `Formula.Builtin.Texts.format_append` — `format` writes templates put together as their parts.
-/

namespace Formula

/-- A directive takes a value, and is not text itself. -/
def Directive.takesValue : Directive → Bool
  | .literal _ => false
  | .shown _ | .integer | .places _ => true

namespace Template

variable {c verb : Char} {d : Directive} {ds more : List Directive} {cs rest text : List Char}
  {asked : Option Nat} {fuel : Nat} {name : String} {values others left : List Value}

/-! ## Spelling -/

/-- The number of places in front of a letter: none, or digits behind a point. -/
inductive Places : Option Nat → List Char → Prop
  | usual : Places none []
  | asked {digits : List Char} (hdigits : ∀ c ∈ digits, c.isDigit = true)
      (hplaces : Decimal.ofDigitChars digits ≤ greatestPlaces) :
      Places (some (Decimal.ofDigitChars digits)) ('.' :: digits)

/-- A letter, or a percent sign, asks for a directive. -/
inductive Asks (asked : Option Nat) : Char → Directive → Prop
  | percent : Asks asked '%' (.literal '%')
  | value : Asks asked 'v' (.shown 'v')
  | text : Asks asked 's' (.shown 's')
  | integer : Asks asked 'd' .integer
  | places : Asks asked 'f' (.places (asked.getD usualPlaces))

/-- Directives as they are spelled. -/
inductive Spells : List Directive → List Char → Prop
  | nil : Spells [] []
  | literal {c : Char} {ds : List Directive} {cs : List Char} (hc : c ≠ '%') (h : Spells ds cs) :
      Spells (.literal c :: ds) (c :: cs)
  | directive {asked : Option Nat} {places cs : List Char} {verb : Char} {d : Directive}
      {ds : List Directive} (hplaces : Places asked places) (hverb : Asks asked verb d)
      (h : Spells ds cs) : Spells (d :: ds) ('%' :: (places ++ verb :: cs))

/-- The number of values that directives take. -/
def needed (ds : List Directive) : Nat :=
  ds.countP Directive.takesValue

/-- Text in which all percent signs are doubled. -/
def escape (cs : List Char) : List Char :=
  cs.flatMap fun c => if c = '%' then ['%', '%'] else [c]

/-- Two templates one behind the other spell the directives of both.

**Proof sketch.** Induction on the first one. -/
lemma Spells.append (h : Spells ds cs) (h' : Spells more rest) : Spells (ds ++ more) (cs ++ rest) := by
  induction h with
  | nil => exact h'
  | literal hc _ ih => exact .literal hc ih
  | directive hplaces hverb _ ih =>
    rw [List.cons_append, List.cons_append, List.append_assoc, List.cons_append]
    exact .directive hplaces hverb ih

/-- A text with doubled percent signs spells its characters.

**Proof sketch.** Induction on the text. A percent sign is spelled by a directive, and any other
character by itself. -/
lemma spells_escape (cs : List Char) : Spells (cs.map .literal) (escape cs) := by
  induction cs with
  | nil => exact .nil
  | cons c cs ih =>
    rw [escape, List.flatMap_cons, ← escape, List.map_cons]
    by_cases hc : c = '%'
    · rw [if_pos hc, hc]
      exact .directive .usual .percent ih
    · rw [if_neg hc]
      exact .literal hc ih

/-! ## Reading -/

/-- What asks for a directive is no digit and no point, so it ends the places in front of it. -/
lemma Asks.not_isDigit (h : Asks asked verb d) : verb.isDigit = false ∧ verb ≠ '.' := by
  cases h <;> decide

/-- Places are read up to the letter behind them.

**Proof sketch.** Without places the letter is none that begins them. With a point, the digits behind it
end at the letter. -/
lemma precision_append (h : Places asked cs) (hverb : verb.isDigit = false ∧ verb ≠ '.') :
    precision (cs ++ verb :: rest) = .ok (asked, verb :: rest) := by
  cases h with
  | usual =>
    rw [List.nil_append, precision]
    exact fun _ h => hverb.2 (List.cons.inj h).1
  | asked hdigits hplaces =>
    have hhead : ∀ c ∈ (verb :: rest).head?, c.isDigit = false := by simp [hverb.1]
    obtain ⟨htake, hdrop⟩ := Lexer.takeWhile_append hdigits hhead
    rw [List.cons_append]
    simp only [precision, htake, hdrop, if_pos hplaces]

/-- What is read as places is none or a point with digits.

**Proof sketch.** Only a point begins places, and the longest row of digits behind it is taken. -/
lemma exists_of_precision (h : precision cs = .ok (asked, rest)) :
    ∃ places, Places asked places ∧ cs = places ++ rest := by
  unfold precision at h
  split at h
  case h_1 behind =>
    obtain ⟨hcut, hdigits, -⟩ := Lexer.takeWhile_spec Char.isDigit behind
    dsimp only at h
    split at h
    case isTrue hplaces =>
      cases h
      exact ⟨_, .asked hdigits hplaces, congrArg ('.' :: ·) hcut⟩
    case isFalse => cases h
  case h_2 =>
    cases h
    exact ⟨[], .usual, rfl⟩

/-- A directive behind a percent sign.

**Proof sketch.** The places in front are read (`exists_of_precision`), and there is one case for each
letter. Conversely the places end at the letter (`precision_append`). -/
lemma directive_eq_ok_iff : directive cs = .ok (d, rest) ↔
    ∃ asked places verb, Places asked places ∧ Asks asked verb d ∧ cs = places ++ verb :: rest := by
  constructor
  · intro h
    obtain ⟨⟨asked, behind⟩, hprecision, hread⟩ := Except.bind_eq_ok_iff.mp h
    obtain ⟨places, hplaces, rfl⟩ := exists_of_precision hprecision
    have hasks : ∃ verb, Asks asked verb d ∧ behind = verb :: rest := by
      dsimp only at hread
      split at hread <;> cases hread
      · exact ⟨'%', .percent, rfl⟩
      · exact ⟨'v', .value, rfl⟩
      · exact ⟨'s', .text, rfl⟩
      · exact ⟨'d', .integer, rfl⟩
      · exact ⟨'f', .places, rfl⟩
    obtain ⟨verb, hverb, rfl⟩ := hasks
    exact ⟨asked, places, verb, hplaces, hverb, rfl⟩
  · rintro ⟨asked, places, verb, hplaces, hverb, rfl⟩
    rw [directive, precision_append hplaces hverb.not_isDigit]
    cases hverb <;> rfl

/-- What spells directives is read as them.

**Proof sketch.** Induction on what is spelled. A character other than a percent sign is read as itself,
and behind a percent sign the directive is read (`directive_eq_ok_iff`). -/
lemma Spells.ofCharsWith (h : Spells ds cs) (hfuel : cs.length ≤ fuel) :
    ofCharsWith fuel cs = { directives := ds } := by
  induction h generalizing fuel with
  | nil => rw [Template.ofCharsWith]
  | @literal c ds cs hc _ ih =>
    obtain ⟨fuel, rfl⟩ : ∃ n, fuel = n + 1 := ⟨fuel - 1, by simp at hfuel; omega⟩
    rw [Template.ofCharsWith, ih (by simpa using hfuel), Template.cons]
    exact hc
  | @directive asked places cs verb d ds hplaces hverb _ ih =>
    obtain ⟨fuel, rfl⟩ : ∃ n, fuel = n + 1 := ⟨fuel - 1, by simp at hfuel; omega⟩
    have hdirective : Template.directive (places ++ verb :: cs) = .ok (d, cs) :=
      directive_eq_ok_iff.mpr ⟨asked, places, verb, hplaces, hverb, rfl⟩
    rw [Template.ofCharsWith, hdirective]
    show cons d (Template.ofCharsWith fuel cs) = _
    rw [ih (by simp at hfuel; omega), Template.cons]

/-- What is read to the end spells the directives.

**Proof sketch.** Induction on the reader. Without a fault each of its steps reads a character or a
directive. -/
lemma spells_ofCharsWith (hfuel : cs.length ≤ fuel) (h : (ofCharsWith fuel cs).fault = none) :
    Spells (ofCharsWith fuel cs).directives cs := by
  fun_induction Template.ofCharsWith fuel cs with
  | case1 => exact .nil
  | case2 => simp at hfuel
  | case3 fuel rest d behind hdirective ih =>
    obtain ⟨asked, places, verb, hplaces, hverb, rfl⟩ := directive_eq_ok_iff.mp hdirective
    exact .directive hplaces hverb (ih (by simp at hfuel; omega) h)
  | case4 => cases h
  | case5 fuel c rest hc ih => exact .literal hc (ih (by simpa using hfuel) h)

/-- A template is read as the directives that it spells.

**Proof sketch.** One direction is `spells_ofCharsWith`, the other one `Spells.ofCharsWith`. -/
lemma ofChars_eq_iff : ofChars cs = { directives := ds } ↔ Spells ds cs := by
  constructor
  · intro h
    have hspells : Spells (ofChars cs).directives cs :=
      spells_ofCharsWith le_rfl (congrArg Template.fault h)
    rwa [h] at hspells
  · exact fun h => h.ofCharsWith le_rfl

/-- A template spells one row of directives. -/
lemma Spells.unique (h : Spells ds cs) (h' : Spells more cs) : ds = more :=
  congrArg Template.directives ((ofChars_eq_iff.mpr h).symm.trans (ofChars_eq_iff.mpr h'))

/-! ## Writing -/

/-- The next value is the first one. -/
lemma next_eq_ok_iff {v : Value} : next name verb values = .ok (v, left) ↔ values = v :: left := by
  cases values <;> simp [next]

/-- A directive takes the values it needs off the front, and it does not matter what follows them.

**Proof sketch.** One case for each directive. It takes no value or one, which is shown, read as an
integer or read as a number. -/
lemma exists_taken (h : write name d values = .ok (cs, left)) :
    ∃ taken, values = taken ++ left ∧ taken.length = needed [d] ∧
      ∀ others, write name d (taken ++ others) = .ok (cs, others) := by
  cases d with
  | literal c =>
    cases h
    exact ⟨[], rfl, rfl, fun _ => rfl⟩
  | shown verb =>
    obtain ⟨⟨v, rest⟩, hnext, ⟨⟩⟩ := Except.bind_eq_ok_iff.mp h
    obtain rfl := next_eq_ok_iff.mp hnext
    exact ⟨[v], rfl, rfl, fun others => rfl⟩
  | integer =>
    obtain ⟨⟨v, rest⟩, hnext, hread⟩ := Except.bind_eq_ok_iff.mp h
    obtain ⟨i, hi, ⟨⟩⟩ := Except.bind_eq_ok_iff.mp hread
    obtain rfl := next_eq_ok_iff.mp hnext
    exact ⟨[v], rfl, rfl, fun others =>
      Except.bind_eq_ok_iff.mpr ⟨(v, others), rfl, Except.bind_eq_ok_iff.mpr ⟨i, hi, rfl⟩⟩⟩
  | places n =>
    obtain ⟨⟨v, rest⟩, hnext, hread⟩ := Except.bind_eq_ok_iff.mp h
    obtain ⟨x, hx, ⟨⟩⟩ := Except.bind_eq_ok_iff.mp hread
    obtain rfl := next_eq_ok_iff.mp hnext
    exact ⟨[v], rfl, rfl, fun others =>
      Except.bind_eq_ok_iff.mpr ⟨(v, others), rfl, Except.bind_eq_ok_iff.mpr ⟨x, hx, rfl⟩⟩⟩

/-- Directives are written one after the other, each with the values that are left. -/
lemma writeAll_cons_eq_ok_iff : writeAll name (d :: ds) values = .ok text ↔
    ∃ cs left rest, write name d values = .ok (cs, left) ∧ writeAll name ds left = .ok rest ∧
      text = cs ++ rest := by
  simp only [writeAll, Except.bind_eq_ok_iff, Prod.exists, pure, Except.pure, Except.ok.injEq]
  simp only [← exists_and_left, eq_comm]

/-- A directive in front needs its own values. -/
lemma needed_cons (d : Directive) (ds : List Directive) : needed (d :: ds) = needed [d] + needed ds := by
  rw [← List.singleton_append, needed, List.countP_append, needed, needed]

/-- What is written takes no more values than there are.

**Proof sketch.** Induction on the directives. Each takes the values it needs off the front. -/
lemma needed_le (h : writeAll name ds values = .ok cs) : needed ds ≤ values.length := by
  induction ds generalizing values cs with
  | nil => exact Nat.zero_le _
  | cons d ds ih =>
    obtain ⟨_, left, _, hwrite, hrest, -⟩ := writeAll_cons_eq_ok_iff.mp h
    obtain ⟨taken, rfl, hlength, -⟩ := exists_taken hwrite
    rw [needed_cons, List.length_append, hlength]
    exact Nat.add_le_add_left (ih hrest) _

/-- Directives are written one part after the other if the first part takes the first part of the values.

**Proof sketch.** Induction on the first part. A directive takes the same values whatever follows them
(`exists_taken`), and when none is left, the values of the first part are used up. -/
lemma writeAll_append (h : writeAll name ds values = .ok cs) (hneeded : needed ds = values.length)
    (h' : writeAll name more others = .ok rest) :
    writeAll name (ds ++ more) (values ++ others) = .ok (cs ++ rest) := by
  induction ds generalizing values cs with
  | nil =>
    obtain rfl := List.length_eq_zero_iff.mp hneeded.symm
    cases h
    exact h'
  | cons d ds ih =>
    obtain ⟨front, left, behind, hwrite, hbehind, rfl⟩ := writeAll_cons_eq_ok_iff.mp h
    obtain ⟨taken, rfl, hlength, hfront⟩ := exists_taken hwrite
    rw [needed_cons, List.length_append, hlength, Nat.add_left_cancel_iff] at hneeded
    rw [List.cons_append, List.append_assoc, List.append_assoc]
    exact writeAll_cons_eq_ok_iff.mpr ⟨front, _, _, hfront _, ih hbehind hneeded, rfl⟩

/-- Characters are written as themselves and take no values. -/
lemma writeAll_literals (name : String) (cs : List Char) (values : List Value) :
    writeAll name (cs.map .literal) values = .ok cs := by
  induction cs with
  | nil => rfl
  | cons c cs ih => exact writeAll_cons_eq_ok_iff.mpr ⟨[c], values, cs, rfl, ih, rfl⟩

/-- A template is filled if it has no fault and its directives are written. -/
lemma fill_eq_ok_iff {t : Template} : t.fill name values = .ok cs ↔
    t.fault = none ∧ writeAll name t.directives values = .ok cs := by
  rw [fill, Except.bind_eq_ok_iff]
  cases t.fault <;> simp [pure, Except.pure, throw, throwThe, MonadExceptOf.throw]

/-- A template is filled if it spells directives, which are then written.

**Proof sketch.** A template without a fault spells what was read from it, and directives that are
spelled are read without a fault. -/
lemma fill_ofChars_eq_ok_iff : (ofChars cs).fill name values = .ok text ↔
    ∃ ds, Spells ds cs ∧ writeAll name ds values = .ok text := by
  rw [fill_eq_ok_iff]
  constructor
  · rintro ⟨hfault, hwrite⟩
    exact ⟨_, spells_ofCharsWith le_rfl hfault, hwrite⟩
  · rintro ⟨ds, hspells, hwrite⟩
    rw [ofChars_eq_iff.mpr hspells]
    exact ⟨rfl, hwrite⟩

end Template

namespace Builtin.Texts

open Template

variable {t r : String} {args : List Value}

/-- The function `format` fills its first argument with the others. -/
lemma gives_format (t : String) (args : List Value) : Gives "format" (.string t :: args)
    (((ofChars t.toList).fill "format" args).map .ofChars) := by
  refine gives_plain rfl ?_ rfl
  simp [Arity.accepts]

/-- Templates succeed that spell directives, for which there are enough values of the right kinds.

**Proof sketch.** This is `fill_ofChars_eq_ok_iff` for the text that the function gives. -/
lemma gives_format_iff : Gives "format" (.string t :: args) (.ok (.string r)) ↔
    ∃ ds, Spells ds t.toList ∧ writeAll "format" ds args = .ok r.toList := by
  rw [← fill_ofChars_eq_ok_iff]
  have hgives := gives_format t args
  constructor
  · intro h
    obtain ⟨cs, hfill, hcs⟩ := Lexer.exists_of_map_eq_ok (hgives.unique h)
    obtain rfl := Value.string.inj hcs
    rwa [String.toList_ofList]
  · intro hfill
    rwa [hfill, Except.map, Value.ofChars, String.ofList_toList] at hgives

/-- **`format` is compositional.**

1. Templates may be put together. If two of them are filled, the first with as many values as it takes, then
   both together are filled with the values of both, and the result is put together from the results.
2. A template in which all percent signs of a text are doubled is filled with this text, and all values are
   ignored.
3. A template is not filled if there are fewer values than it takes. This includes one that spells no
   directives at all.

**Proof sketch.** A template that is filled spells directives, and two spellings put together spell the
directives of both. Directives take values off the front and do not look at those behind. So the first ones
leave the others what these have alone. -/
theorem format_append :
    (∀ (t₁ t₂ r₁ r₂ : String) (args₁ args₂ : List Value) (ds : List Directive),
      Spells ds t₁.toList → needed ds = args₁.length →
      Gives "format" (.string t₁ :: args₁) (.ok (.string r₁)) →
      Gives "format" (.string t₂ :: args₂) (.ok (.string r₂)) →
      Gives "format" (.string (t₁ ++ t₂) :: (args₁ ++ args₂)) (.ok (.string (r₁ ++ r₂)))) ∧
    (∀ (s : String) (args : List Value),
      Gives "format" (.string (.ofList (escape s.toList)) :: args) (.ok (.string s))) ∧
    ∀ (t : String) (args : List Value), (∀ ds, Spells ds t.toList → args.length < needed ds) →
      ∃ e, Gives "format" (.string t :: args) (.error e) := by
  refine ⟨?together, ?escaped, ?missing⟩
  case together =>
    intro t₁ t₂ r₁ r₂ args₁ args₂ ds hspells hneeded h₁ h₂
    obtain ⟨first, hfirst, hwrite₁⟩ := gives_format_iff.mp h₁
    obtain ⟨second, hsecond, hwrite₂⟩ := gives_format_iff.mp h₂
    -- A template spells one row of directives only, so the one that was given is the one that was written.
    obtain rfl : ds = first := hspells.unique hfirst
    refine gives_format_iff.mpr ⟨ds ++ second, ?_, ?_⟩
    · rw [String.toList_append]
      exact hspells.append hsecond
    · rw [String.toList_append]
      exact writeAll_append hwrite₁ hneeded hwrite₂
  case escaped =>
    intro s args
    refine gives_format_iff.mpr ⟨s.toList.map .literal, ?_, writeAll_literals _ _ _⟩
    rw [String.toList_ofList]
    exact spells_escape s.toList
  case missing =>
    intro t args hmissing
    have hgives := gives_format t args
    cases hfill : (ofChars t.toList).fill "format" args with
    | error e =>
      rw [hfill] at hgives
      exact ⟨e, hgives⟩
    | ok text =>
      obtain ⟨ds, hspells, hwrite⟩ := fill_ofChars_eq_ok_iff.mp hfill
      exact absurd (hmissing ds hspells) (needed_le hwrite).not_gt

/-- Places that are asked for, a percent sign at the border, a value that is left over, and one that is
missing.

**Proof sketch.** The two parts are spelled and written by evaluation, and the general theorem puts them
together. The one that is missing a value spells more directives than there are values. -/
theorem format_append_percent :
    let three : Value := .number (Double.ofNat 3)
    needed [.places 2, .literal '%'] = [three].length ∧
    Gives "format" [.string "%.2f%%", three] (.ok (.string "3.00%")) ∧
    Gives "format" [.string "d%.1v", .bool true, .null] (.ok (.string "dtrue")) ∧
    Gives "format" [.string "%.2f%%d%.1v", three, .bool true, .null] (.ok (.string "3.00%dtrue")) ∧
    Gives "format" [.string "%%d%%%%", three] (.ok (.string "%d%%")) ∧
    ∃ e, Gives "format" [.string "%.2f%%d%.1v", three] (.error e) := by
  intro three
  obtain ⟨htogether, hescaped, hmissing⟩ := format_append
  have hfirst : Spells [.places 2, .literal '%'] "%.2f%%".toList := ofChars_eq_iff.mp rfl
  have hsecond : Spells [.literal 'd', .shown 'v'] "d%.1v".toList := ofChars_eq_iff.mp rfl
  have hnumber : Gives "format" [.string "%.2f%%", three] (.ok (.string "3.00%")) :=
    gives_format_iff.mpr ⟨_, hfirst, rfl⟩
  have hshown : Gives "format" [.string "d%.1v", .bool true, .null] (.ok (.string "dtrue")) :=
    gives_format_iff.mpr ⟨_, hsecond, rfl⟩
  refine ⟨rfl, hnumber, hshown, htogether _ _ _ _ [three] _ _ hfirst rfl hnumber hshown,
    hescaped "%d%%" [three], hmissing _ _ fun ds hds => ?_⟩
  rw [hds.unique (hfirst.append hsecond)]
  decide

end Builtin.Texts

end Formula
