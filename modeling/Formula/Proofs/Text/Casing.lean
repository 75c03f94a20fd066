import Formula.Text.Casing
import Mathlib.Data.List.Infix
import Mathlib.Tactic.Lemma

set_option autoImplicit false

/-!
# The lower case of a part of a text

Every character has its lower case on its own, but for capital sigmas: what stands around one decides
whether it becomes a final sigma. So a part of a text has the lower case that it has by itself, provided
that it decides this for each of its capital sigmas. If it leaves this open for one of them, a single
letter in front of it or behind it makes a difference.

## Main definitions

* `Formula.Text.toLowerBetween` — the lower case of a text that stands between two others.
* `Formula.Text.Settled` — a text that decides which of its capital sigmas become final ones.
* `Formula.Text.ordinary` — the ordinary small sigma for the final one.

## Main results

* `Formula.Text.toLowerBetween_append` — the lower case of a text is that of its parts, where they stand.
* `Formula.Text.infix_toLower_iff` — the lower case of a text occurs in the lower case of every text in
  which it occurs exactly if the text is settled.
* `Formula.Text.infix_map_ordinary_toLower` — it always does if the two small sigmas count as one.
-/

namespace Formula.Text

variable {before after cs ds part left right : List Char} {c : Char}

/-! ## Looking for a cased letter -/

/-- Casing passes over all characters of the text. -/
def PassedOver (cs : List Char) : Prop :=
  ∀ c ∈ cs, Unicode.caseIgnorable.contains c = true

/-- The first character decides whether a cased letter comes first, unless casing passes over it. -/
lemma casedAhead_cons : casedAhead (c :: cs) =
    if Unicode.caseIgnorable.contains c then casedAhead cs else Unicode.cased.contains c := by
  by_cases hc : Unicode.caseIgnorable.contains c = true
  · rw [if_pos hc, casedAhead, List.dropWhile_cons_of_pos hc, casedAhead]
  · rw [if_neg hc, casedAhead, List.dropWhile_cons_of_neg hc]

/-- What casing passes over shows no cased letter, and what stands behind it is looked at. -/
lemma casedAhead_append_of_passedOver (h : PassedOver cs) :
    casedAhead (cs ++ ds) = casedAhead ds := by
  induction cs with
  | nil => rfl
  | cons c cs ih =>
    obtain ⟨hc, hrest⟩ := List.forall_mem_cons.mp h
    rw [List.cons_append, casedAhead_cons, if_pos hc, ih hrest]

/-- There is no cased letter ahead where casing passes over everything. -/
lemma casedAhead_of_passedOver (h : PassedOver cs) : casedAhead cs = false := by
  rw [← List.append_nil cs, casedAhead_append_of_passedOver h]
  rfl

/-- Otherwise what stands behind is not looked at.

**Proof sketch.** Induction on the text. The first character that casing does not pass over decides. -/
lemma casedAhead_append_of_not_passedOver (h : ¬PassedOver cs) :
    casedAhead (cs ++ ds) = casedAhead cs := by
  induction cs with
  | nil => exact absurd (fun _ hc => absurd hc List.not_mem_nil) h
  | cons c cs ih =>
    rw [List.cons_append, casedAhead_cons, casedAhead_cons]
    by_cases hc : Unicode.caseIgnorable.contains c = true
    · rw [if_pos hc, if_pos hc]
      exact ih fun hrest => h (List.forall_mem_cons.mpr ⟨hc, hrest⟩)
    · rw [if_neg hc, if_neg hc]

/-! ## Capital sigmas -/

/-- For a capital sigma with the given text before it, in reverse, and after it, the text leaves open which
small sigma it becomes. No cased letter follows, and either casing passes over all that stands before
it, so that a cased letter may still stand in front; or there is a cased letter before it and casing passes
over all that follows, so that a cased letter may still stand behind. -/
def Unsettled (before after : List Char) : Prop :=
  casedAhead after = false ∧ (PassedOver before ∨ casedAhead before = true ∧ PassedOver after)

/-- For none of its capital sigmas the text leaves open which small sigma it becomes. -/
def Settled (cs : List Char) : Prop :=
  ∀ before after, cs = before ++ 'Σ' :: after → ¬Unsettled before.reverse after

/-- What stands around a text changes a small sigma only if the text leaves it open.

**Proof sketch.** A sigma is final if a cased letter stands before it and none behind it. If one of the
two questions is settled with no by the text itself, the other does not matter, and if both can be
answered within the text, nothing around it is looked at. -/
lemma sigma_append (h : ¬Unsettled before after) (left right : List Char) :
    sigma (before ++ left) (after ++ right) = sigma before after := by
  have hfinal : (casedAhead (before ++ left) && !casedAhead (after ++ right)) =
      (casedAhead before && !casedAhead after) := by
    cases hafter : casedAhead after with
    | true =>
      have hstop : ¬PassedOver after := fun hpass => by
        simp [casedAhead_of_passedOver hpass] at hafter
      rw [casedAhead_append_of_not_passedOver hstop, hafter, Bool.not_true, Bool.and_false,
        Bool.and_false]
    | false =>
      obtain ⟨hstop, hopen⟩ := not_or.mp fun hopen => h ⟨hafter, hopen⟩
      rw [casedAhead_append_of_not_passedOver hstop]
      cases hbefore : casedAhead before with
      | true =>
        have hbehind : ¬PassedOver after := fun hpass => hopen ⟨hbefore, hpass⟩
        rw [casedAhead_append_of_not_passedOver hbehind, hafter]
      | false => rw [Bool.false_and, Bool.false_and]
  unfold sigma
  rw [hfinal]

/-! ## Parts of a text -/

/-- The lower case of a text between the text before it, in reverse, and the text after it. -/
def toLowerBetween (before : List Char) (cs after : List Char) : List Char :=
  match cs with
  | [] => []
  | c :: rest =>
    (if c = 'Σ' then [sigma before (rest ++ after)] else Unicode.lowerOf c)
      ++ toLowerBetween (c :: before) rest after

/-- The lower case of the first character comes first, and is taken into account by the rest. -/
lemma toLowerBetween_cons (before : List Char) (c : Char) (cs after : List Char) :
    toLowerBetween before (c :: cs) after =
      (if c = 'Σ' then [sigma before (cs ++ after)] else Unicode.lowerOf c)
        ++ toLowerBetween (c :: before) cs after :=
  rfl

/-- The lower case of a text is that of its parts, where they stand.

**Proof sketch.** Induction on the first part. -/
lemma toLowerBetween_append (before cs ds after : List Char) :
    toLowerBetween before (cs ++ ds) after =
      toLowerBetween before cs (ds ++ after) ++ toLowerBetween (cs.reverse ++ before) ds after := by
  induction cs generalizing before with
  | nil => rfl
  | cons c cs ih =>
    rw [List.cons_append, toLowerBetween_cons, toLowerBetween_cons, ih, List.append_assoc,
      List.append_assoc, List.reverse_cons, List.append_assoc]
    rfl

/-- The lower case behind some text is that between this text and nothing. -/
lemma toLowerAfter_eq (before cs : List Char) :
    toLowerAfter before cs = toLowerBetween before cs [] := by
  induction cs generalizing before with
  | nil => rfl
  | cons c cs ih => rw [toLowerBetween_cons, ← ih, List.append_nil]; rfl

/-- The lower case of a text is that between nothing and nothing. -/
lemma toLower_eq (cs : List Char) : toLower cs = toLowerBetween [] cs [] :=
  toLowerAfter_eq [] cs

/-- Without capital sigmas the text around does not matter. -/
lemma toLowerBetween_of_not_mem (h : 'Σ' ∉ cs) :
    toLowerBetween before cs after = cs.flatMap Unicode.lowerOf := by
  induction cs generalizing before with
  | nil => rfl
  | cons c cs ih =>
    obtain ⟨hc, hrest⟩ := List.ne_and_not_mem_of_not_mem_cons h
    rw [toLowerBetween_cons, if_neg (Ne.symm hc), ih hrest, List.flatMap_cons]

/-- Where the text leaves open no capital sigma, what stands around it does not matter. A part of what stands
before it may count as the text.

**Proof sketch.** Induction on the text. The character that has been dealt with joins the text before
the rest, where every sigma of the rest is settled too. -/
lemma toLowerBetween_of_settled
    (h : ∀ u v, cs = u ++ 'Σ' :: v → ¬Unsettled (u.reverse ++ before) v) (left right : List Char) :
    toLowerBetween (before ++ left) cs right = toLowerBetween before cs [] := by
  induction cs generalizing before with
  | nil => rfl
  | cons c cs ih =>
    have hrest : toLowerBetween (c :: before ++ left) cs right =
        toLowerBetween (c :: before) cs [] := by
      refine ih fun u v huv => ?_
      have hsettled := h (c :: u) v (congrArg (c :: ·) huv)
      rwa [List.reverse_cons, List.append_assoc] at hsettled
    have hsigma : c = 'Σ' → sigma (before ++ left) (cs ++ right) = sigma before (cs ++ []) := by
      rintro rfl
      rw [List.append_nil]
      exact sigma_append (h [] cs rfl) left right
    rw [toLowerBetween_cons, toLowerBetween_cons, ← hrest]
    by_cases hc : c = 'Σ'
    · rw [if_pos hc, if_pos hc, hsigma hc]
      rfl
    · rw [if_neg hc, if_neg hc]
      rfl

/-! ## Occurrences -/

/-- Where a text occurs in another, its lower case there occurs in the lower case of the other. -/
lemma exists_infix_toLower (h : part <:+: cs) :
    ∃ before after, toLowerBetween before part after <:+: toLower cs := by
  obtain ⟨left, right, rfl⟩ := h
  refine ⟨left.reverse, right, toLowerBetween [] left (part ++ right),
    toLowerBetween ((left ++ part).reverse) right [], ?_⟩
  rw [toLower_eq, toLowerBetween_append, toLowerBetween_append, List.append_nil, List.append_nil,
    List.append_nil]

/-- A settled text has the same lower case wherever it occurs.

**Proof sketch.** The lower case of a text contains that of its part between what stands around it,
which does not matter. -/
lemma infix_toLower_of_settled (hsettled : Settled part) (h : part <:+: cs) :
    toLower part <:+: toLower cs := by
  obtain ⟨before, after, hinfix⟩ := exists_infix_toLower h
  have hparts : ∀ u v, part = u ++ 'Σ' :: v → ¬Unsettled (u.reverse ++ []) v := by
    intro u v huv
    rw [List.append_nil]
    exact hsettled u v huv
  have hlower := toLowerBetween_of_settled hparts before after
  rw [List.nil_append, ← toLower_eq] at hlower
  rwa [hlower] at hinfix

/-- The ordinary small sigma for the final one, and every other character as it is. -/
def ordinary (c : Char) : Char :=
  if c = 'ς' then 'σ' else c

/-- Either small sigma is an ordinary one. -/
lemma ordinary_sigma (before after : List Char) : ordinary (sigma before after) = 'σ' := by
  unfold sigma
  split <;> rfl

/-- If the two small sigmas count as one, the text around does not matter.

**Proof sketch.** Induction on the text. -/
lemma map_ordinary_toLowerBetween (before after left right cs : List Char) :
    (toLowerBetween before cs after).map ordinary =
      (toLowerBetween left cs right).map ordinary := by
  induction cs generalizing before left with
  | nil => rfl
  | cons c cs ih =>
    rw [toLowerBetween_cons, toLowerBetween_cons, List.map_append, List.map_append,
      ih (c :: before) (c :: left)]
    by_cases hc : c = 'Σ'
    · rw [if_pos hc, if_pos hc, List.map_singleton, List.map_singleton, ordinary_sigma, ordinary_sigma]
    · rw [if_neg hc, if_neg hc]

/-- What stands around a text does not change the length of its lower case. -/
lemma length_toLowerBetween (before after left right cs : List Char) :
    (toLowerBetween before cs after).length = (toLowerBetween left cs right).length := by
  have h := congrArg List.length (map_ordinary_toLowerBetween before after left right cs)
  rwa [List.length_map, List.length_map] at h

/-- If the two small sigmas count as one, the lower case of a text occurs wherever the text does. -/
lemma infix_map_ordinary_toLower (h : part <:+: cs) :
    (toLower part).map ordinary <:+: (toLower cs).map ordinary := by
  obtain ⟨before, after, hinfix⟩ := exists_infix_toLower h
  have hmap := hinfix.map ordinary
  rwa [map_ordinary_toLowerBetween before after [] [], ← toLower_eq] at hmap

/-! ## A letter in front or behind -/

/-- A text with one character behind it is not the same as with another one in front. -/
lemma append_singleton_ne_cons {a b : Char} (h : a ≠ b) (cs : List Char) : cs ++ [a] ≠ b :: cs := by
  induction cs with
  | nil => simpa using h
  | cons c cs ih =>
    intro heq
    obtain ⟨rfl, htail⟩ := List.cons.inj heq
    exact ih htail

/-- A text does not occur in itself with one character replaced and another one in front, if both are
different from the character that was there.

**Proof sketch.** The two texts differ by one in length. If the first one stood at the end, the replaced
character would be the one that was there. If it stood at the start, what is before that character would be
the same with it behind as with the other one in front. -/
lemma not_infix_cons_replaced {a c d : Char} {u v w : List Char} (hlength : v.length = w.length)
    (hd : c ≠ d) (ha : c ≠ a) : ¬u ++ c :: v <:+: a :: (u ++ d :: w) := by
  intro hinfix
  rcases List.infix_cons_iff.mp hinfix with hprefix | hinfix
  · have hstart : u ++ [c] <+: a :: (u ++ d :: w) :=
      List.IsPrefix.trans ⟨v, (List.append_cons u c v).symm⟩ hprefix
    have hsame : a :: u <+: a :: (u ++ d :: w) := List.prefix_append (a :: u) _
    have heq := (List.prefix_of_prefix_length_le hstart hsame (by simp)).eq_of_length (by simp)
    exact append_singleton_ne_cons ha u heq
  · have heq := hinfix.eq_of_length (by simp [hlength])
    exact hd (List.cons.inj (List.append_cancel_left heq)).1

/-- The same for another character behind. -/
lemma not_infix_replaced_concat {a c d : Char} {u v w : List Char} (hlength : u.length = w.length)
    (hd : c ≠ d) (ha : c ≠ a) : ¬u ++ c :: v <:+: w ++ d :: v ++ [a] := by
  intro hinfix
  have hreverse : v.reverse ++ c :: u.reverse <:+: a :: (v.reverse ++ d :: w.reverse) := by
    simpa using List.reverse_infix.mpr hinfix
  exact not_infix_cons_replaced (by simpa using hlength) hd ha hreverse

/-- An alpha is a cased letter. -/
lemma casedAhead_alpha : casedAhead ('Α' :: cs) = true := by
  rw [casedAhead_cons, if_neg (by decide +kernel)]
  decide +kernel

/-- Casing does not pass over capital sigmas. -/
lemma not_mem_of_passedOver (h : PassedOver cs) : 'Σ' ∉ cs := by
  intro hmem
  have hstop : Unicode.caseIgnorable.contains 'Σ' = false := by decide +kernel
  rw [h 'Σ' hmem] at hstop
  cases hstop

/-- The lower case around a capital sigma. -/
lemma toLowerBetween_around (left before after right : List Char) :
    toLowerBetween left (before ++ 'Σ' :: after) right =
      toLowerBetween left before ('Σ' :: (after ++ right)) ++
        sigma (before.reverse ++ left) (after ++ right) ::
          toLowerBetween ('Σ' :: (before.reverse ++ left)) after right := by
  rw [toLowerBetween_append, toLowerBetween_cons, if_pos rfl]
  rfl

/-- If a capital sigma only has characters before it that casing passes over, and no cased letter
behind it, a letter in front makes it a final one.

**Proof sketch.** The sigma is ordinary in the text and final behind the letter. The two lower cases
differ in this one character, and there is only one more character in front, so the shorter one would
have to be moved by it, which the change of the sigma excludes. -/
lemma not_infix_toLower_cons (hbefore : PassedOver before) (hafter : casedAhead after = false) :
    ¬toLower (before ++ 'Σ' :: after) <:+: toLower ('Α' :: (before ++ 'Σ' :: after)) := by
  have hreverse : PassedOver before.reverse := fun c hc => hbefore c (List.mem_reverse.mp hc)
  have hhere : sigma (before.reverse ++ []) (after ++ []) = 'σ' := by
    rw [sigma, casedAhead_append_of_passedOver hreverse]
    rfl
  have hthere : sigma (before.reverse ++ ['Α']) (after ++ []) = 'ς' := by
    rw [sigma, casedAhead_append_of_passedOver hreverse, casedAhead_alpha, List.append_nil, hafter]
    rfl
  have hnone : 'Σ' ∉ before := not_mem_of_passedOver hbefore
  have hletter : toLower ('Α' :: (before ++ 'Σ' :: after)) =
      'α' :: toLowerBetween ['Α'] (before ++ 'Σ' :: after) [] := by
    rw [toLower_eq, toLowerBetween_cons, if_neg (by decide), show Unicode.lowerOf 'Α' = ['α'] by rfl]
    rfl
  rw [hletter, toLower_eq, toLowerBetween_around, toLowerBetween_around, hhere, hthere,
    toLowerBetween_of_not_mem hnone, toLowerBetween_of_not_mem hnone]
  exact not_infix_cons_replaced (length_toLowerBetween _ _ _ _ _) (by decide) (by decide)

/-- If a capital sigma has a cased letter before it, and only characters behind it that casing passes over, a
letter behind makes it an ordinary one.

**Proof sketch.** As before: the sigma is final in the text and ordinary in front of the letter. -/
lemma not_infix_toLower_concat (hbefore : casedAhead before.reverse = true)
    (hafter : PassedOver after) :
    ¬toLower (before ++ 'Σ' :: after) <:+: toLower (before ++ 'Σ' :: after ++ ['Α']) := by
  have hhere : sigma (before.reverse ++ []) (after ++ []) = 'ς' := by
    rw [sigma, List.append_nil, List.append_nil, hbefore, casedAhead_of_passedOver hafter]
    rfl
  have hthere : sigma (before.reverse ++ []) (after ++ ['Α']) = 'σ' := by
    rw [sigma, casedAhead_append_of_passedOver hafter, casedAhead_alpha, Bool.not_true,
      Bool.and_false]
    rfl
  have hnone : 'Σ' ∉ after := not_mem_of_passedOver hafter
  have hletter : toLower (before ++ 'Σ' :: after ++ ['Α']) =
      toLowerBetween [] (before ++ 'Σ' :: after) ['Α'] ++ ['α'] := by
    rw [toLower_eq, toLowerBetween_append, toLowerBetween_cons, if_neg (by decide)]
    rfl
  rw [hletter, toLower_eq, toLowerBetween_around, toLowerBetween_around, hhere, hthere,
    toLowerBetween_of_not_mem hnone, toLowerBetween_of_not_mem hnone]
  exact not_infix_replaced_concat (length_toLowerBetween _ _ _ _ _) (by decide) (by decide)

/-- The lower case of a text occurs in the lower case of every text in which it occurs, exactly if the text
decides which of its capital sigmas become final ones.

**Proof sketch.** A settled text keeps its lower case everywhere. If a sigma is open, a letter in front
or behind decides it against the text alone. -/
theorem infix_toLower_iff :
    (∀ cs, part <:+: cs → toLower part <:+: toLower cs) ↔ Settled part := by
  refine ⟨fun h before after hpart hopen => ?_, fun hsettled cs => infix_toLower_of_settled hsettled⟩
  subst hpart
  rcases hopen with ⟨hafter, hbefore | ⟨hbefore, hpass⟩⟩
  · have hreverse : PassedOver before := fun c hc => hbefore c (List.mem_reverse.mpr hc)
    exact not_infix_toLower_cons hreverse hafter (h _ (List.infix_cons (List.infix_refl _)))
  · exact not_infix_toLower_concat hbefore hpass (h _ (List.infix_append' [] _ ['Α']))

end Formula.Text
