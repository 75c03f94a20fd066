import Formula.Parser
import Formula.Proofs.Grammar.Soundness
import Mathlib.Control.Monad.Basic

set_option autoImplicit false

/-!
# What the bound on nesting decides

A greater bound changes nothing but the refusals of nesting that is too deep, and a bound that is
greater than the number of tokens refuses nothing. More patterns change nothing but the refusals of
texts that were no patterns before. Both are cases of one statement: a grammar that extends another
keeps every result of it, but for errors of a kind.

## Main definitions

* `Formula.Grammar.Lasting` — a result is none of the errors of a kind.
* `Formula.Grammar.Kept` — a result stays what it is if it is lasting.
* `Formula.Grammar.Extends` — a grammar has the functions of another, and joins what that one joins.
* `Formula.Grammar.Roomy` — a reader of phrases has levels enough for its tokens.

## Main results

* `Formula.Grammar.phrase_kept` — a grammar that extends another keeps its lasting results.
* `Formula.Grammar.phrase_roomy` — more levels than tokens are enough.
* `Formula.Grammar.parse_limit` — what a bound decides for source texts.
-/

namespace Formula

namespace Grammar

variable {α β : Type} {P : SyntaxError → Prop}

/-! ## Results that last -/

/-- The refusals of nesting. -/
def TooDeep (e : SyntaxError) : Prop :=
  ∃ limit pos, e = .tooDeep limit pos

/-- A result is none of the errors `P`. -/
def Lasting (P : SyntaxError → Prop) (o : Except SyntaxError α) : Prop :=
  ∀ e, o = .error e → ¬ P e

/-- A result is not that nesting is too deep. -/
abbrev NotTooDeep (o : Except SyntaxError α) : Prop :=
  Lasting TooDeep o

/-- `Kept P o o'`: in place of `o` comes `o'`, which is the same unless `o` is an error of the kind
`P`. -/
def Kept (P : SyntaxError → Prop) (o o' : Except SyntaxError α) : Prop :=
  Lasting P o → o' = o

/-- What is read is no error. -/
lemma lasting_ok (a : α) : Lasting P (.ok a : Except SyntaxError α) := by
  rintro e ⟨⟩

/-- An error lasts if it is of another kind. -/
lemma lasting_error {e : SyntaxError} (h : ¬ P e) : Lasting P (.error e : Except SyntaxError α) := by
  rintro _ ⟨⟩
  exact h

/-- The kind of an error does not depend on what was to be read. -/
lemma lasting_of_error {o : Except SyntaxError α} {e : SyntaxError} (h : Lasting P o)
    (he : o = .error e) : Lasting P (.error e : Except SyntaxError β) :=
  lasting_error (h e he)

/-- Where nesting is too deep, the result is not lasting. -/
lemma not_lasting_tooDeep (hP : ∀ limit pos, P (.tooDeep limit pos)) (g : Grammar) (pos : Nat) :
    ¬ Lasting P (g.tooDeep pos : Except SyntaxError α) :=
  fun h => h _ rfl (hP _ _)

/-- A result is about nesting exactly if it is that error. -/
lemma notTooDeep_iff {o : Except SyntaxError α} :
    NotTooDeep o ↔ ∀ limit pos, o ≠ .error (.tooDeep limit pos) := by
  refine ⟨fun h limit pos ho => h _ ho ⟨limit, pos, rfl⟩, ?_⟩
  rintro h e ho ⟨limit, pos, rfl⟩
  exact h limit pos ho

/-- A token that cannot come next is refused for another reason than nesting. -/
lemma unexpected_notTooDeep (tokens : List Lexeme) (expected : Expected) :
    NotTooDeep (unexpected tokens expected : Except SyntaxError α) := by
  refine notTooDeep_iff.mpr fun limit pos h => ?_
  unfold unexpected at h
  split at h <;> cases h

/-- A symbol that has to come next is not asked for in vain because of nesting. -/
lemma expect_notTooDeep (s : Symbol) (tokens : List Lexeme) : NotTooDeep (expect s tokens) := by
  unfold expect
  split
  · split
    · exact lasting_ok _
    · exact unexpected_notTooDeep _ _
  · exact unexpected_notTooDeep _ _

/-- Operands are joined whatever the bound is. -/
lemma combine_notTooDeep (g : Grammar) (s : Symbol) (pos : Nat) (l r : Expr) :
    NotTooDeep (g.combine s pos l r) := by
  refine notTooDeep_iff.mpr fun limit pos h => ?_
  unfold combine at h
  split at h
  case h_4 | h_5 => unfold combine.literalMatch at h; split at h <;> cases h
  case h_8 => split at h <;> cases h
  all_goals cases h

/-- What is read is kept. -/
lemma Kept.ok {o o' : Except SyntaxError α} {a : α} (h : Kept P o o') (ho : o = .ok a) :
    o' = .ok a := by
  subst ho
  exact h (lasting_ok a)

/-- An error is kept if it is a lasting one of a whole. -/
lemma Kept.error {o o' : Except SyntaxError α} {e : SyntaxError} (h : Kept P o o')
    (ho : o = .error e) (hn : Lasting P (.error e : Except SyntaxError β)) : o' = .error e := by
  subst ho
  exact h (lasting_of_error hn rfl)

/-- A result is kept if its errors would be lasting ones of a whole. -/
lemma Kept.eq {o o' : Except SyntaxError α} (h : Kept P o o')
    (hn : ∀ e, o = .error e → Lasting P (.error e : Except SyntaxError β)) : o' = o := by
  cases ho : o with
  | error e => exact h.error ho (hn e ho)
  | ok a => exact h.ok ho

/-! ## A grammar that extends another

The bound of the grammar may be greater, and it may have more patterns. -/

/-- `Extends P g g'`: the grammar `g'` has the functions of `g`, and joins operands as `g` does unless
`g` refuses them with an error of the kind `P`. Refusals of nesting are of this kind. -/
structure Extends (P : SyntaxError → Prop) (g g' : Grammar) : Prop where
  resolve_eq : g'.resolve = g.resolve
  tooDeep : ∀ limit pos, P (.tooDeep limit pos)
  combine_kept : ∀ s pos l r, Kept P (g.combine s pos l r) (g'.combine s pos l r)

/-- Lists of kept items are kept.

**Proof sketch.** Induction on the reading of the list. Where it goes on, the items so far have been read;
where it ends with an error, this is one of an item or of a further item, or of a symbol, which is looked
for in the same place. -/
lemma items_kept {item item' : List Lexeme → Outcome α}
    (h : ∀ tokens, Kept P (item tokens) (item' tokens)) (close : Symbol) (fuel : Nat)
    (tokens : List Lexeme) :
    Kept P (items close item fuel tokens) (items close item' fuel tokens) := by
  intro hn
  fun_induction items close item fuel tokens with
  | case1 _ _ _ hclose => rw [items, hclose]
  | case2 _ _ _ hclose _ hx =>
    rw [items, hclose]
    simp only [(h _).error hx hn]
  | case3 _ _ _ hclose _ _ hx _ hcomma _ hend
  | case4 _ _ _ hclose _ _ hx _ hcomma _ hend =>
    rw [items, hclose]
    simp only [(h _).ok hx, hcomma, hend]
  | case5 _ _ hclose _ _ hx _ hcomma =>
    rw [items, hclose]
    simp only [(h _).ok hx, hcomma]
  | case6 _ _ hclose _ _ hx _ hcomma _ _ hxs ih =>
    rw [items, hclose]
    simp only [(h _).ok hx, hcomma, ih (hxs ▸ lasting_of_error hn rfl), hxs]
  | case7 _ _ hclose _ _ hx _ hcomma _ _ _ hxs ih =>
    rw [items, hclose]
    simp only [(h _).ok hx, hcomma, ih (hxs ▸ lasting_ok _), hxs]

section Extends

variable {g g' : Grammar} {inner inner' : Inner}
  (hinner : ∀ p tokens, Kept P (inner p tokens) (inner' p tokens))

include hinner

/-- An entry of a map is kept if its value is. -/
lemma entry_kept (tokens : List Lexeme) :
    Kept P (entry inner tokens) (entry inner' tokens) := by
  intro hn
  unfold entry at hn ⊢
  split
  case h_3 => rfl
  all_goals
    dsimp only at hn ⊢
    split
    · rfl
    · next rest hcolon =>
      simp only [hcolon] at hn
      rw [(hinner .expression rest).eq fun e he => by simpa only [he] using hn]

variable (hg : Extends P g g')

include hg

/-- A chain of accesses may be longer. -/
lemma accesses_kept {left left' : Nat} (hleft : left ≤ left') (e : Expr)
    (tokens : List Lexeme) :
    Kept P (g.accesses inner left e tokens) (g'.accesses inner' left' e tokens) := by
  intro hn
  fun_induction accesses g inner left e tokens generalizing left' with
  | case1 => exact (not_lasting_tooDeep hg.tooDeep _ _ hn).elim
  | case2 _ _ _ _ _ _ _ left ih =>
    obtain ⟨left', rfl⟩ : ∃ n, left' = n + 1 := ⟨left' - 1, by omega⟩
    rw [accesses]
    exact ih (by omega) hn
  | case3 _ _ _ _ _ hrest =>
    rw [accesses]
    exact hrest
  | case4 _ _ _ _ _ _ hp =>
    rw [accesses]
    simp only [(hinner _ _).error hp hn]
  | case5 _ _ _ _ _ _ _ hp _ hclose =>
    rw [accesses]
    simp only [(hinner _ _).ok hp, hclose]
  | case6 => exact (not_lasting_tooDeep hg.tooDeep _ _ hn).elim
  | case7 _ _ _ _ _ _ hp _ hclose left ih =>
    obtain ⟨left', rfl⟩ : ∃ n, left' = n + 1 := ⟨left' - 1, by omega⟩
    rw [accesses]
    simp only [(hinner _ _).ok hp, hclose]
    exact ih (by omega) hn
  | case8 _ _ _ hdot hbracket =>
    rw [accesses]
    · exact hdot
    · exact hbracket

/-- A chain of operators may be longer. -/
lemma operators_kept {least left left' : Nat} (hleft : left ≤ left') (e : Expr)
    (tokens : List Lexeme) :
    Kept P (g.operators inner least left e tokens)
      (g'.operators inner' least left' e tokens) := by
  intro hn
  fun_induction operators g inner least left e tokens generalizing left' with
  | case1 _ _ _ _ _ _ hs =>
    rw [operators]
    simp only [hs]
  | case2 _ _ _ _ _ _ _ hs hk =>
    rw [operators]
    simp only [hs, hk, if_true]
  | case3 _ _ _ _ _ _ _ hs hk _ hr =>
    rw [operators]
    simp only [hs, hk, if_false, (hinner _ _).error hr hn]
  | case4 => exact (not_lasting_tooDeep hg.tooDeep _ _ hn).elim
  | case5 _ _ _ _ _ _ hs hk _ _ hr left _ he =>
    obtain ⟨left', rfl⟩ : ∃ n, left' = n + 1 := ⟨left' - 1, by omega⟩
    rw [operators]
    simp only [hs, hk, if_false, (hinner _ _).ok hr, (hg.combine_kept _ _ _ _).error he hn]
  | case6 _ _ _ _ _ _ hs hk _ _ hr left _ he ih =>
    obtain ⟨left', rfl⟩ : ∃ n, left' = n + 1 := ⟨left' - 1, by omega⟩
    rw [operators]
    simp only [hs, hk, if_false, (hinner _ _).ok hr, (hg.combine_kept _ _ _ _).ok he]
    exact ih (by omega) hn
  | case7 _ _ _ hs =>
    rw [operators]
    exact hs

/-- A call is kept if its arguments are: the function is the same. -/
lemma call_kept (name : String) (pos : Nat) (tokens : List Lexeme) :
    Kept P (g.call inner name pos tokens) (g'.call inner' name pos tokens) := by
  intro hn
  have hitems := items_kept (hinner .expression) .rightParen tokens.length tokens
  unfold call at hn ⊢
  rw [hg.resolve_eq]
  split
  · rfl
  · next definition hname =>
    simp only [hname] at hn
    rw [hitems.eq fun e he => by simpa only [he] using hn]

/-- An operand without operators is kept if what is inside of it is. -/
lemma primary_kept (tokens : List Lexeme) :
    Kept P (g.primary inner tokens) (g'.primary inner' tokens) := by
  intro hn
  unfold primary at hn ⊢
  split
  case h_6 rest => rw [(hinner .expression rest).eq fun e he => by simpa only [he] using hn]
  case h_7 rest =>
    have hitems := items_kept (hinner .expression) .rightBracket rest.length rest
    rw [hitems.eq fun e he => by simpa only [he] using hn]
  case h_8 rest =>
    have hitems := items_kept (entry_kept hinner) .rightBrace rest.length rest
    rw [hitems.eq fun e he => by simpa only [he] using hn]
  case h_9 name pos _ _ _ rest => exact call_kept hinner hg name pos rest hn
  all_goals rfl

/-- Accesses to an operand that is kept are kept. -/
lemma accessed_kept {levels levels' : Nat} (hlevels : levels ≤ levels')
    (tokens : List Lexeme) :
    Kept P (g.accessed inner levels tokens) (g'.accessed inner' levels' tokens) := by
  intro hn
  have hprimary := primary_kept hinner hg tokens
  unfold accessed at hn ⊢
  rw [hprimary.eq fun e he => by simpa only [he] using hn]
  split
  · rfl
  · next hp =>
    simp only [hp] at hn
    exact accesses_kept hinner hg hlevels _ _ hn

/-- Operators in front of an operand that is kept are kept. -/
lemma signed_kept {levels levels' : Nat} (hlevels : levels ≤ levels') (tokens : List Lexeme) :
    Kept P (g.signed inner levels tokens) (g'.signed inner' levels' tokens) := by
  intro hn
  have haccessed := accessed_kept hinner hg hlevels tokens
  unfold signed at hn ⊢
  split
  · next s _ _ rest =>
    dsimp only at hn
    split
    · next op hop =>
      simp only [hop] at hn
      rw [(hinner .signed rest).eq fun e he => by simpa only [he] using hn]
    · next hop =>
      simp only [hop] at hn
      exact haccessed hn
  · next hs =>
    split at hn
    · exact (hs _ _ _ _ rfl).elim
    · exact haccessed hn

/-- Operators behind an operand that is kept are kept. -/
lemma operand_kept {levels levels' : Nat} (hlevels : levels ≤ levels') (least : Nat)
    (tokens : List Lexeme) :
    Kept P (g.operand inner levels least tokens) (g'.operand inner' levels' least tokens) := by
  intro hn
  have hsigned := signed_kept hinner hg hlevels tokens
  unfold operand at hn ⊢
  rw [hsigned.eq fun e he => by simpa only [he] using hn]
  split
  · rfl
  · next hs =>
    simp only [hs] at hn
    exact operators_kept hinner hg hlevels _ _ hn

/-- A choice is kept if all its parts are.

**Proof sketch.** The parts are read one behind the other. Each is kept since an error of it would be one of
the whole, and what comes behind it is the same, since the part is. -/
lemma conditional_kept {levels levels' : Nat} (hlevels : levels ≤ levels')
    (tokens : List Lexeme) :
    Kept P (g.conditional inner levels tokens) (g'.conditional inner' levels' tokens) := by
  intro hn
  have htest := operand_kept hinner hg hlevels 0 tokens
  unfold conditional at hn ⊢
  rw [htest.eq fun e he => by simpa only [he] using hn]
  split
  · rfl
  next ht =>
    simp only [ht] at hn
    split
    · rfl
    next first hq =>
      simp only [hq] at hn
      rw [(hinner .expression first).eq fun e he => by simpa only [he] using hn]
      split
      · rfl
      next hp =>
        simp only [hp] at hn
        split
        · rfl
        next second hc =>
          simp only [hc] at hn
          rw [(hinner .expression second).eq fun e he => by simpa only [he] using hn]

end Extends

/-- A grammar that extends another keeps the lasting results of phrases, and more levels do.

**Proof sketch.** Induction on the levels. Each reader asks for phrases one level deeper, which are kept, and
joins them as the other reader does. -/
lemma phrase_kept {g g' : Grammar} (hg : Extends P g g') {levels levels' : Nat}
    (hlevels : levels ≤ levels') (p : Phrase) (tokens : List Lexeme) :
    Kept P (g.phrase levels p tokens) (g'.phrase levels' p tokens) := by
  induction levels generalizing levels' p tokens with
  | zero => exact fun hn => (not_lasting_tooDeep hg.tooDeep _ _ hn).elim
  | succ levels ih =>
    obtain ⟨levels', rfl⟩ : ∃ n, levels' = n + 1 := ⟨levels' - 1, by omega⟩
    have hle : levels ≤ levels' := by omega
    cases p with
    | expression => exact conditional_kept (ih hle) hg hle tokens
    | operand least => exact operand_kept (ih hle) hg hle least tokens
    | signed => exact signed_kept (ih hle) hg hle tokens

/-! ## A bound that is great enough -/

/-- A reader of phrases is sound, and refuses no nesting among fewer than `levels` tokens. -/
structure Roomy (resolve : String → Option Definition) (compile : String → Option Pattern)
    (inner : Inner) (levels : Nat) : Prop where
  sound : Sound resolve compile inner
  notTooDeep : ∀ {p tokens}, tokens.length < levels → NotTooDeep (inner p tokens)

/-- What a phrase leaves is shorter than the tokens it is read from. -/
lemma Roomy.shorter {resolve : String → Option Definition} {compile : String → Option Pattern}
    {inner : Inner} {levels : Nat}
    (hr : Roomy resolve compile inner levels) {p : Phrase} {tokens rest : List Lexeme} {e : Expr}
    (h : inner p tokens = .ok (e, rest)) : rest.length < tokens.length :=
  (hr.sound _ _ _ _ h).1.length_lt

/-- A symbol that has to come next is one token. -/
lemma length_expect {s : Symbol} {tokens rest : List Lexeme} (h : expect s tokens = .ok rest) :
    rest.length < tokens.length := by
  obtain ⟨a, b, rfl⟩ := expect_eq_ok_iff.mp h
  simp

/-- Lists among fewer tokens than there are levels are never nested too deep, if their items are not.

**Proof sketch.** Induction on the reading of the list. Each further item is read from fewer tokens, as the
item before has left no more than it was read from, and a comma has been taken. -/
lemma items_notTooDeep {close : Symbol} {item : List Lexeme → Outcome α} {n : Nat}
    (hshort : ∀ {tokens x rest}, item tokens = .ok (x, rest) → rest.length ≤ tokens.length)
    (hitem : ∀ {tokens}, tokens.length < n → NotTooDeep (item tokens)) (fuel : Nat)
    (tokens : List Lexeme) (h : tokens.length < n) :
    NotTooDeep (items close item fuel tokens) := by
  fun_induction items close item fuel tokens with
  | case1 => exact lasting_ok _
  | case2 _ _ _ _ _ hx => exact lasting_of_error (hitem h) hx
  | case3 _ _ _ _ _ _ _ _ _ _ hend => exact lasting_of_error (expect_notTooDeep _ _) hend
  | case4 => exact lasting_ok _
  | case5 => exact unexpected_notTooDeep _ _
  | case6 _ _ _ _ _ hx _ hcomma _ _ hxs ih =>
    have := hshort hx
    have := length_expect hcomma
    exact lasting_of_error (ih (by omega)) hxs
  | case7 => exact lasting_ok _

section Roomy

variable {g : Grammar} {inner : Inner} {levels : Nat}
  (hr : Roomy g.resolve g.compile inner levels)

include hr

/-- Entries of maps among fewer tokens than there are levels are never nested too deep. -/
lemma entry_notTooDeep {tokens : List Lexeme} (h : tokens.length < levels) :
    NotTooDeep (entry inner tokens) := by
  unfold entry
  split
  case h_3 => exact unexpected_notTooDeep _ _
  all_goals
    dsimp only
    split
    · next hcolon => exact lasting_of_error (expect_notTooDeep _ _) hcolon
    · next tail hcolon =>
      have hlen := length_expect hcolon
      rw [List.length_cons] at h
      split
      · next he => exact lasting_of_error (hr.notTooDeep (by omega)) he
      · exact lasting_ok _

/-- What an entry leaves is no longer than the tokens it is read from. -/
lemma length_entry {tokens rest : List Lexeme} {x : String × Expr}
    (h : entry inner tokens = .ok (x, rest)) : rest.length ≤ tokens.length := by
  obtain ⟨_, _, _, mid, tail, rfl, -, hcolon, he⟩ := entry_ok h
  have := length_expect hcolon
  have := hr.shorter he
  rw [List.length_cons]
  omega

/-- Lists of expressions among fewer tokens than there are levels are never nested too deep. -/
lemma list_notTooDeep (close : Symbol) {tokens : List Lexeme} (h : tokens.length < levels) :
    NotTooDeep (items close (inner .expression) tokens.length tokens) :=
  items_notTooDeep (fun hx => Nat.le_of_lt (hr.shorter hx)) hr.notTooDeep _ _ h

/-- Calls with fewer tokens behind their parenthesis than there are levels are never nested too deep. -/
lemma call_notTooDeep (name : String) (pos : Nat) {tokens : List Lexeme}
    (h : tokens.length < levels) : NotTooDeep (g.call inner name pos tokens) := by
  unfold call
  split
  · exact notTooDeep_iff.mpr (by rintro _ _ ⟨⟩)
  split
  · next hargs => exact lasting_of_error (list_notTooDeep hr _ h) hargs
  split
  · exact lasting_ok _
  · exact notTooDeep_iff.mpr (by rintro _ _ ⟨⟩)

/-- Operands without operators may have as many tokens as there are levels, since what is inside of one stands
behind a token that has been taken. -/
lemma primary_notTooDeep {tokens : List Lexeme} (h : tokens.length ≤ levels) :
    NotTooDeep (g.primary inner tokens) := by
  unfold primary
  split
  case h_6 =>
    rw [List.length_cons] at h
    split
    · next he => exact lasting_of_error (hr.notTooDeep (by omega)) he
    split
    · next hclose => exact lasting_of_error (expect_notTooDeep _ _) hclose
    · exact lasting_ok _
  case h_7 =>
    rw [List.length_cons] at h
    split
    · next hes => exact lasting_of_error (list_notTooDeep hr _ (by omega)) hes
    · exact lasting_ok _
  case h_8 =>
    rw [List.length_cons] at h
    split
    · next hes =>
      exact lasting_of_error (items_notTooDeep (length_entry hr) (entry_notTooDeep hr) _ _
        (by omega)) hes
    · exact lasting_ok _
  case h_9 =>
    rw [List.length_cons, List.length_cons] at h
    exact call_notTooDeep hr _ _ (by omega)
  case h_11 => exact unexpected_notTooDeep _ _
  all_goals exact lasting_ok _

/-- A chain of accesses that may be as long as the tokens are many is not too long. -/
lemma accesses_notTooDeep {left : Nat} (e : Expr) (tokens : List Lexeme)
    (h : tokens.length ≤ levels) (hleft : tokens.length ≤ left) :
    NotTooDeep (g.accesses inner left e tokens) := by
  fun_induction accesses g inner left e tokens with
  | case1 => simp at hleft
  | case2 _ _ _ _ _ _ _ _ ih =>
    simp only [List.length_cons] at h hleft
    exact ih (by omega) (by omega)
  | case3 => exact unexpected_notTooDeep _ _
  | case4 _ _ _ _ _ _ hp =>
    rw [List.length_cons] at h
    exact lasting_of_error (hr.notTooDeep (by omega)) hp
  | case5 _ _ _ _ _ _ _ _ _ hclose => exact lasting_of_error (expect_notTooDeep _ _) hclose
  | case6 => simp at hleft
  | case7 _ _ _ _ _ _ hp _ hclose _ ih =>
    have := hr.shorter hp
    have := length_expect hclose
    rw [List.length_cons] at h hleft
    exact ih (by omega) (by omega)
  | case8 => exact lasting_ok _

/-- Operands with accesses may have as many tokens as there are levels. -/
lemma accessed_notTooDeep {tokens : List Lexeme} (h : tokens.length ≤ levels) :
    NotTooDeep (g.accessed inner levels tokens) := by
  unfold accessed
  split
  · next hp => exact lasting_of_error (primary_notTooDeep hr h) hp
  · next hp =>
    have := ((primary_ok hp).reads hr.sound).length_lt
    exact accesses_notTooDeep hr _ _ (by omega) (by omega)

/-- Operands with operators in front may have as many tokens as there are levels. -/
lemma signed_notTooDeep {tokens : List Lexeme} (h : tokens.length ≤ levels) :
    NotTooDeep (g.signed inner levels tokens) := by
  have haccessed := accessed_notTooDeep hr h
  unfold signed
  split
  · rw [List.length_cons] at h
    split
    · split
      · next he => exact lasting_of_error (hr.notTooDeep (by omega)) he
      · exact lasting_ok _
    · exact haccessed
  · exact haccessed

/-- A chain of operators that may be as long as the tokens are many is not too long. -/
lemma operators_notTooDeep {least left : Nat} (e : Expr) (tokens : List Lexeme)
    (h : tokens.length ≤ levels) (hleft : tokens.length ≤ left) :
    NotTooDeep (g.operators inner least left e tokens) := by
  fun_induction operators g inner least left e tokens with
  | case1 | case2 | case7 => exact lasting_ok _
  | case3 _ _ _ _ _ _ _ _ _ _ hright =>
    rw [List.length_cons] at h
    exact lasting_of_error (hr.notTooDeep (by omega)) hright
  | case4 => simp at hleft
  | case5 _ _ _ _ _ _ _ _ _ _ _ _ _ he => exact lasting_of_error (combine_notTooDeep _ _ _ _ _) he
  | case6 _ _ _ _ _ _ _ _ _ _ hright _ _ _ ih =>
    have := hr.shorter hright
    rw [List.length_cons] at h hleft
    exact ih (by omega) (by omega)

/-- Operands with operators behind may have as many tokens as there are levels. -/
lemma operand_notTooDeep (least : Nat) {tokens : List Lexeme} (h : tokens.length ≤ levels) :
    NotTooDeep (g.operand inner levels least tokens) := by
  unfold operand
  split
  · next hs => exact lasting_of_error (signed_notTooDeep hr h) hs
  · next hs =>
    have := (signed_reads hr.sound hs).length_lt
    exact operators_notTooDeep hr _ _ (by omega) (by omega)

/-- Choices may have as many tokens as there are levels.

**Proof sketch.** The alternatives are read a level deeper, but the operand and the question mark in front
of them are at least two tokens. -/
lemma conditional_notTooDeep {tokens : List Lexeme} (h : tokens.length ≤ levels) :
    NotTooDeep (g.conditional inner levels tokens) := by
  unfold conditional
  split
  · next ht => exact lasting_of_error (operand_notTooDeep hr 0 h) ht
  next ht =>
    have htest := (operand_reads hr.sound ht).1.length_lt
    split
    · exact lasting_ok _
    next hq =>
      have hquestion := length_expect hq
      split
      · next hp => exact lasting_of_error (hr.notTooDeep (by omega)) hp
      next hp =>
        have hpositive := hr.shorter hp
        split
        · next hc => exact lasting_of_error (expect_notTooDeep _ _) hc
        next hc =>
          have hcolon := length_expect hc
          split
          · next hneg => exact lasting_of_error (hr.notTooDeep (by omega)) hneg
          · exact lasting_ok _

end Roomy

/-- More levels than tokens are enough.

**Proof sketch.** A level is only entered behind a token that is taken, and every round of a chain
takes a token, so the levels and the rounds that are left are never fewer than the tokens. -/
lemma phrase_roomy (g : Grammar) (levels : Nat) :
    Roomy g.resolve g.compile (g.phrase levels) levels := by
  refine ⟨phrase_sound g levels, ?_⟩
  induction levels with
  | zero => exact fun h => absurd h (Nat.not_lt_zero _)
  | succ levels ih =>
    intro p tokens h
    have hr : Roomy g.resolve g.compile (g.phrase levels) levels := ⟨phrase_sound g levels, ih⟩
    have hle : tokens.length ≤ levels := by omega
    cases p with
    | expression => exact conditional_notTooDeep hr hle
    | operand least => exact operand_notTooDeep hr least hle
    | signed => exact signed_notTooDeep hr hle

/-! ## Source texts -/

/-- A lasting result on all tokens is kept by a grammar that extends another. -/
lemma expression_kept {g g' : Grammar} (hg : Extends P g g') (hlimit : g.limit ≤ g'.limit)
    (tokens : List Lexeme) : Kept P (g.expression tokens) (g'.expression tokens) := by
  intro hn
  have hphrase := phrase_kept hg hlimit .expression tokens
  cases tokens with
  | nil => rfl
  | cons t tail =>
    simp only [expression] at hn ⊢
    rw [hphrase.eq fun e he => by simpa only [he] using hn]

/-- A grammar with the same functions and patterns extends another but for the bound. -/
lemma Agree.toExtends {g g' : Grammar} (h : Agree g g') : Extends TooDeep g g' where
  resolve_eq := h.resolve_eq
  tooDeep limit pos := ⟨limit, pos, rfl⟩
  combine_kept s pos l r _ := combine_congr h.compile_eq s pos l r

/-- Fewer tokens than the bound says are never nested too deep. -/
lemma expression_notTooDeep {g : Grammar} {tokens : List Lexeme} (h : tokens.length < g.limit) :
    NotTooDeep (g.expression tokens) := by
  have hphrase := (phrase_roomy g g.limit).notTooDeep (p := .expression) h
  unfold expression
  split
  · exact notTooDeep_iff.mpr (by rintro _ _ ⟨⟩)
  · split
    · next hp => exact lasting_of_error hphrase hp
    · exact lasting_ok _
    · exact notTooDeep_iff.mpr (by rintro _ _ ⟨⟩)

/-- **A bound on nesting only ever refuses nesting.** A greater bound gives the same expression or
the same error, unless nesting was too deep for the smaller one; and where there are fewer tokens
than the bound says, it is never too deep.

**Proof sketch.** The tokens do not depend on the bound, and `phrase_kept` and `phrase_roomy` say
the two things about the reading of tokens. -/
theorem parse_limit (resolve : String → Option Definition) (compile : String → Option Pattern)
    (source : String) :
    (∀ {limit limit' : Nat}, limit ≤ limit' →
      (∀ n pos, Grammar.parse resolve compile limit source ≠ .error (.tooDeep n pos)) →
      Grammar.parse resolve compile limit' source = Grammar.parse resolve compile limit source) ∧
    ∀ {tokens : List Lexeme} {stop limit : Nat},
      Lexeme.ofChars source.toList = .ok (tokens, stop) → tokens.length + 1 ≤ limit →
      ∀ n pos, Grammar.parse resolve compile limit source ≠ .error (.tooDeep n pos) := by
  constructor
  · intro limit limit' hlimit hn
    unfold Grammar.parse at hn ⊢
    cases ht : Lexeme.ofChars source.toList with
    | error e => rfl
    | ok r =>
      rw [ht] at hn
      let g : Grammar := ⟨resolve, compile, limit, r.2⟩
      let g' : Grammar := ⟨resolve, compile, limit', r.2⟩
      have hagree : Agree g g' := ⟨rfl, rfl⟩
      exact expression_kept hagree.toExtends hlimit r.1 (notTooDeep_iff.mpr hn)
  · intro tokens stop limit ht hlimit
    rw [Grammar.parse_eq ht]
    exact notTooDeep_iff.mp (expression_notTooDeep (g := ⟨resolve, compile, limit, stop⟩) hlimit)

/-- Three levels are enough for `[[a] b` to be refused for its `b`, so it is refused for that under
the bound `9` too, and its five tokens are never nested too deep for the bound `6`. -/
theorem parse_limit_missing_comma :
    Grammar.parse (fun _ => none) (fun _ => none) 3 "[[a] b" =
      .error (.unexpectedToken (.identifier "b") 5) ∧
    Grammar.parse (fun _ => none) (fun _ => none) 9 "[[a] b" =
      Grammar.parse (fun _ => none) (fun _ => none) 3 "[[a] b" ∧
    ∀ n pos,
      Grammar.parse (fun _ => none) (fun _ => none) 6 "[[a] b" ≠ .error (.tooDeep n pos) := by
  have ht : Lexeme.ofChars "[[a] b".toList = .ok ([⟨.symbol .leftBracket, 0, 1⟩,
      ⟨.symbol .leftBracket, 1, 2⟩, ⟨.identifier "a", 2, 3⟩, ⟨.symbol .rightBracket, 3, 4⟩,
      ⟨.identifier "b", 5, 6⟩], 6) := by
    decide +kernel
  have hparse : Grammar.parse (fun _ => none) (fun _ => none) 3 "[[a] b" =
      .error (.unexpectedToken (.identifier "b") 5) := by
    rw [Grammar.parse_eq ht]
    rfl
  obtain ⟨hgreater, hroom⟩ := parse_limit (fun _ => none) (fun _ => none) "[[a] b"
  refine ⟨hparse, hgreater (by decide) fun n pos h => ?_, hroom ht (by decide)⟩
  rw [hparse] at h
  cases h

end Grammar

end Formula
