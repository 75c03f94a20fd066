import Formula.Proofs.Grammar.Walk

set_option autoImplicit false

/-!
# Walks that come to what is read

A walk over the tokens is held against a reader of lists of tokens. The walk follows the reader if it
goes forward from its start, comes back to its depth, and comes to what is read from the tokens behind
its start. It has a fare: so many tokens at least, and for every token eleven entries, with something to
spare or in excess. The steps of which routines are made follow the steps of which readers are made, and
what is left of the fare goes to the rest of the walk.

## Main definitions

* `Formula.Grammar.Path` — where a walk goes.
* `Formula.Grammar.Fare` — what a walk takes.
* `Formula.Grammar.Follows` — a walk comes to what is read.

## Main results

* `Formula.Grammar.Path.append`, `Formula.Grammar.Path.nested` — paths behind each other, and on a level
  of their own.
* `Formula.Grammar.Follows.bind` — one walk after another.
* `Formula.Grammar.Follows.eat`, `Formula.Grammar.Follows.expect`, `Formula.Grammar.Follows.nested`,
  `Formula.Grammar.Follows.checkDepth` — the steps of routines.
-/

namespace Formula

namespace Grammar

variable {g : Grammar} {tokens : List Lexeme} {levels : Nat} {α β : Type} {c c₁ c₂ : Cursor}
  {log log' : List Cursor}

/-! ## Where a walk goes -/

/-- A cursor in front of a token or of the end, with so many levels left. -/
structure Cursor.Inside (g : Grammar) (tokens : List Lexeme) (levels : Nat) (c : Cursor) : Prop where
  pos_le : c.pos ≤ tokens.length
  depth_add : c.depth + levels = g.limit

/-- A walk goes forward and stays inside, and it stops at the depth where it started. -/
structure Path (g : Grammar) (tokens : List Lexeme) (c : Cursor) (log : List Cursor) (stop : Cursor) :
    Prop where
  depth_eq : stop.depth = c.depth
  le_stop : c.pos ≤ stop.pos
  stop_le : stop.pos ≤ tokens.length
  forward : log.Pairwise fun x y => x.pos ≤ y.pos
  inside : ∀ x ∈ log, c.pos ≤ x.pos ∧ x.pos ≤ stop.pos ∧ x.depth ≤ g.limit

/-- The walk that stands still. -/
lemma Cursor.Inside.path (hc : c.Inside g tokens levels) : Path g tokens c [] c :=
  ⟨rfl, Nat.le_refl _, hc.pos_le, .nil, nofun⟩

/-- A walk that starts inside stops inside, with as many levels left. -/
lemma Path.inside_stop (h : Path g tokens c log c₁) (hc : c.Inside g tokens levels) :
    c₁.Inside g tokens levels :=
  ⟨h.stop_le, h.depth_eq ▸ hc.depth_add⟩

/-- One walk after another.

**Proof sketch.** Whatever the first part passes lies before its stop, and whatever the second one
passes lies behind it. -/
lemma Path.append (h : Path g tokens c log c₁) (h' : Path g tokens c₁ log' c₂) :
    Path g tokens c (log ++ log') c₂ := by
  refine ⟨h'.depth_eq.trans h.depth_eq, Nat.le_trans h.le_stop h'.le_stop, h'.stop_le, ?_, ?_⟩
  · refine List.pairwise_append.mpr ⟨h.forward, h'.forward, fun x hx y hy => ?_⟩
    exact Nat.le_trans (h.inside x hx).2.1 (h'.inside y hy).1
  · intro x hx
    rcases List.mem_append.mp hx with hx | hx
    · obtain ⟨hstart, hstop, hdepth⟩ := h.inside x hx
      exact ⟨hstart, Nat.le_trans hstop h'.le_stop, hdepth⟩
    · obtain ⟨hstart, hstop, hdepth⟩ := h'.inside x hx
      exact ⟨Nat.le_trans h.le_stop hstart, hstop, hdepth⟩

/-- A walk one level deeper, with the entries for the level.

**Proof sketch.** The first entry stands where the inner walk starts, and the last one where it stops,
so the positions never fall. The level itself is one of those that are left. -/
lemma Path.nested (h : Path g tokens c.deeper log c₁) (hlevel : c.depth < g.limit) :
    Path g tokens c (c.deeper :: log ++ [c₁.shallower]) c₁.shallower := by
  have hdepth : c₁.shallower.depth = c.depth := by
    show c₁.depth - 1 = c.depth
    rw [h.depth_eq]
    rfl
  refine ⟨hdepth, h.le_stop, h.stop_le, ?_, fun x hx => ?_⟩
  · simp only [List.cons_append, List.pairwise_cons, List.pairwise_append, List.mem_append,
      List.mem_singleton]
    refine ⟨?_, h.forward, ⟨nofun, .nil⟩, ?_⟩
    · rintro x (hx | rfl)
      · exact (h.inside x hx).1
      · exact h.le_stop
    · rintro x hx _ rfl
      exact (h.inside x hx).2.1
  · simp only [List.cons_append, List.mem_cons, List.mem_append, List.not_mem_nil, or_false] at hx
    rcases hx with rfl | hx | rfl
    · exact ⟨Nat.le_refl _, h.le_stop, hlevel⟩
    · exact h.inside x hx
    · exact ⟨h.le_stop, Nat.le_refl _, by omega⟩

/-! ## What a walk takes -/

/-- The least number of tokens that a walk takes if it has a result, and how many entries it may make in
excess of eleven for each token that it takes, if it has a result or is refused. -/
structure Fare where
  least : Nat
  price : Int
  loss : Int

/-- What is left of a fare for the rest of a walk. -/
def Fare.after (f : Fare) (least : Nat) (price : Int) : Fare :=
  ⟨f.least - least, f.price - price, f.loss - price⟩

/-- A number of entries is covered by the tokens between two positions and some extra. -/
def Covered (entries start stop : Nat) (extra : Int) : Prop :=
  (entries : Int) ≤ 11 * (stop - start : Int) + extra

/-- Entries are covered together by the tokens that cover them apart. -/
lemma Covered.add {n n' start mid stop : Nat} {p q : Int} (h : Covered n start mid p)
    (h' : Covered n' mid stop (q - p)) : Covered (n + n') start stop q := by
  unfold Covered at *
  omega

/-- What is covered stays so with more in excess. -/
lemma Covered.mono {n start stop : Nat} {p q : Int} (h : Covered n start stop p) (hpq : p ≤ q) :
    Covered n start stop q := by
  unfold Covered at *
  omega

/-- A walk comes to what is read from the tokens behind its start, for its fare. -/
def Course.Ends (tokens : List Lexeme) (c : Cursor) (course : Course α) (fare : Fare)
    (outcome : Outcome α) : Prop :=
  match outcome with
  | .ok (a, rest) => course.result = .ok a ∧ rest = tokens.drop course.stop.pos ∧
      c.pos + fare.least ≤ course.stop.pos ∧
      Covered course.log.length c.pos course.stop.pos fare.price
  | .error e => course.result = .error (.refused e) ∧
      Covered course.log.length c.pos course.stop.pos fare.loss

/-- A walk goes along the tokens to what is read from them. -/
structure Follows (g : Grammar) (tokens : List Lexeme) (c : Cursor) (course : Course α)
    (outcome : Outcome α) (fare : Fare) : Prop where
  path : Path g tokens c course.log course.stop
  ends : course.Ends tokens c fare outcome

/-- What is read behind an expression. -/
def Outcome.andThen (o : Outcome Expr) (next : Expr → List Lexeme → Outcome β) : Outcome β :=
  match o with
  | .error e => .error e
  | .ok (e, rest) => next e rest

section Steps

variable {m : Walk α} {k : α → Walk β} {o : Outcome α} {o' : Outcome β} {s f : Fare} {a : α}
  {e : SyntaxError}

/-- A walk with a result goes on with the next one, and their logs are joined. -/
lemma bind_eq_of_ok (h : m.run c = ⟨.ok a, c₁, log⟩) :
    (m >>= k).run c = ⟨((k a).run c₁).result, ((k a).run c₁).stop, log ++ ((k a).run c₁).log⟩ := by
  show (Walk.andThen m k).run c = _
  simp only [Walk.andThen, h]

/-- A walk that is halted does not go on. -/
lemma bind_eq_of_error {h : Halt} (hm : m.run c = ⟨.error h, c₁, log⟩) :
    (m >>= k).run c = ⟨.error h, c₁, log⟩ := by
  show (Walk.andThen m k).run c = _
  simp only [Walk.andThen, hm]

/-- A walk with a result and another one from where it stops, which has what is left of the fare.

**Proof sketch.** The paths are joined, and so are the logs. If the second walk is refused, then the
whole is, and otherwise both have taken their tokens. -/
lemma Follows.extend {least : Nat} {price : Int} (hm : m.run c = ⟨.ok a, c₁, log⟩)
    (hpath : Path g tokens c log c₁) (hleast : c.pos + least ≤ c₁.pos)
    (hlog : Covered log.length c.pos c₁.pos price)
    (hk : Follows g tokens c₁ ((k a).run c₁) o' (f.after least price)) :
    Follows g tokens c ((m >>= k).run c) o' f := by
  obtain ⟨hpath', hends⟩ := hk
  rw [bind_eq_of_ok hm]
  refine ⟨hpath.append hpath', ?_⟩
  rcases o' with e | ⟨b, rest⟩
  · obtain ⟨hresult, hlog'⟩ := hends
    exact ⟨hresult, List.length_append ▸ hlog.add hlog'⟩
  · obtain ⟨hresult, hrest, hleast', hlog'⟩ := hends
    refine ⟨hresult, hrest, ?_, List.length_append ▸ hlog.add hlog'⟩
    dsimp only [Fare.after] at hleast' ⊢
    omega

/-- **One walk after another.** What is read is refused if the first part of it is, and otherwise it is
what the second walk comes to behind the first one.

**Proof sketch.** If the first walk is refused, there is no second one, and its log has to be covered by
the loss of the whole. Otherwise the second one extends it (`Follows.extend`). -/
lemma Follows.bind (hm : Follows g tokens c (m.run c) o s) (hc : c.Inside g tokens levels)
    (hloss : s.loss ≤ f.loss) (herror : ∀ e, o = .error e → o' = .error e)
    (hok : ∀ a c', c'.Inside g tokens levels → c.pos + s.least ≤ c'.pos →
      o = .ok (a, tokens.drop c'.pos) →
      Follows g tokens c' ((k a).run c') o' (f.after s.least s.price)) :
    Follows g tokens c ((m >>= k).run c) o' f := by
  rcases hrun : m.run c with ⟨r, stop, log⟩
  rw [hrun] at hm
  obtain ⟨hpath, hends⟩ := hm
  rcases o with e | ⟨a, rest⟩
  · obtain ⟨rfl, hlog⟩ := hends
    obtain rfl := herror e rfl
    rw [bind_eq_of_error hrun]
    exact ⟨hpath, rfl, hlog.mono hloss⟩
  · obtain ⟨rfl, rfl, hleast, hlog⟩ := hends
    exact .extend hrun hpath hleast hlog (hok a stop (hpath.inside_stop hc) hleast rfl)

/-- A walk that goes on with what an expression is followed by.

**Proof sketch.** This is `Follows.bind` for outcomes that pass on a refusal as it is. -/
lemma Follows.andThen {m : Walk Expr} {k : Expr → Walk β} {o : Outcome Expr}
    {next : Expr → List Lexeme → Outcome β} (hm : Follows g tokens c (m.run c) o s)
    (hc : c.Inside g tokens levels) (hloss : s.loss ≤ f.loss)
    (hk : ∀ e c', c'.Inside g tokens levels → c.pos + s.least ≤ c'.pos →
      Follows g tokens c' ((k e).run c') (next e (tokens.drop c'.pos)) (f.after s.least s.price)) :
    Follows g tokens c ((m >>= k).run c) (o.andThen next) f := by
  refine hm.bind hc hloss ?_ ?_
  · rintro e rfl
    rfl
  · rintro e c' hc' hpos rfl
    exact hk e c' hc' hpos

/-- A walk may take more tokens and make fewer entries.

**Proof sketch.** The bounds of the fare are inequalities, so they are weakened one by one. -/
lemma Follows.mono {course : Course α} (h : Follows g tokens c course o s)
    (hfare : f.least ≤ s.least ∧ s.price ≤ f.price ∧ s.loss ≤ f.loss) :
    Follows g tokens c course o f := by
  obtain ⟨hpath, hends⟩ := h
  obtain ⟨hleast, hprice, hloss⟩ := hfare
  refine ⟨hpath, ?_⟩
  rcases o with e | ⟨a, rest⟩
  · exact ⟨hends.1, hends.2.mono hloss⟩
  · obtain ⟨hresult, hrest, htaken, hlog⟩ := hends
    exact ⟨hresult, hrest, by omega, hlog.mono hprice⟩

/-- What does not move the cursor is free. -/
lemma Follows.stay (hm : m.run c = ⟨.ok a, c, []⟩) (hk : Follows g tokens c ((k a).run c) o' f) :
    Follows g tokens c ((m >>= k).run c) o' f := by
  rw [bind_eq_of_ok hm]
  exact hk

/-- A refusal on the spot makes no entry. -/
lemma follows_refused (hm : m.run c = ⟨.error (.refused e), c, []⟩) (hc : c.Inside g tokens levels)
    (hloss : 0 ≤ f.loss) : Follows g tokens c (m.run c) (.error e) f := by
  rw [hm]
  refine ⟨hc.path, rfl, ?_⟩
  unfold Covered
  simpa using hloss

/-- A result on the spot takes no token and makes no entry. -/
lemma follows_pure (hc : c.Inside g tokens levels) (hleast : f.least = 0) (hprice : 0 ≤ f.price) :
    Follows g tokens c ((pure a : Walk α).run c) (.ok (a, tokens.drop c.pos)) f := by
  refine ⟨hc.path, rfl, rfl, ?_, ?_⟩
  · rw [hleast]
    exact Nat.le_refl _
  · unfold Covered
    simpa [pure] using hprice

/-- A step with an entry, which takes a token or stands still.

**Proof sketch.** The one entry is the place where the step stops. A token that is taken covers eleven
entries, so ten are left over. -/
lemma Follows.step {least : Nat} (hm : m.run c = ⟨.ok a, c₁, [c₁]⟩) (hc : c.Inside g tokens levels)
    (hc₁ : c₁.Inside g tokens levels) (hpos : c₁.pos = c.pos + least)
    (hk : Follows g tokens c₁ ((k a).run c₁) o' (f.after least (1 - 11 * least))) :
    Follows g tokens c ((m >>= k).run c) o' f := by
  obtain ⟨hle, hdepth⟩ := hc
  obtain ⟨hle₁, hdepth₁⟩ := hc₁
  refine .extend hm ⟨by omega, by omega, hle₁, List.pairwise_singleton _ _, ?_⟩ (by omega) ?_ hk
  · simp only [List.mem_singleton, forall_eq]
    omega
  · unfold Covered
    rw [List.length_singleton]
    omega

end Steps

/-! ## Steps over tokens -/

section Tokens

variable {k : Option Lexeme → Walk β} {o : Outcome β} {f : Fare} {t : Lexeme} {symbol : Symbol}
  {expected : Expected}

/-- A look at the next token does not move.

**Proof sketch.** The list that is looked at has one more entry for the end of the tokens, and the
cursor is inside it. -/
lemma peek_eq (hc : c.Inside g tokens levels) :
    (Walk.peek tokens).run c = ⟨.ok tokens[c.pos]?, c, []⟩ := by
  have hpeek : (tokens.map some ++ [none])[c.pos]? = some tokens[c.pos]? := by
    rcases Nat.lt_or_eq_of_le hc.pos_le with hlt | heq
    · rw [List.getElem?_append_left (by simpa using hlt)]
      simp [hlt]
    · rw [List.getElem?_append_right (by simp [heq])]
      simp [heq]
  simp only [Walk.peek, hpeek]

/-- A walk may look at the next token before it goes on. -/
lemma Follows.peek (hc : c.Inside g tokens levels)
    (hk : Follows g tokens c ((k tokens[c.pos]?).run c) o f) :
    Follows g tokens c ((Walk.peek tokens >>= k).run c) o f :=
  .stay (peek_eq hc) hk

/-- The tokens behind a cursor begin with the one that it is in front of. -/
lemma drop_of_some (ht : tokens[c.pos]? = some t) :
    tokens.drop c.pos = t :: tokens.drop c.next.pos := by
  obtain ⟨hlt, rfl⟩ := List.getElem?_eq_some_iff.mp ht
  exact List.drop_eq_getElem_cons hlt

/-- There are no tokens behind a cursor that is in front of none. -/
lemma drop_of_none (ht : tokens[c.pos]? = none) : tokens.drop c.pos = [] :=
  List.drop_eq_nil_of_le (List.getElem?_eq_none_iff.mp ht)

/-- A cursor in front of a token is still inside behind it. -/
lemma inside_next (hc : c.Inside g tokens levels) (ht : tokens[c.pos]? = some t) :
    c.next.Inside g tokens levels :=
  ⟨(List.getElem?_eq_some_iff.mp ht).1, hc.depth_add⟩

/-- Where there is a token, an advance takes it and makes an entry. -/
lemma advance_of_some (hc : c.Inside g tokens levels) (ht : tokens[c.pos]? = some t) :
    (Walk.advance tokens).run c = ⟨.ok (some t), c.next, [c.next]⟩ := by
  unfold Walk.advance
  rw [bind_eq_of_ok (peek_eq hc), ht]
  rfl

/-- At the end nothing is taken. -/
lemma advance_of_none (hc : c.Inside g tokens levels) (ht : tokens[c.pos]? = none) :
    (Walk.advance tokens).run c = ⟨.ok none, c, [c]⟩ := by
  unfold Walk.advance
  rw [bind_eq_of_ok (peek_eq hc), ht]
  rfl

/-- A walk may take the next token and go on behind it. -/
lemma Follows.advance (hc : c.Inside g tokens levels) (ht : tokens[c.pos]? = some t)
    (hk : c.next.Inside g tokens levels →
      Follows g tokens c.next ((k (some t)).run c.next) o (f.after 1 (-10))) :
    Follows g tokens c ((Walk.advance tokens >>= k).run c) o f :=
  have hnext := inside_next hc ht
  .step (advance_of_some hc ht) hc hnext rfl (hk hnext)

/-- What comes next is refused as it is refused in a list. -/
lemma unexpected_toList (expected : Expected) :
    unexpected tokens[c.pos]?.toList expected =
      (unexpected (tokens.drop c.pos) expected : Except SyntaxError β) := by
  cases ht : tokens[c.pos]? with
  | none => rw [drop_of_none ht, Option.toList_none]
  | some t => rw [drop_of_some ht]; rfl

/-- The same tokens are refused alike by all readers. -/
lemma exists_unexpected_eq (tokens : List Lexeme) (expected : Expected) :
    ∃ e, ∀ α, (unexpected tokens expected : Except SyntaxError α) = .error e := by
  cases tokens with
  | nil => exact ⟨_, fun α => rfl⟩
  | cons t rest => exact ⟨_, fun α => rfl⟩

/-- A walk refuses the next token with the complaint of the grammar. -/
lemma unexpected_eq {e : SyntaxError} (hc : c.Inside g tokens levels)
    (he : (unexpected (tokens.drop c.pos) expected : Except SyntaxError β) = .error e) :
    (Walk.unexpected tokens expected : Walk β).run c = ⟨.error (.refused e), c, []⟩ := by
  unfold Walk.unexpected
  rw [bind_eq_of_ok (peek_eq hc), unexpected_toList, he]
  rfl

/-- A refusal of the next token is the one of the grammar, and makes no entry. -/
lemma follows_unexpected (hc : c.Inside g tokens levels) (hloss : 0 ≤ f.loss) :
    Follows g tokens c ((Walk.unexpected tokens expected : Walk β).run c)
      (unexpected (tokens.drop c.pos) expected) f := by
  obtain ⟨e, he⟩ := exists_unexpected_eq (tokens.drop c.pos) expected
  rw [he]
  exact follows_refused (unexpected_eq hc (he _)) hc hloss

/-- A symbol that comes next is taken, and otherwise nothing is.

**Proof sketch.** The next token is looked at. If it is the symbol, then it is taken with one entry, and
the grammar takes it too. If it is another token, or there is none, the grammar refuses it. -/
lemma eat_cases (hc : c.Inside g tokens levels) (symbol : Symbol) :
    ((Walk.eat tokens symbol).run c = ⟨.ok true, c.next, [c.next]⟩ ∧ c.next.Inside g tokens levels ∧
      expect symbol (tokens.drop c.pos) = .ok (tokens.drop c.next.pos)) ∨
    (Walk.eat tokens symbol).run c = ⟨.ok false, c, []⟩ ∧
      expect symbol (tokens.drop c.pos) = unexpected (tokens.drop c.pos) (.symbol symbol) := by
  unfold Walk.eat
  rw [bind_eq_of_ok (peek_eq hc)]
  cases ht : tokens[c.pos]? with
  | none =>
    rw [drop_of_none ht]
    exact .inr ⟨rfl, rfl⟩
  | some t =>
    rw [drop_of_some ht]
    obtain ⟨token, start, stop⟩ := t
    cases token with
    | symbol s =>
      by_cases hs : s = symbol
      · refine .inl ⟨?_, inside_next hc ht, ?_⟩
        · simp only [hs, if_true]
          rw [bind_eq_of_ok (advance_of_some hc ht)]
          rfl
        · simp [expect, hs]
      · refine .inr ⟨?_, ?_⟩
        · simp only [hs, if_false]
          rfl
        · simp [expect, hs]
    | _ => exact .inr ⟨rfl, rfl⟩

/-- A walk may take a symbol if it comes next, and goes on in one of two ways.

**Proof sketch.** Both cases are those of `eat_cases`, and in each of them the grammar goes on in the
same way. -/
lemma Follows.eat {k : Bool → Walk β} {next : List Lexeme → Outcome β} (hc : c.Inside g tokens levels)
    (htrue : ∀ c₁, c₁.Inside g tokens levels → c₁.pos = c.pos + 1 →
      Follows g tokens c₁ ((k true).run c₁) (next (tokens.drop c₁.pos)) (f.after 1 (-10)))
    (hfalse : Follows g tokens c ((k false).run c) o f) :
    Follows g tokens c ((Walk.eat tokens symbol >>= k).run c)
      (match expect symbol (tokens.drop c.pos) with
      | .error _ => o
      | .ok rest => next rest) f := by
  rcases eat_cases hc symbol with ⟨heat, hnext, hexpect⟩ | ⟨heat, hexpect⟩
  · rw [hexpect]
    exact .step heat hc hnext rfl (htrue c.next hnext rfl)
  · obtain ⟨e, he⟩ := exists_unexpected_eq (tokens.drop c.pos) (.symbol symbol)
    rw [hexpect, he]
    exact .stay heat hfalse

/-- A walk may expect a symbol, and goes on behind it.

**Proof sketch.** Both cases are those of `eat_cases`. Where the symbol is missed, the walk is refused
with the complaint of the grammar. -/
lemma Follows.expect {k : Unit → Walk β} {next : List Lexeme → Outcome β}
    (hc : c.Inside g tokens levels) (hloss : 0 ≤ f.loss)
    (hk : ∀ c₁, c₁.Inside g tokens levels → c₁.pos = c.pos + 1 →
      Follows g tokens c₁ ((k ()).run c₁) (next (tokens.drop c₁.pos)) (f.after 1 (-10))) :
    Follows g tokens c ((Walk.expect tokens symbol >>= k).run c)
      (match expect symbol (tokens.drop c.pos) with
      | .error e => .error e
      | .ok rest => next rest) f := by
  rcases eat_cases hc symbol with ⟨heat, hnext, hexpect⟩ | ⟨heat, hexpect⟩
  · rw [hexpect]
    refine .step ?_ hc hnext rfl (hk c.next hnext rfl)
    unfold Walk.expect
    rw [bind_eq_of_ok heat]
    rfl
  · obtain ⟨e, he⟩ := exists_unexpected_eq (tokens.drop c.pos) (.symbol symbol)
    rw [hexpect, he]
    refine follows_refused (bind_eq_of_error ?_) hc hloss
    unfold Walk.expect
    rw [bind_eq_of_ok heat]
    simp only [Bool.false_eq_true, if_false, unexpected_eq hc (he Unit), List.append_nil]

/-! ## Steps between levels -/

/-- Levels that are left are counted down as chains grow. -/
lemma Follows.checkDepth {k : Unit → Walk β} {next : Nat → Outcome β} {chain pos : Nat}
    (hc : c.Inside g tokens levels) (hloss : 0 ≤ f.loss)
    (hk : ∀ left, levels - (chain + 1) = left → Follows g tokens c ((k ()).run c) (next left) f) :
    Follows g tokens c ((Walk.checkDepth g (chain + 1) pos >>= k).run c)
      (match levels - chain with
      | 0 => g.tooDeep pos
      | left + 1 => next left) f := by
  have hadd := hc.depth_add
  cases hleft : levels - chain with
  | zero => exact follows_refused (bind_eq_of_error (if_pos (by omega))) hc hloss
  | succ left => exact .stay (if_neg (by omega)) (hk left (by omega))

/-- A computation that takes no tokens. -/
lemma Follows.ofExcept {r : Except SyntaxError Expr} {k : Expr → Walk β} {next : Expr → Outcome β}
    (hc : c.Inside g tokens levels) (hloss : 0 ≤ f.loss)
    (hk : ∀ e, Follows g tokens c ((k e).run c) (next e) f) :
    Follows g tokens c ((Walk.ofExcept r >>= k).run c)
      (match r with
      | .error e => .error e
      | .ok e => next e) f := by
  cases r with
  | error e => exact follows_refused (bind_eq_of_error rfl) hc hloss
  | ok e => exact .stay rfl (hk e)

/-- A walk one level deeper is back at its level, with a result and without.

**Proof sketch.** Without a level left, both refuse the next token. Otherwise the inner walk goes along
what the grammar reads one level deeper. The entries at its start and its end are two more, which the
fare of the inner walk leaves room for. -/
lemma Follows.nested {m : Walk Expr} {p : Phrase} (hc : c.Inside g tokens levels) (hloss : 0 ≤ f.loss)
    (hm : ∀ left, c.deeper.Inside g tokens left → levels = left + 1 →
      Follows g tokens c.deeper (m.run c.deeper) (g.phrase (left + 1) p (tokens.drop c.pos))
        (f.after 0 2)) :
    Follows g tokens c ((Walk.nested tokens g m).run c) (g.phrase levels p (tokens.drop c.pos)) f := by
  have hadd := hc.depth_add
  refine .peek hc ?_
  cases levels with
  | zero =>
    have hhere : g.here tokens[c.pos]?.toList = g.here (tokens.drop c.pos) := by
      cases ht : tokens[c.pos]? with
      | none => rw [drop_of_none ht]; rfl
      | some t => rw [drop_of_some ht]; rfl
    rw [hhere]
    exact follows_refused (bind_eq_of_error (if_pos (by omega))) hc hloss
  | succ left =>
    refine .stay (if_neg (by omega)) ?_
    have hdeeper : c.deeper.Inside g tokens left := ⟨hc.pos_le, by show c.depth + 1 + left = _; omega⟩
    obtain ⟨hpath, hends⟩ := hm left hdeeper rfl
    have hcovered {extra : Int} {log : List Cursor} {stop : Nat}
        (h : Covered log.length c.pos stop (extra - 2)) :
        Covered (c.deeper :: log ++ [(m.run c.deeper).stop.shallower]).length c.pos stop extra := by
      unfold Covered at *
      simp only [List.length_append, List.length_cons, List.length_nil]
      omega
    refine ⟨hpath.nested (by omega), ?_⟩
    generalize g.phrase (left + 1) p (tokens.drop c.pos) = o at hends ⊢
    rcases o with e | ⟨b, rest⟩
    · exact ⟨hends.1, hcovered hends.2⟩
    · exact ⟨hends.1, hends.2.1, hends.2.2.1, hcovered hends.2.2.2⟩

end Tokens

end Grammar

end Formula
