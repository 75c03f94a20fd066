import Formula.Proofs.Grammar.Course

set_option autoImplicit false

/-!
# The reader of expressions makes progress

Every routine of the grammar goes forward over the tokens, never behind their end, and comes back to its
depth. It takes a token if it has a result, and its result is that of the reader of lists of tokens.
Routines that call each other without an end would have to do so without taking a token, but only six of
them do, one after another.

## Main definitions

* `Formula.Grammar.meaning` — what a routine reads.
* `Formula.Grammar.Routine.fare` — what it takes.
* `Formula.Grammar.Guided` — walks of routines that follow what is read.

## Main results

* `Formula.Grammar.follows_body` — each routine follows what is read if the routines that it calls do.
* `Formula.Grammar.guided_exec` — so all of them do, by one induction.
* `Formula.Grammar.exec_progress` — progress, depth, and the number of steps.
-/

namespace Formula

namespace Grammar

variable {g : Grammar} {tokens : List Lexeme} {levels : Nat} {α β : Type} {c : Cursor}

/-! ## Routines -/

/-- The reader of an item of a list. -/
def Item.read (inner : Inner) : {α : Type} → Item α → List Lexeme → Outcome α
  | _, .expression => inner .expression
  | _, .entry => Grammar.entry inner

/-- The items behind those that were read before. -/
def Outcome.behind (read : List α) (o : Outcome (List α)) : Outcome (List α) :=
  match o with
  | .error e => .error e
  | .ok (xs, rest) => .ok (read ++ xs, rest)

/-- A list is read in rounds that keep what was read before.

**Proof sketch.** One step of the loop is unfolded. In each of its cases what was read before is put in
front, and in the last one it is passed on with the item that was read. -/
lemma behind_items (read : List α) (close : Symbol) (item : List Lexeme → Outcome α) (rounds : Nat)
    (next : List Lexeme) :
    Outcome.behind read (items close item rounds next) =
      match expect close next with
      | .error _ =>
        match item next with
        | .error e => .error e
        | .ok (x, rest) =>
          match expect .comma rest with
          | .error _ =>
            match expect close rest with
            | .error e => .error e
            | .ok rest => .ok (read ++ [x], rest)
          | .ok rest =>
            match rounds with
            | 0 => unexpected rest (.symbol close)
            | rounds + 1 => Outcome.behind (read ++ [x]) (items close item rounds rest)
      | .ok rest => .ok (read, rest) := by
  rw [items]
  cases expect close next with
  | ok rest => simp [Outcome.behind]
  | error e =>
    rcases item next with e | ⟨x, rest⟩
    · rfl
    dsimp only
    cases expect .comma rest with
    | error e => cases expect close rest <;> rfl
    | ok rest =>
      cases rounds with
      | zero => cases rest <;> rfl
      | succ rounds =>
        dsimp only
        rcases items close item rounds rest with e | ⟨xs, last⟩
        · rfl
        · simp [Outcome.behind]

/-- What a routine reads from tokens, with so many levels left for it. Lists may have so many rounds. -/
def meaning (g : Grammar) (levels rounds : Nat) {α : Type} (r : Routine α) (next : List Lexeme) :
    Outcome α :=
  let inner : Inner := g.phrase levels
  match r with
  | .expression => inner .expression next
  | .conditional => g.conditional inner levels next
  | .operand least => g.operand inner levels least next
  | .operators least chain left => g.operators inner least (levels - chain) left next
  | .signed => g.signed inner levels next
  | .accessed => g.accessed inner levels next
  | .accesses chain e => g.accesses inner (levels - chain) e next
  | .primary => g.primary inner next
  | .entry => Grammar.entry inner next
  | .call name pos =>
    match g.resolve name with
    | none => .error (.unknownFunction name pos)
    | some _ =>
      match expect .leftParen next with
      | .error e => .error e
      | .ok rest => g.call inner name pos rest
  | .items close item read => Outcome.behind read (items close (item.read inner) rounds next)

/-- Behind a parenthesis a call is read as the grammar reads one. The grammar looks up the name first
and the routine the parenthesis, which makes no difference here. -/
lemma meaning_call (name : String) (pos a b : Nat) (rest : List Lexeme) (rounds : Nat) :
    meaning g levels rounds (.call name pos) (⟨.symbol .leftParen, a, b⟩ :: rest) =
      g.call (g.phrase levels) name pos rest := by
  have hexpect : expect .leftParen (⟨.symbol .leftParen, a, b⟩ :: rest) = .ok rest := rfl
  simp only [meaning, hexpect, call]
  cases g.resolve name <;> rfl

namespace Routine

/-- The least number of tokens that a routine takes. Only a turn of a chain may take none. -/
def least {α : Type} : Routine α → Nat
  | operators .. | accesses .. => 0
  | _ => 1

/-- The fare of a routine, its entry included. An expression of one token makes eleven entries: six calls
down to the token, the token, a chain of accesses and one of operators behind it, and a level that is
entered and left. -/
def fare {α : Type} : Routine α → Fare
  | expression => ⟨1, 0, 9⟩
  | conditional => ⟨1, -3, 6⟩
  | operand _ => ⟨1, -4, 5⟩
  | signed => ⟨1, -6, 4⟩
  | accessed => ⟨1, -7, 3⟩
  | primary => ⟨1, -9, 2⟩
  | operators .. | accesses .. => ⟨0, 1, 1⟩
  | entry => ⟨1, 0, 2⟩
  | call .. => ⟨1, -9, 2⟩
  | items .. => ⟨1, 0, 10⟩

/-- How deep a routine calls others before a token is taken. -/
def rank {α : Type} : Routine α → Nat
  | items .. => 7
  | expression => 6
  | conditional => 5
  | operand _ => 4
  | signed => 3
  | accessed => 2
  | _ => 1

/-- Every routine has a rank. -/
lemma rank_pos {α : Type} (r : Routine α) : 0 < r.rank := by
  cases r <;> exact Nat.succ_pos _

/-- No rank exceeds what a token is worth. -/
lemma rank_le {α : Type} (r : Routine α) : r.rank ≤ 11 := by
  cases r <;> simp [rank]

/-- The fare of a routine asks for as many tokens as the routine takes at least. -/
lemma fare_least {α : Type} (r : Routine α) : r.fare.least = r.least := by
  cases r <;> rfl

/-- The fare of a routine leaves at most ten entries uncovered. -/
lemma fare_le {α : Type} (r : Routine α) : r.fare.price ≤ 10 ∧ r.fare.loss ≤ 10 := by
  cases r <;> simp [fare]

end Routine

/-- Walks of routines that come to what is read, from wherever `fuel` is enough: calls that take no token
lower the rank, and a token is worth as much as all ranks. -/
def Guided (g : Grammar) (tokens : List Lexeme) (walk : {α : Type} → Routine α → Walk α)
    (fuel : Nat) : Prop :=
  ∀ {α : Type} (r : Routine α) {c : Cursor} {levels rounds : Nat}, c.Inside g tokens levels →
    11 * tokens.length + r.rank ≤ fuel + 11 * c.pos → tokens.length ≤ c.pos + rounds →
    Follows g tokens c ((walk r).run c) (meaning g levels rounds r (tokens.drop c.pos)) r.fare

section Routines

variable {walk : {α : Type} → Routine α → Walk α} {fuel rounds : Nat}
  (hwalk : Guided g tokens walk fuel) (hc : c.Inside g tokens levels)

include hwalk hc

/-- A routine behind which nothing follows. -/
lemma Guided.last {α : Type} (r : Routine α) {f : Fare}
    (hfuel : 11 * tokens.length + r.rank ≤ fuel + 11 * c.pos)
    (hfare : f.least ≤ r.fare.least ∧ r.fare.price ≤ f.price ∧ r.fare.loss ≤ f.loss) :
    Follows g tokens c ((walk r).run c)
      (meaning g levels (tokens.drop c.pos).length r (tokens.drop c.pos)) f :=
  (hwalk r hc hfuel (by rw [List.length_drop]; omega)).mono hfare

/-- A routine that reads an expression, and what follows. -/
lemma Guided.andThen (r : Routine Expr) {k : Expr → Walk β} {next : Expr → List Lexeme → Outcome β}
    {f : Fare} (hfuel : 11 * tokens.length + r.rank ≤ fuel + 11 * c.pos) (hloss : r.fare.loss ≤ f.loss)
    (hk : ∀ e c', c'.Inside g tokens levels → c.pos + r.fare.least ≤ c'.pos →
      Follows g tokens c' ((k e).run c') (next e (tokens.drop c'.pos))
        (f.after r.fare.least r.fare.price)) :
    Follows g tokens c ((walk r >>= k).run c)
      ((meaning g levels (tokens.drop c.pos).length r (tokens.drop c.pos)).andThen next) f :=
  (hwalk r hc hfuel (by rw [List.length_drop]; omega)).andThen hc hloss hk

/-- An expression takes a level, and what is read there is a conditional. No token lies between. -/
lemma follows_expression (hfuel : 11 * tokens.length + 5 ≤ fuel + 11 * c.pos) :
    Follows g tokens c ((body g tokens walk .expression).run c)
      (g.phrase levels .expression (tokens.drop c.pos)) ⟨1, -1, 8⟩ :=
  .nested hc (by decide) fun _ hdeeper _ => hwalk.last hdeeper .conditional hfuel (by decide)

/-- The routine for expressions goes along them, and passes the fare of the grammar on to its parts.

**Proof sketch.** The test is read with one level less in the rank. Behind a question mark come two
expressions with a colon between them, and the question mark pays for what they call. -/
lemma follows_conditional (hfuel : 11 * tokens.length + 4 ≤ fuel + 11 * c.pos) :
    Follows g tokens c ((body g tokens walk .conditional).run c)
      (g.conditional (g.phrase levels) levels (tokens.drop c.pos)) ⟨1, -4, 5⟩ := by
  unfold conditional
  refine hwalk.andThen hc (.operand 0) hfuel (by decide)
    fun test c₁ hc₁ (hpos₁ : c.pos + 1 ≤ c₁.pos) => ?_
  refine .eat hc₁ (fun c₂ hc₂ hpos₂ => ?_) ?_
  · refine hwalk.andThen hc₂ .expression (by simp only [Routine.rank]; omega) (by decide)
      fun positive c₃ hc₃ (hpos₃ : c₂.pos + 1 ≤ c₃.pos) => ?_
    refine .expect hc₃ (by decide) fun c₄ hc₄ hpos₄ => ?_
    refine hwalk.andThen hc₄ .expression (by simp only [Routine.rank]; omega) (by decide)
      fun negative c₅ hc₅ _ => ?_
    exact follows_pure hc₅ rfl (by decide)
  · exact follows_pure hc₁ rfl (by decide)

/-- The routine for operands of operators goes along them. -/
lemma follows_operand (least : Nat) (hfuel : 11 * tokens.length + 3 ≤ fuel + 11 * c.pos) :
    Follows g tokens c ((body g tokens walk (.operand least)).run c)
      (g.operand (g.phrase levels) levels least (tokens.drop c.pos)) ⟨1, -5, 4⟩ := by
  unfold operand
  refine hwalk.andThen hc .signed hfuel (by decide) fun left c₁ hc₁ (hpos₁ : c.pos + 1 ≤ c₁.pos) => ?_
  exact hwalk.last hc₁ (.operators least 0 left) (by simp only [Routine.rank]; omega)
    (by simp only [Routine.fare, Fare.after]; decide)

/-- The routine for operands with accesses goes along them. -/
lemma follows_accessed (hfuel : 11 * tokens.length + 1 ≤ fuel + 11 * c.pos) :
    Follows g tokens c ((body g tokens walk .accessed).run c)
      (g.accessed (g.phrase levels) levels (tokens.drop c.pos)) ⟨1, -8, 2⟩ := by
  unfold accessed
  refine hwalk.andThen hc .primary hfuel (by decide) fun e c₁ hc₁ (hpos₁ : c.pos + 1 ≤ c₁.pos) => ?_
  exact hwalk.last hc₁ (.accesses 0 e) (by simp only [Routine.rank]; omega)
    (by simp only [Routine.fare, Fare.after]; decide)

/-- The routine for signed operands goes along them.

**Proof sketch.** The token that comes next says which of two ways is taken. An operator is taken, and
its token pays for the level of the operand. In front of anything else the next routine is called at
once. -/
lemma follows_signed (hfuel : 11 * tokens.length + 2 ≤ fuel + 11 * c.pos) :
    Follows g tokens c ((body g tokens walk .signed).run c)
      (g.signed (g.phrase levels) levels (tokens.drop c.pos)) ⟨1, -7, 3⟩ := by
  have haccessed : Follows g tokens c ((walk .accessed).run c)
      (g.accessed (g.phrase levels) levels (tokens.drop c.pos)) ⟨1, -7, 3⟩ :=
    hwalk.last hc .accessed hfuel (by decide)
  refine .peek hc ?_
  unfold signed
  cases ht : tokens[c.pos]? with
  | none =>
    rw [drop_of_none ht] at haccessed ⊢
    exact haccessed
  | some t =>
    rw [drop_of_some ht] at haccessed ⊢
    obtain ⟨token, start, stop⟩ := t
    cases token with
    | symbol s =>
      dsimp only
      cases hs : s.unary? with
      | none => exact haccessed
      | some op =>
        -- The operand is one level deeper, and has the rank of this call again, but a token is taken.
        refine .advance hc ht fun hnext => ?_
        have hoperand : Follows g tokens c.next ((Walk.nested tokens g (walk .signed)).run c.next)
            (g.phrase levels .signed (tokens.drop c.next.pos)) ⟨1, -4, 6⟩ :=
          .nested hnext (by decide) fun _ hdeeper _ =>
            hwalk.last hdeeper .signed
              (by simp only [Routine.rank, Cursor.next, Cursor.deeper]; omega) (by decide)
        refine hoperand.andThen hnext (by decide) fun operand c₁ hc₁ _ => ?_
        exact follows_pure hc₁ rfl (by decide)
    | _ => exact haccessed

/-- The routine for a turn of the loop over operators goes along it.

**Proof sketch.** Where no operator of the level comes next, nothing is taken. Otherwise the turn takes
the operator and a right operand, one level deeper, and the two tokens pay for both and for the next
turn. -/
lemma follows_operators (least chain : Nat) (left : Expr)
    (hfuel : 11 * tokens.length ≤ fuel + 11 * c.pos) :
    Follows g tokens c ((body g tokens walk (.operators least chain left)).run c)
      (g.operators (g.phrase levels) least (levels - chain) left (tokens.drop c.pos)) ⟨0, 0, 0⟩ := by
  have hstop : Follows g tokens c ((pure left : Walk Expr).run c) (.ok (left, tokens.drop c.pos))
      ⟨0, 0, 0⟩ :=
    follows_pure hc rfl (by decide)
  refine .peek hc ?_
  unfold operators
  cases ht : tokens[c.pos]? with
  | none =>
    rw [drop_of_none ht] at hstop ⊢
    exact hstop
  | some t =>
    rw [drop_of_some ht] at hstop ⊢
    obtain ⟨token, start, stop⟩ := t
    cases token with
    | symbol s =>
      dsimp only
      cases hs : s.level? with
      | none => exact hstop
      | some level =>
        dsimp only
        by_cases hlevel : level < least
        · simp only [if_pos hlevel]
          exact hstop
        · simp only [if_neg hlevel]
          -- The turn takes an operator and an operand, so the next one may stand at the same rank.
          refine .advance hc ht fun hnext => ?_
          have hright : Follows g tokens c.next
              ((Walk.nested tokens g (walk (.operand (s.rightLevel level)))).run c.next)
              (g.phrase levels (.operand (s.rightLevel level)) (tokens.drop c.next.pos)) ⟨1, -2, 7⟩ :=
            .nested hnext (by decide) fun _ hdeeper _ =>
              hwalk.last hdeeper (.operand _)
                (by simp only [Routine.rank, Cursor.next, Cursor.deeper]; omega)
                (by simp only [Routine.fare, Fare.after]; decide)
          refine hright.andThen hnext ?_ fun right c₁ hc₁ (hpos₁ : c.pos + 1 + 1 ≤ c₁.pos) => ?_
          · decide
          refine .checkDepth hc₁ ?_ fun below hbelow => ?_
          · decide
          refine .ofExcept hc₁ ?_ fun e => ?_
          · decide
          subst hbelow
          exact hwalk.last hc₁ (.operators least (chain + 1) e) (by simp only [Routine.rank]; omega)
            (by simp only [Routine.fare, Fare.after]; decide)
    | _ => exact hstop

/-- The routine for a turn of the loop over accesses goes along it.

**Proof sketch.** Where no access comes next, nothing is taken. A turn takes a dot with a name, or
brackets with a position between them, and two tokens pay for it and for the next turn. -/
lemma follows_accesses (chain : Nat) (e : Expr) (hfuel : 11 * tokens.length ≤ fuel + 11 * c.pos) :
    Follows g tokens c ((body g tokens walk (.accesses chain e)).run c)
      (g.accesses (g.phrase levels) (levels - chain) e (tokens.drop c.pos)) ⟨0, 0, 0⟩ := by
  have hstop : Follows g tokens c ((pure e : Walk Expr).run c) (.ok (e, tokens.drop c.pos))
      ⟨0, 0, 0⟩ :=
    follows_pure hc rfl (by decide)
  refine .peek hc ?_
  unfold accesses
  cases ht : tokens[c.pos]? with
  | none =>
    rw [drop_of_none ht] at hstop ⊢
    exact hstop
  | some t =>
    rw [drop_of_some ht] at hstop ⊢
    obtain ⟨token, start, stop⟩ := t
    cases token with
    | symbol s =>
      cases s with
      | dot =>
        refine .advance hc ht fun hnext => ?_
        refine .peek hnext ?_
        -- Behind a dot there has to be a name, and what stands there instead is refused.
        have hrefused : Follows g tokens c.next
            ((Walk.unexpected tokens .memberName : Walk Expr).run c.next)
            (unexpected (tokens.drop c.next.pos) .memberName) (Fare.after ⟨0, 0, 0⟩ 1 (-10)) :=
          follows_unexpected hnext (by decide)
        cases hname : tokens[c.next.pos]? with
        | none =>
          rw [drop_of_none hname] at hrefused ⊢
          exact hrefused
        | some t =>
          rw [drop_of_some hname] at hrefused ⊢
          obtain ⟨token, start, stop⟩ := t
          cases token with
          | identifier name =>
            refine .advance hnext hname fun hafter => ?_
            refine .checkDepth hafter ?_ fun below hbelow => ?_
            · decide
            subst hbelow
            exact hwalk.last hafter (.accesses (chain + 1) (.member e name))
              (by simp only [Routine.rank, Cursor.next]; omega)
              (by simp only [Routine.fare, Fare.after]; decide)
          | _ => exact hrefused
      | leftBracket =>
        -- The bracket pays for the position, which is an expression of any rank.
        refine .advance hc ht fun hnext => ?_
        refine hwalk.andThen hnext .expression ?_ ?_
          fun position c₁ hc₁ (hpos₁ : c.pos + 1 + 1 ≤ c₁.pos) => ?_
        · simp only [Routine.rank, Cursor.next]
          omega
        · decide
        refine .expect hc₁ ?_ fun c₂ hc₂ hpos₂ => ?_
        · decide
        refine .checkDepth hc₂ ?_ fun below hbelow => ?_
        · decide
        subst hbelow
        exact hwalk.last hc₂ (.accesses (chain + 1) (.index e position))
          (by simp only [Routine.rank]; omega) (by simp only [Routine.fare, Fare.after]; decide)
      | _ => exact hstop
    | _ => exact hstop

/-- The routine for entries of maps goes along them.

**Proof sketch.** A key is a text or a name, and behind it come a colon and the value. Any other token
is refused on the spot. -/
lemma follows_entry (hfuel : 11 * tokens.length ≤ fuel + 11 * c.pos) :
    Follows g tokens c ((body g tokens walk .entry).run c)
      (Grammar.entry (g.phrase levels) (tokens.drop c.pos)) ⟨1, -1, 1⟩ := by
  refine .peek hc ?_
  unfold Grammar.entry
  have hrefused : Follows g tokens c ((Walk.unexpected tokens .mapKey : Walk (String × Expr)).run c)
      (unexpected (tokens.drop c.pos) .mapKey) ⟨1, -1, 1⟩ :=
    follows_unexpected hc (by decide)
  cases ht : tokens[c.pos]? with
  | none =>
    rw [drop_of_none ht] at hrefused ⊢
    exact hrefused
  | some t =>
    rw [drop_of_some ht] at hrefused ⊢
    obtain ⟨token, start, stop⟩ := t
    cases token with
    | identifier key | string key =>
      refine .advance hc ht fun hnext => ?_
      refine .expect hnext ?_ fun c₁ hc₁ (hpos₁ : c₁.pos = c.pos + 1 + 1) => ?_
      · decide
      refine hwalk.andThen hc₁ .expression ?_ ?_ fun value c₂ hc₂ _ => ?_
      · simp only [Routine.rank]
        omega
      · decide
      exact follows_pure hc₂ rfl (by decide)
    | _ => exact hrefused

/-- The routine for an item goes along it, whether it is an expression or an entry. -/
lemma Guided.item {α : Type} (item : Item α) (hfuel : 11 * tokens.length + 6 ≤ fuel + 11 * c.pos) :
    Follows g tokens c ((walk item.routine).run c) (item.read (g.phrase levels) (tokens.drop c.pos))
      ⟨1, 0, 9⟩ := by
  cases item with
  | expression => exact hwalk.last hc .expression hfuel (by decide)
  | entry => exact hwalk.last hc .entry (by simp only [Routine.rank]; omega) (by decide)

/-- A round of a list. Behind a comma there are fewer tokens, and so the rounds do not come to an end.

**Proof sketch.** Either the list ends at once, or an item is read, and behind it the list ends or goes
on. The rounds are those of the grammar, and one of them is left for each token. -/
lemma follows_items {α : Type} (close : Symbol) (item : Item α) (read : List α)
    (hfuel : 11 * tokens.length + 6 ≤ fuel + 11 * c.pos) (hrounds : tokens.length ≤ c.pos + rounds) :
    Follows g tokens c ((body g tokens walk (.items close item read)).run c)
      (Outcome.behind read (items close (item.read (g.phrase levels)) rounds (tokens.drop c.pos)))
      ⟨1, -1, 9⟩ := by
  rw [behind_items]
  -- The list ends in front of an item or behind one, or goes on behind a comma.
  refine .eat hc (fun c₁ hc₁ hpos₁ => ?_) ?_
  · exact follows_pure hc₁ rfl (by decide)
  refine (hwalk.item hc item hfuel).bind hc ?_ ?_ ?_
  · decide
  · intro e he
    rw [he]
  rintro x c₁ hc₁ (hpos₁ : c.pos + 1 ≤ c₁.pos) hx
  simp only [hx]
  refine .eat hc₁ (fun c₂ hc₂ hpos₂ => ?_) ?_
  · obtain ⟨k, rfl⟩ : ∃ k, rounds = k + 1 := ⟨rounds - 1, by have hle := hc₂.pos_le; omega⟩
    refine (hwalk (.items close item (read ++ [x])) hc₂ ?_ ?_).mono ?_
    · simp only [Routine.rank]
      omega
    · omega
    · simp only [Routine.fare]
      decide
  · refine .expect hc₁ ?_ fun c₂ hc₂ _ => ?_
    · decide
    exact follows_pure hc₂ rfl (by decide)

/-- A list behind its opening symbol.

**Proof sketch.** This is the routine for rounds with nothing read before, and as many rounds as there
are tokens. -/
lemma Guided.list {α : Type} (close : Symbol) (item : Item α)
    (hfuel : 11 * tokens.length + 7 ≤ fuel + 11 * c.pos) :
    Follows g tokens c ((walk (.items close item [])).run c)
      (items close (item.read (g.phrase levels)) (tokens.drop c.pos).length (tokens.drop c.pos))
      ⟨1, 0, 10⟩ := by
  have hlist := hwalk.last hc (.items close item []) hfuel (f := ⟨1, 0, 10⟩) (by
    simp only [Routine.fare]
    decide)
  simp only [meaning] at hlist
  rcases hitems : items close (item.read (g.phrase levels)) (tokens.drop c.pos).length
      (tokens.drop c.pos) with e | ⟨xs, rest⟩
  · rwa [hitems] at hlist
  · rwa [hitems] at hlist

/-- A list behind its opening symbol, and the expression that is made of it. What is read is refused for
the list, or it is that expression. -/
lemma Guided.made {α : Type} (close : Symbol) (item : Item α) {make : List α → Expr}
    {o : Outcome Expr} {f : Fare} (hfuel : 11 * tokens.length + 7 ≤ fuel + 11 * c.pos)
    (hfare : f.least ≤ 1 ∧ 0 ≤ f.price ∧ 10 ≤ f.loss)
    (hrefused : ∀ e, items close (item.read (g.phrase levels)) (tokens.drop c.pos).length
      (tokens.drop c.pos) = .error e → o = .error e)
    (hmade : ∀ xs rest, items close (item.read (g.phrase levels)) (tokens.drop c.pos).length
      (tokens.drop c.pos) = .ok (xs, rest) → o = .ok (make xs, rest)) :
    Follows g tokens c ((walk (.items close item []) >>= fun xs => pure (make xs)).run c) o f := by
  obtain ⟨hleast, hprice, hloss⟩ := hfare
  refine (hwalk.list hc close item hfuel).bind hc hloss hrefused fun xs c₁ hc₁ _ hxs => ?_
  rw [hmade xs _ hxs]
  refine follows_pure hc₁ ?_ ?_
  · simp only [Fare.after]
    omega
  · simp only [Fare.after]
    omega

/-- The routine for calls goes along them.

**Proof sketch.** An unknown name is refused on the spot. Otherwise the parenthesis and the arguments
are read, and then their number is held against what the function takes. -/
lemma follows_call (name : String) (pos : Nat) (hfuel : 11 * tokens.length ≤ fuel + 11 * c.pos) :
    Follows g tokens c ((body g tokens walk (.call name pos)).run c)
      (meaning g levels rounds (.call name pos) (tokens.drop c.pos)) ⟨1, -10, 1⟩ := by
  simp only [meaning, body]
  cases hname : g.resolve name with
  | none => exact follows_refused rfl hc (by decide)
  | some definition =>
    refine .expect hc ?_ fun c₁ hc₁ hpos₁ => ?_
    · decide
    unfold call
    simp only [hname]
    refine (hwalk.list hc₁ .rightParen .expression (by omega)).bind hc₁ ?_ ?_ ?_
    · decide
    · intro e he
      simp only [Item.read] at he
      rw [he]
    intro args c₂ hc₂ hpos₂ hargs
    simp only [Item.read] at hargs
    rw [hargs]
    dsimp only
    split
    · exact follows_pure hc₂ rfl (by decide)
    · exact follows_refused rfl hc₂ (by decide)

/-- The routine for primary expressions goes along them.

**Proof sketch.** The first token is taken, and its kind says how to go on. A literal is complete, a
parenthesis opens an expression, a bracket or a brace opens a list, and a name may be followed by
arguments. The token pays for all that is called behind it. -/
lemma follows_primary (hfuel : 11 * tokens.length ≤ fuel + 11 * c.pos) :
    Follows g tokens c ((body g tokens walk .primary).run c)
      (g.primary (g.phrase levels) (tokens.drop c.pos)) ⟨1, -10, 1⟩ := by
  unfold primary
  cases ht : tokens[c.pos]? with
  | none =>
    rw [drop_of_none ht]
    -- The mark of the end is looked at with the entry of a token, but it stays.
    refine .step (advance_of_none hc ht) hc hc (show c.pos = c.pos + 0 from rfl) ?_
    exact follows_refused rfl hc (by decide)
  | some t =>
    rw [drop_of_some ht]
    refine .advance hc ht fun hnext => ?_
    obtain ⟨token, start, stop⟩ := t
    cases token with
    | number x | string s => exact follows_pure hnext rfl (by decide)
    | identifier name =>
      have hvariable : Follows g tokens c.next ((pure (.var name) : Walk Expr).run c.next)
          (.ok (.var name, tokens.drop c.next.pos)) (Fare.after ⟨1, -10, 1⟩ 1 (-10)) :=
        follows_pure hnext rfl (by decide)
      refine .peek hnext ?_
      cases hparen : tokens[c.next.pos]? with
      | none =>
        rw [drop_of_none hparen] at hvariable ⊢
        exact hvariable
      | some t =>
        obtain ⟨token, start', stop'⟩ := t
        cases token with
        | symbol s =>
          cases s with
          | leftParen =>
            -- Only a parenthesis makes a call of a name. The routine takes it, so it is not taken here.
            have hcall := hwalk.last hnext (.call name start) (f := ⟨0, 0, 11⟩)
              (by simp only [Routine.rank, Cursor.next]; omega)
              (by simp only [Routine.fare]; decide)
            rw [drop_of_some hparen, meaning_call] at hcall
            rw [drop_of_some hparen]
            exact hcall
          | _ =>
            rw [drop_of_some hparen] at hvariable ⊢
            exact hvariable
        | _ =>
          rw [drop_of_some hparen] at hvariable ⊢
          exact hvariable
    | symbol s =>
      cases s with
      | wordTrue | wordFalse | wordNull => exact follows_pure hnext rfl (by decide)
      | leftParen =>
        refine hwalk.andThen hnext .expression ?_ ?_ fun e c₁ hc₁ _ => ?_
        · simp only [Routine.rank, Cursor.next]
          omega
        · decide
        refine .expect hc₁ ?_ fun c₂ hc₂ _ => ?_
        · decide
        exact follows_pure hc₂ rfl (by decide)
      | leftBracket =>
        refine hwalk.made hnext .rightBracket .expression ?_ (by decide) (fun e he => ?_)
          fun es rest hes => ?_
        · simp only [Cursor.next]
          omega
        · simp only [Item.read] at he
          simp only [he]
        · simp only [Item.read] at hes
          simp only [hes]
      | leftBrace =>
        refine hwalk.made hnext .rightBrace .entry ?_ (by decide) (fun e he => ?_)
          fun entries rest hentries => ?_
        · simp only [Cursor.next]
          omega
        · simp only [Item.read] at he
          simp only [he]
        · simp only [Item.read] at hentries
          simp only [hentries]
      | _ => exact follows_refused rfl hnext (by decide)

/-- **Routines.** If the routines that a routine calls come to what is read, so does the routine.

**Proof sketch.** One case for each routine, which is the lemma about it. -/
lemma follows_body {α : Type} (r : Routine α)
    (hfuel : 11 * tokens.length + r.rank ≤ fuel + 1 + 11 * c.pos)
    (hrounds : tokens.length ≤ c.pos + rounds) :
    Follows g tokens c ((body g tokens walk r).run c) (meaning g levels rounds r (tokens.drop c.pos))
      (r.fare.after 0 1) := by
  cases r <;> simp only [Routine.rank] at hfuel
  case expression => exact follows_expression hwalk hc (by omega)
  case conditional => exact follows_conditional hwalk hc (by omega)
  case operand least => exact follows_operand hwalk hc least (by omega)
  case operators least chain left => exact follows_operators hwalk hc least chain left (by omega)
  case signed => exact follows_signed hwalk hc (by omega)
  case accessed => exact follows_accessed hwalk hc (by omega)
  case accesses chain e => exact follows_accesses hwalk hc chain e (by omega)
  case primary => exact follows_primary hwalk hc (by omega)
  case entry => exact follows_entry hwalk hc (by omega)
  case call name pos => exact follows_call hwalk hc name pos (by omega)
  case items close item read => exact follows_items hwalk hc close item read (by omega) hrounds

end Routines

/-- All routines at once, by induction on how deep they call each other.

**Proof sketch.** There is no walk without fuel, since every routine has a rank. With fuel the routine
itself makes one entry, and the routines it calls are guided by what is left. -/
lemma guided_exec (g : Grammar) (tokens : List Lexeme) (fuel : Nat) :
    Guided g tokens (exec g tokens fuel) fuel := by
  induction fuel with
  | zero =>
    intro α r c levels rounds hc hfuel
    have hle := hc.pos_le
    have hrank := r.rank_pos
    omega
  | succ fuel ih =>
    intro α r c levels rounds hc hfuel hrounds
    exact .step rfl hc hc (show c.pos = c.pos + 0 from rfl) (follows_body ih hc r hfuel hrounds)

/-- **The reader of expressions makes progress.** Let a routine start in front of a token or of the end,
at a depth that is no greater than the limit. Eleven calls of routines inside each other for every token
that is left, and eleven for the end, are enough:

1. With more of them the walk is the same.
2. The cursor goes forward and stays among the tokens and their end, the depth is never greater than the
   limit, and at the end of the walk it is what it was at the start, whether or not there is a result.
3. The calls, turns of loops, tokens and changes of the depth are at most eleven for every token that is
   taken, and ten.
4. The result is what the routine means as a reader of lists of tokens, which it takes at least one token
   for. Only a turn of a chain of operators or accesses may take none.

**Proof sketch.** Every routine follows what it means if the routines that it calls do (`follows_body`).
By induction on the fuel all of them do: either a token lies between two calls, which is worth eleven of
fuel, or the rank of the routine goes down. A walk that follows what is read is not exhausted, and so
more fuel changes nothing (`exec_continues`). -/
theorem exec_progress (g : Grammar) (tokens : List Lexeme) {α : Type} (r : Routine α) (c : Cursor)
    (hpos : c.pos ≤ tokens.length) (hdepth : c.depth ≤ g.limit) :
    let enough := 11 * (tokens.length + 1 - c.pos)
    let course := (exec g tokens enough r).run c
    (∀ fuel, enough ≤ fuel → (exec g tokens fuel r).run c = course) ∧
    Path g tokens c course.log course.stop ∧
    course.log.length ≤ 11 * (course.stop.pos - c.pos) + 10 ∧
    match meaning g (g.limit - c.depth) (tokens.length - c.pos) r (tokens.drop c.pos) with
    | .ok (a, rest) => course.result = .ok a ∧ rest = tokens.drop course.stop.pos ∧
        c.pos + r.least ≤ course.stop.pos
    | .error e => course.result = .error (.refused e) := by
  intro enough course
  have hc : c.Inside g tokens (g.limit - c.depth) := ⟨hpos, by omega⟩
  have hfuel : 11 * tokens.length + r.rank ≤ enough + 11 * c.pos := by
    have hrank := r.rank_le
    omega
  obtain ⟨hpath, hends⟩ : Follows g tokens c course _ r.fare :=
    guided_exec g tokens enough r hc hfuel (by omega : tokens.length ≤ c.pos + (tokens.length - c.pos))
  obtain ⟨hprice, hloss⟩ := r.fare_le
  generalize meaning g (g.limit - c.depth) (tokens.length - c.pos) r (tokens.drop c.pos) = o at hends ⊢
  -- A course that is not exhausted goes the same way with more fuel.
  have hsame (hresult : course.result ≠ .error .exhausted) (fuel : Nat) (hle : enough ≤ fuel) :
      (exec g tokens fuel r).run c = course :=
    (exec_continues hle r c).resolve_left hresult
  rcases o with e | ⟨a, rest⟩
  · obtain ⟨hresult, hlog⟩ := hends
    refine ⟨hsame (by rw [hresult]; nofun), hpath, ?_, hresult⟩
    unfold Covered at hlog
    omega
  · obtain ⟨hresult, hrest, hleast, hlog⟩ := hends
    rw [r.fare_least] at hleast
    refine ⟨hsame (by rw [hresult]; nofun), hpath, ?_, hresult, hrest, hleast⟩
    unfold Covered at hlog
    omega

/-- The fifteen entries of `-x`: nine calls, two tokens, and two levels that are entered and left. -/
theorem exec_progress_negated :
    let g : Grammar := ⟨fun _ => none, fun _ => none, 2, 2⟩
    let tokens : List Lexeme := [⟨.symbol .minus, 0, 1⟩, ⟨.identifier "x", 1, 2⟩]
    let course := (exec g tokens 33 .expression).run ⟨0, 0⟩
    course.result = .ok (.unary .negate (.var "x")) ∧ course.stop = ⟨2, 0⟩ ∧ course.log.length = 15 ∧
      Path g tokens ⟨0, 0⟩ course.log course.stop ∧
      course.log.length ≤ 11 * (course.stop.pos - 0) + 10 ∧
      ∀ fuel, 33 ≤ fuel → (exec g tokens fuel .expression).run ⟨0, 0⟩ = course := by
  intro g tokens course
  obtain ⟨hsame, hpath, hlog, -⟩ := exec_progress g tokens .expression ⟨0, 0⟩ (by decide) (by decide)
  exact ⟨rfl, rfl, rfl, hpath, hlog, hsame⟩

end Grammar

end Formula
