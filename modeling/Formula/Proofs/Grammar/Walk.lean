import Formula.Expr.Grammar
import Mathlib.Tactic.Lemma

set_option autoImplicit false

/-!
# Walks over the tokens

The reader of expressions once more, with a cursor that moves over the tokens and a depth that goes
up and down with the nesting. Each part of the grammar is a routine that moves the cursor, and the
routines call each other. A walk says where it went: there is an entry for every call and every turn of
a loop, for every token that is taken and for every change of the depth.

Nothing here bounds how long a walk is, so there is fuel for the calls. It is not part of what a routine
does: a walk that is not exhausted is the same with more of it.

## Main definitions

* `Formula.Grammar.Cursor` — the token that comes next, and the depth.
* `Formula.Grammar.Walk`, `Formula.Grammar.Course` — a walk from a cursor, and how it went.
* `Formula.Grammar.Routine` — the parts of the grammar, and the turns of its loops.
* `Formula.Grammar.exec` — the walk of a routine, with a bound on how deep routines call each other.
* `Formula.Grammar.Walk.Continues` — a walk that goes as another one does, unless that one is exhausted.

## Main results

* `Formula.Grammar.exec_continues` — more fuel changes nothing but exhaustion.
-/

namespace Formula

namespace Grammar

/-- The number of the token that comes next, and the depth of nesting. -/
structure Cursor where
  pos : Nat
  depth : Nat
deriving DecidableEq

namespace Cursor

/-- The cursor behind one more token. -/
def next (c : Cursor) : Cursor :=
  { c with pos := c.pos + 1 }

/-- The cursor one level deeper. -/
def deeper (c : Cursor) : Cursor :=
  { c with depth := c.depth + 1 }

/-- The cursor one level up. -/
def shallower (c : Cursor) : Cursor :=
  { c with depth := c.depth - 1 }

end Cursor

/-- Why a walk has no result. -/
inductive Halt where
  /-- The tokens are refused. -/
  | refused (e : SyntaxError)
  /-- The cursor is behind the end of the tokens. -/
  | outside
  /-- Routines call each other too deep. -/
  | exhausted
deriving DecidableEq

/-- How a walk went: its result, where it stops, and where it was. -/
structure Course (α : Type) where
  result : Except Halt α
  stop : Cursor
  log : List Cursor

/-- A walk, from any cursor. -/
structure Walk (α : Type) where
  run : Cursor → Course α

namespace Walk

variable {α β : Type}

/-- One walk and, if it has a result, another one from where it stops. -/
def andThen (m : Walk α) (k : α → Walk β) : Walk β where
  run c :=
    match m.run c with
    | ⟨.error h, stop, log⟩ => ⟨.error h, stop, log⟩
    | ⟨.ok a, stop, log⟩ =>
      let second := (k a).run stop
      ⟨second.result, second.stop, log ++ second.log⟩

instance : Monad Walk where
  pure a := ⟨fun c => ⟨.ok a, c, []⟩⟩
  bind := andThen

/-- A walk that ends here. -/
def halt (h : Halt) : Walk α where
  run c := ⟨.error h, c, []⟩

/-- The refusal of the tokens. -/
def refuse (e : SyntaxError) : Walk α :=
  halt (.refused e)

/-- The result of a computation that takes no tokens. -/
def ofExcept (r : Except SyntaxError α) : Walk α :=
  match r with
  | .ok a => pure a
  | .error e => refuse e

/-- An entry for where the walk is. -/
def mark : Walk Unit where
  run c := ⟨.ok (), c, [c]⟩

/-- The walk over one token. -/
def move : Walk Unit where
  run c := ⟨.ok (), c.next, [c.next]⟩

section Tokens

variable (tokens : List Lexeme)

/-- The token that comes next. Behind the tokens there is a mark of their end, and nothing behind it. -/
def peek : Walk (Option Lexeme) where
  run c :=
    match (tokens.map some ++ [none])[c.pos]? with
    | some t => ⟨.ok t, c, []⟩
    | none => ⟨.error .outside, c, []⟩

/-- Takes the token that comes next. The mark of the end is seen, but not taken. -/
def advance : Walk (Option Lexeme) := do
  match ← peek tokens with
  | some t =>
    move
    return some t
  | none =>
    mark
    return none

/-- Whether a symbol comes next, which is taken then. -/
def eat (s : Symbol) : Walk Bool := do
  match ← peek tokens with
  | some ⟨.symbol t, _, _⟩ =>
    if t = s then do
      let _ ← advance tokens
      return true
    else return false
  | _ => return false

/-- The refusal of the token that comes next. -/
def unexpected (expected : Expected) : Walk α := do
  let t ← peek tokens
  ofExcept (Grammar.unexpected t.toList expected)

/-- Takes a symbol that has to come next. -/
def expect (s : Symbol) : Walk Unit := do
  if ← eat tokens s then return ()
  else unexpected tokens (.symbol s)

variable (g : Grammar)

/-- Refuses a nesting so much deeper than here if that is too deep. -/
def checkDepth (extra pos : Nat) : Walk Unit where
  run c :=
    if g.limit < c.depth + extra then (refuse (.tooDeep g.limit pos)).run c else ⟨.ok (), c, []⟩

/-- A walk one level deeper. Whatever its result, the level is left behind it. -/
def deeper (m : Walk α) : Walk α where
  run c :=
    let inner := m.run c.deeper
    ⟨inner.result, inner.stop.shallower, c.deeper :: inner.log ++ [inner.stop.shallower]⟩

/-- A walk one level deeper, if there is such a level. -/
def nested (m : Walk α) : Walk α := do
  let t ← peek tokens
  checkDepth g 1 (g.here t.toList)
  deeper m

end Tokens

end Walk

/-! ## Routines -/

/-- What lists are made of. -/
inductive Item : Type → Type
  | expression : Item Expr
  | entry : Item (String × Expr)

/-- The parts of the grammar. Loops are given by their turns, with what was read before. -/
inductive Routine : Type → Type 1
  | expression : Routine Expr
  | conditional : Routine Expr
  | operand (least : Nat) : Routine Expr
  /-- Operators behind an operand, behind `chain` others. -/
  | operators (least chain : Nat) (left : Expr) : Routine Expr
  | signed : Routine Expr
  | accessed : Routine Expr
  /-- Accesses to an operand, behind `chain` others. -/
  | accesses (chain : Nat) (e : Expr) : Routine Expr
  | primary : Routine Expr
  | entry : Routine (String × Expr)
  /-- A call behind the name at a position. -/
  | call (name : String) (pos : Nat) : Routine Expr
  /-- Further items of a list. -/
  | items {α : Type} (close : Symbol) (item : Item α) (read : List α) : Routine (List α)

/-- The routine that reads an item. -/
def Item.routine {α : Type} : Item α → Routine α
  | expression => .expression
  | entry => .entry

open Walk in
/-- The walk of a routine, given the walks of the routines that it calls. -/
def body (g : Grammar) (tokens : List Lexeme) (walk : {α : Type} → Routine α → Walk α) {α : Type} :
    Routine α → Walk α
  | .expression => nested tokens g (walk .conditional)
  | .conditional => do
    let test ← walk (.operand 0)
    if ← eat tokens .question then
      let positive ← walk .expression
      Walk.expect tokens .colon
      let negative ← walk .expression
      return .conditional test positive negative
    else return test
  | .operand least => do
    let left ← walk .signed
    walk (.operators least 0 left)
  | .operators least chain left => do
    match ← peek tokens with
    | some ⟨.symbol s, pos, _⟩ =>
      match s.level? with
      | some level =>
        if level < least then return left
        else
          let _ ← advance tokens
          let right ← nested tokens g (walk (.operand (s.rightLevel level)))
          checkDepth g (chain + 1) pos
          let e ← ofExcept (g.combine s pos left right)
          walk (.operators least (chain + 1) e)
      | none => return left
    | _ => return left
  | .signed => do
    match ← peek tokens with
    | some ⟨.symbol s, _, _⟩ =>
      match s.unary? with
      | some op =>
        let _ ← advance tokens
        let operand ← nested tokens g (walk .signed)
        return .signed op operand
      | none => walk .accessed
    | _ => walk .accessed
  | .accessed => do
    let e ← walk .primary
    walk (.accesses 0 e)
  | .accesses chain e => do
    match ← peek tokens with
    | some ⟨.symbol .dot, pos, _⟩ =>
      let _ ← advance tokens
      match ← peek tokens with
      | some ⟨.identifier name, _, _⟩ =>
        let _ ← advance tokens
        checkDepth g (chain + 1) pos
        walk (.accesses (chain + 1) (.member e name))
      | _ => Walk.unexpected tokens .memberName
    | some ⟨.symbol .leftBracket, pos, _⟩ =>
      let _ ← advance tokens
      let position ← walk .expression
      Walk.expect tokens .rightBracket
      checkDepth g (chain + 1) pos
      walk (.accesses (chain + 1) (.index e position))
    | _ => return e
  | .primary => do
    match ← advance tokens with
    | some ⟨.number x, _, _⟩ => return .literal (.number x)
    | some ⟨.string s, _, _⟩ => return .literal (.string s)
    | some ⟨.symbol .wordTrue, _, _⟩ => return .literal (.bool true)
    | some ⟨.symbol .wordFalse, _, _⟩ => return .literal (.bool false)
    | some ⟨.symbol .wordNull, _, _⟩ => return .literal .null
    | some ⟨.symbol .leftParen, _, _⟩ =>
      let e ← walk .expression
      Walk.expect tokens .rightParen
      return e
    | some ⟨.symbol .leftBracket, _, _⟩ => return .array (← walk (.items .rightBracket .expression []))
    | some ⟨.symbol .leftBrace, _, _⟩ => return .map (← walk (.items .rightBrace .entry []))
    | some ⟨.identifier name, pos, _⟩ =>
      match ← peek tokens with
      | some ⟨.symbol .leftParen, _, _⟩ => walk (.call name pos)
      | _ => return .var name
    | t => ofExcept (Grammar.unexpected t.toList .expression)
  | .entry => do
    let after (key : String) : Walk (String × Expr) := do
      let _ ← advance tokens
      Walk.expect tokens .colon
      return (key, ← walk .expression)
    match ← peek tokens with
    | some ⟨.identifier key, _, _⟩ => after key
    | some ⟨.string key, _, _⟩ => after key
    | _ => Walk.unexpected tokens .mapKey
  | .call name pos =>
    match g.resolve name with
    | none => refuse (.unknownFunction name pos)
    | some definition => do
      Walk.expect tokens .leftParen
      let args ← walk (.items .rightParen .expression [])
      if definition.arity.accepts args.length then return .call name definition args
      else refuse (.arity name definition.arity args.length pos)
  | .items close item read => do
    if ← eat tokens close then return read
    else
      let x ← walk item.routine
      if ← eat tokens .comma then walk (.items close item (read ++ [x]))
      else
        Walk.expect tokens close
        return read ++ [x]

/-- The walk of a routine, in which routines call each other at most `fuel` deep. -/
def exec (g : Grammar) (tokens : List Lexeme) : (fuel : Nat) → {α : Type} → Routine α → Walk α
  | 0, _, _ => Walk.halt .exhausted
  | fuel + 1, _, r => do
    Walk.mark
    body g tokens (exec g tokens fuel) r

/-! ## More fuel -/

variable {g : Grammar} {tokens : List Lexeme} {α β : Type}

/-- A walk that goes as another one goes, unless that one is exhausted. -/
def Walk.Continues (m m' : Walk α) : Prop :=
  ∀ c, (m.run c).result = .error .exhausted ∨ m'.run c = m.run c

namespace Walk.Continues

variable {m m' : Walk α} {k k' : α → Walk β}

/-- A walk goes as it goes. -/
lemma refl (m : Walk α) : m.Continues m :=
  fun _ => .inr rfl

/-- A sequence goes as another one if its steps go as theirs.

**Proof sketch.** If the first step is exhausted then so is the sequence. Otherwise the first steps stop
at the same cursor with the same result, from where the second ones go on. -/
lemma bind (hm : m.Continues m') (hk : ∀ a, (k a).Continues (k' a)) :
    (m >>= k).Continues (m' >>= k') := by
  intro c
  show ((Walk.andThen m k).run c).result = _ ∨ (Walk.andThen m' k').run c = (Walk.andThen m k).run c
  unfold Walk.andThen
  have hfirst := hm c
  rcases hrun : m.run c with ⟨_ | a, stop, log⟩
  · rw [hrun] at hfirst
    simp only [hrun]
    rcases hfirst with ⟨⟨⟩⟩ | hsame
    · exact .inl rfl
    · exact .inr (by rw [hsame])
  · rw [hrun] at hfirst
    have hsame : m'.run c = ⟨.ok a, stop, log⟩ := hfirst.resolve_left nofun
    simp only [hsame, hrun]
    exact (hk a stop).imp id fun h => by rw [h]

/-- A walk one level deeper goes as another one if the walk inside does. -/
lemma nested {m m' : Walk α} (hm : m.Continues m') :
    (Walk.nested tokens g m).Continues (Walk.nested tokens g m') := by
  refine .bind (.refl _) fun t => .bind (.refl _) fun _ c => ?_
  exact (hm c.deeper).imp id fun h => by simp only [Walk.deeper, h]

end Walk.Continues

section Calls

variable {walk walk' : {α : Type} → Routine α → Walk α}
  (h : ∀ {α : Type} (r : Routine α), (walk r).Continues (walk' r))

include h

/-- An operand is read in the same way if what it calls is.

**Proof sketch.** The next token decides which of the cases it is, and no case calls more than one
routine. -/
lemma primary_continues : (body g tokens walk .primary).Continues (body g tokens walk' .primary) := by
  refine .bind (.refl _) fun t => ?_
  rcases t with _ | ⟨token, start, stop⟩
  · exact .refl _
  cases token with
  | identifier name =>
    refine .bind (.refl _) fun t => ?_
    rcases t with _ | ⟨token, start, stop⟩
    · exact .refl _
    cases token with
    | symbol s =>
      cases s with
      | leftParen => exact h _
      | _ => exact .refl _
    | _ => exact .refl _
  | symbol s =>
    cases s with
    | leftParen | leftBracket | leftBrace => exact .bind (h _) fun _ => .refl _
    | _ => exact .refl _
  | _ => exact .refl _

/-- Accesses are read in the same way if what they call is.

**Proof sketch.** The next token decides between a member, an element and the end of the accesses. -/
lemma accesses_continues (chain : Nat) (e : Expr) :
    (body g tokens walk (.accesses chain e)).Continues (body g tokens walk' (.accesses chain e)) := by
  refine .bind (.refl _) fun t => ?_
  rcases t with _ | ⟨token, start, stop⟩
  · exact .refl _
  cases token with
  | symbol s =>
    cases s with
    | dot =>
      refine .bind (.refl _) fun _ => .bind (.refl _) fun t => ?_
      rcases t with _ | ⟨token, start, stop⟩
      · exact .refl _
      cases token with
      | identifier name => exact .bind (.refl _) fun _ => .bind (.refl _) fun _ => h _
      | _ => exact .refl _
    | leftBracket =>
      exact .bind (.refl _) fun _ => .bind (h _) fun _ => .bind (.refl _) fun _ =>
        .bind (.refl _) fun _ => h _
    | _ => exact .refl _
  | _ => exact .refl _

/-- Operators are read in the same way if what they call is.

**Proof sketch.** The next token decides between an operator of these levels and the end of the
operators. -/
lemma operators_continues (least chain : Nat) (left : Expr) :
    (body g tokens walk (.operators least chain left)).Continues
      (body g tokens walk' (.operators least chain left)) := by
  refine .bind (.refl _) fun t => ?_
  rcases t with _ | ⟨token, start, stop⟩
  · exact .refl _
  cases token with
  | symbol s =>
    dsimp only
    cases s.level? with
    | none => exact .refl _
    | some level =>
      dsimp only
      by_cases hlevel : level < least
      · simp only [if_pos hlevel]
        exact .refl _
      · simp only [if_neg hlevel]
        exact .bind (.refl _) fun _ => .bind (.nested (h _)) fun _ => .bind (.refl _) fun _ =>
          .bind (.refl _) fun _ => h _
  | _ => exact .refl _

/-- A signed operand is read in the same way if what it calls is. -/
lemma signed_continues : (body g tokens walk .signed).Continues (body g tokens walk' .signed) := by
  refine .bind (.refl _) fun t => ?_
  rcases t with _ | ⟨token, start, stop⟩
  · exact h _
  cases token with
  | symbol s =>
    dsimp only
    cases s.unary? with
    | none => exact h _
    | some op => exact .bind (.refl _) fun _ => .bind (.nested (h _)) fun _ => .refl _
  | _ => exact h _

/-- An entry is read in the same way if what it calls is. -/
lemma entry_continues : (body g tokens walk .entry).Continues (body g tokens walk' .entry) := by
  refine .bind (.refl _) fun t => ?_
  rcases t with _ | ⟨token, start, stop⟩
  · exact .refl _
  cases token with
  | identifier key | string key =>
    exact .bind (.refl _) fun _ => .bind (.refl _) fun _ => .bind (h _) fun _ => .refl _
  | _ => exact .refl _

/-- A routine goes as it goes with other routines to call, where these go as the former ones.

**Proof sketch.** One case for each routine. The steps of its own are the same, so the sequence goes as
its calls go. -/
lemma body_continues (r : Routine α) : (body g tokens walk r).Continues (body g tokens walk' r) := by
  cases r with
  | expression => exact .nested (h _)
  | conditional =>
    refine .bind (h _) fun test => .bind (.refl _) fun b => ?_
    cases b with
    | true =>
      exact .bind (h _) fun _ => .bind (.refl _) fun _ => .bind (h _) fun _ => .refl _
    | false => exact .refl _
  | operand least => exact .bind (h _) fun _ => h _
  | operators least chain left => exact operators_continues h least chain left
  | signed => exact signed_continues h
  | accessed => exact .bind (h _) fun _ => h _
  | accesses chain e => exact accesses_continues h chain e
  | primary => exact primary_continues h
  | entry => exact entry_continues h
  | call name pos =>
    simp only [body]
    cases g.resolve name with
    | none => exact .refl _
    | some definition => exact .bind (.refl _) fun _ => .bind (h _) fun _ => .refl _
  | items close item read =>
    refine .bind (.refl _) fun b => ?_
    cases b with
    | true => exact .refl _
    | false =>
      refine .bind (h _) fun x => .bind (.refl _) fun b => ?_
      cases b with
      | true => exact h _
      | false => exact .refl _

end Calls

/-- **More fuel changes no walk that has an end.** -/
lemma exec_continues {fuel fuel' : Nat} (hle : fuel ≤ fuel') (r : Routine α) :
    (exec g tokens fuel r).Continues (exec g tokens fuel' r) := by
  induction fuel generalizing fuel' α with
  | zero => exact fun _ => .inl rfl
  | succ fuel ih =>
    obtain ⟨k, rfl⟩ : ∃ k, fuel' = k + 1 := ⟨fuel' - 1, by omega⟩
    exact .bind (.refl _) fun _ => body_continues (fun r => ih (by omega) r) r

end Grammar

end Formula
