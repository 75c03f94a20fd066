import Formula.Pattern.Meaning
import Formula.Proofs.Evaluation.Log
import Mathlib.Control.Monad.Basic

set_option autoImplicit false

/-!
# Failures of parts of an expression

Nothing takes the place of a value that a node fails to have: no operator, no list of operands and
no function goes on with something else. Once a node is left with a failure, all that still happens
is that the nodes above it are left with the same failure, one after the other.

## Main definitions

* `Formula.Place.above` — the places of the nodes above a node.
* `Formula.Event.failure?` — the failure that a node is left with.
* `Formula.Faultless` — logs in which no node is left with a failure.
* `Formula.departures` — a node and all nodes above it are left with a failure.
* `Formula.Candid` — a computation whose failures are those of its last node.

## Main results

* `Formula.Expr.candid` — every evaluation is candid.
* `Formula.Compiled.first_failure` — what follows the first failure of a node.
-/

namespace Formula

/-! ## Logs with a failure -/

/-- The places of the nodes above a node, the innermost first. -/
def Place.above : Place → List Place
  | [] => []
  | _ :: place => place :: Place.above place

/-- The nodes above a node are those on the way to it from the root, without the node itself.

**Proof sketch.** Induction on the way to the node. -/
lemma Place.mem_above {p q : Place} : p ∈ Place.above q ↔ p <:+ q ∧ p ≠ q := by
  induction q with
  | nil => simp [Place.above]
  | cons i q ih =>
    rw [Place.above, List.mem_cons, ih, List.suffix_cons_iff]
    constructor
    · rintro (rfl | ⟨hsuffix, -⟩)
      · exact ⟨.inr List.suffix_rfl, fun h => by simpa using congrArg List.length h⟩
      · refine ⟨.inr hsuffix, fun h => ?_⟩
        have hlength := h ▸ hsuffix.length_le
        rw [List.length_cons] at hlength
        omega
    · rintro ⟨rfl | hsuffix, hne⟩
      · exact absurd rfl hne
      · by_cases h : p = q
        · exact .inl h
        · exact .inr ⟨hsuffix, h⟩

/-- The failure that a node is left with. -/
def Event.failure? (event : Event) : Option EvalError :=
  match event with
  | .leaves (.error e) => some e
  | _ => none

/-- The node at a place is left with a failure. -/
def departure (e : EvalError) (state : State) (place : Place) : Note :=
  ⟨place, state, .leaves (.error e)⟩

/-- The nodes above a place are left with a failure, the innermost first. -/
def departuresAbove (e : EvalError) (state : State) (place : Place) : List Note :=
  (Place.above place).map (departure e state)

/-- The node at a place and all nodes above it are left with a failure, the innermost first. -/
def departures (e : EvalError) (state : State) (place : Place) : List Note :=
  departure e state place :: departuresAbove e state place

/-- No node is left with a failure. -/
def Faultless (log : List Note) : Prop :=
  ∀ note ∈ log, note.event.failure? = none

namespace Faultless

/-- In an empty log no node is left with a failure. -/
lemma nil : Faultless [] := fun _ h => nomatch h

/-- A note without failure may come first. -/
lemma cons {note : Note} {log : List Note} (hnote : note.event.failure? = none)
    (hlog : Faultless log) : Faultless (note :: log) :=
  List.forall_mem_cons.mpr ⟨hnote, hlog⟩

/-- Two logs without failures may follow each other. -/
lemma append {log log' : List Note} (h : Faultless log) (h' : Faultless log') :
    Faultless (log ++ log') :=
  List.forall_mem_append.mpr ⟨h, h'⟩

/-- A log has one first failure only.

**Proof sketch.** Induction on what comes before the first failure in one of the logs. It has no
failure, so the other log begins in the same way. -/
lemma first_unique {before before' after after' : List Note} {note note' : Note} {e e' : EvalError}
    (hbefore : Faultless before) (hbefore' : Faultless before')
    (hnote : note.event.failure? = some e) (hnote' : note'.event.failure? = some e')
    (h : before ++ note :: after = before' ++ note' :: after') :
    note = note' ∧ after = after' := by
  induction before generalizing before' with
  | nil =>
    cases before' with
    | nil => exact List.cons.inj h
    | cons first before' =>
      cases h
      simp [hbefore' _ List.mem_cons_self] at hnote
  | cons first before ih =>
    cases before' with
    | nil =>
      cases h
      simp [hbefore _ List.mem_cons_self] at hnote'
    | cons first' before' =>
      exact ih (List.forall_mem_cons.mp hbefore).2 (List.forall_mem_cons.mp hbefore').2
        (List.cons.inj h).2

end Faultless

/-! ## Candid computations -/

/-- A computation that has a value only if no node is left with a failure. If it fails, then its log,
with what is still to be noted above it for this failure, has no failures up to one node, which is
left with it, as are all nodes above that one. -/
structure Candid {α : Type} (above : EvalError → State → List Note) (m : Logged α) : Prop where
  value : ∀ state a, (m state).result = .ok a → Faultless (m state).log
  failure : ∀ state e, (m state).result = .error e → ∃ before place, Faultless before ∧
    (m state).log ++ above e (m state).state = before ++ departures e (m state).state place

namespace Candid

variable {α β : Type} {place : Place}

/-- A failure that comes from no operand is one of the node itself. -/
lemma of_faultless {m : Logged α} (h : ∀ state, Faultless (m state).log) :
    Candid (departures · · place) m :=
  ⟨fun state _ _ => h state, fun state _ _ => ⟨(m state).log, place, h state, rfl⟩⟩

/-- A computation that notes nothing is candid. -/
lemma quiet (m : Evaluation α) : Candid (departures · · place) (Logged.quiet m) :=
  of_faultless fun _ => .nil

/-- Candid computations one after the other are candid.

**Proof sketch.** If the first one fails, then so does the whole with the same log. Otherwise its log
has no failures, and comes in front of the log of the second. -/
lemma bind {above : EvalError → State → List Note} {m : Logged α} {k : α → Logged β}
    (hm : Candid above m) (hk : ∀ a, Candid above (k a)) : Candid above (m >>= k) := by
  constructor
  · intro state b hb
    cases hr : (m state).result with
    | error e =>
      rw [Logged.bind_of_error hr] at hb
      cases hb
    | ok a =>
      rw [Logged.bind_of_ok hr] at hb ⊢
      exact (hm.value state a hr).append ((hk a).value _ b hb)
  · intro state e he
    cases hr : (m state).result with
    | error e' =>
      rw [Logged.bind_of_error hr] at he ⊢
      cases he
      exact hm.failure state e hr
    | ok a =>
      rw [Logged.bind_of_ok hr] at he ⊢
      obtain ⟨before, place, hbefore, hlog⟩ := (hk a).failure _ e he
      refine ⟨(m state).log ++ before, place, (hm.value state a hr).append hbefore, ?_⟩
      rw [List.append_assoc, hlog, List.append_assoc]

/-- A node is left with the failure of its operands, or with one of its own.

**Proof sketch.** The note that the node is entered has no failure and comes in front. If the operands
fail, then the note that the node is left is the next one above them. -/
lemma node {m : Logged Value} (hm : Candid (departures · · place) m) (e : Expr) :
    Candid (departuresAbove · · place) (Logged.within place (.enters e) .leaves m) := by
  constructor
  · intro state v hv
    change (m state).result = .ok v at hv
    refine .cons rfl ((hm.value state v hv).append (.cons ?_ .nil))
    rw [hv]
    rfl
  · intro state err herr
    change (m state).result = .error err at herr
    obtain ⟨before, last, hbefore, hlog⟩ := hm.failure state err herr
    refine ⟨⟨place, state, .enters e⟩ :: before, last, .cons rfl hbefore, ?_⟩
    change (⟨place, state, .enters e⟩ :: ((m state).log ++
      [⟨place, (m state).state, .leaves (m state).result⟩])) ++
        departuresAbove err (m state).state place =
      (⟨place, state, .enters e⟩ :: before) ++ departures err (m state).state last
    rw [herr, List.cons_append, List.cons_append, List.append_assoc, ← hlog]
    rfl

/-- The body of a function is no node, so a call whose body fails is the first node to fail. -/
lemma called (d : Definition) (s : Surroundings) (vs : List Value) :
    Candid (departures · · place) (d.logged s place vs) := by
  unfold Definition.logged
  split
  · exact of_faultless fun _ => .cons rfl (.cons rfl .nil)
  · exact quiet _

end Candid

/-- Every evaluation is candid: a node fails if one of its operands does, and then at once.

**Proof sketch.** Candid computations are closed under the steps of the evaluator. -/
lemma Expr.candid (s : Surroundings) (place : Place) (e : Expr) :
    Candid (departuresAbove · · place) (e.logged s place) := by
  have hclosed : Logged.Closed s (fun place m => Candid (departures · · place) m)
      (fun place m => Candid (departuresAbove · · place) m) := {
    pure := fun _ a => Candid.quiet (Pure.pure a)
    quiet := fun _ r => Candid.quiet (.ofExcept r)
    bind := fun hm hk => hm.bind hk
    operand := fun _ _ hm => hm
    node := fun e _ _ hm => hm.node e
    call := fun name d args h => by
      rw [Expr.logged]
      exact (h.bind fun vs => (Candid.quiet s.check).bind fun _ => .called d s vs).node _ }
  exact hclosed.logged place e

/-! ## The first failure -/

namespace Compiled

/-- An evaluation that fails has not come to a node, or is left with the failure of one.

**Proof sketch.** The first look either fails at once, or the root is evaluated, which is candid with
nothing above it. -/
lemma candid (c : Compiled) (s : Surroundings) (state : State) :
    (∀ v, (c.logged s state).result = .ok v → Faultless (c.logged s state).log) ∧
    ∀ e, (c.logged s state).result = .error e →
      (s.look state = .error e ∧ (c.logged s state).log = []) ∨
      ∃ before place, Faultless before ∧
        (c.logged s state).log = before ++ departures e (c.logged s state).state place := by
  unfold logged
  rw [Logged.checked_run]
  cases hc : s.look state with
  | error e =>
    refine ⟨fun _ h => (nomatch h), fun e' he => .inl ⟨?_, rfl⟩⟩
    cases he
    rfl
  | ok u =>
    have hroot := c.root.candid s []
    refine ⟨hroot.value state.looked, fun e he => .inr ?_⟩
    obtain ⟨before, place, hbefore, hlog⟩ := hroot.failure state.looked e he
    exact ⟨before, place, hbefore, by simpa [departuresAbove, Place.above] using hlog⟩

/-- **A failure is never made good.** The log below is that of the evaluation.

1. Behind the first node that is left with a failure, nothing happens but that the nodes above it
   are left with the same failure, the innermost first. The evaluation and the test fail with it.
2. An evaluation that has a value has left no node with a failure.
3. An evaluation that fails has left a node with that failure, unless its context was done at the
   beginning. Then nothing has happened.

**Proof sketch.** Every evaluation is candid, and a log has one first failure only. -/
theorem first_failure (c : Compiled) (s : Surroundings) (state : State) :
    (c.logged s).erase = c.eval s ∧
    (∀ before note after e, (c.logged s state).log = before ++ note :: after →
      (∀ earlier ∈ before, earlier.event.failure? = none) → note.event.failure? = some e →
        after = (Place.above note.place).map (departure e note.state) ∧
        ((c.eval s).run state).1 = .error e ∧ ((c.test s).run state).1 = .error e) ∧
    (∀ v, ((c.eval s).run state).1 = .ok v →
      ∀ note ∈ (c.logged s state).log, note.event.failure? = none) ∧
    ∀ e, ((c.eval s).run state).1 = .error e →
      (s.look state = .error e ∧ (c.logged s state).log = []) ∨
      ∃ note ∈ (c.logged s state).log, note.event.failure? = some e := by
  obtain ⟨hvalue, hfailure⟩ := c.candid s state
  rw [c.run_test, c.run_eval]
  refine ⟨c.erase_logged s, fun before note after e hlog hbefore hnote => ?_, hvalue,
    fun e he => ?_⟩
  · have hmem : note ∈ (c.logged s state).log := by simp [hlog]
    cases hr : (c.logged s state).result with
    | ok v => simp [hvalue v hr note hmem] at hnote
    | error err =>
      rcases hfailure err hr with ⟨-, hempty⟩ | ⟨before', place, hbefore', hlog'⟩
      · simp [hempty] at hmem
      · obtain ⟨rfl, rfl⟩ := Faultless.first_unique hbefore hbefore' hnote rfl
          (hlog.symm.trans hlog')
        cases hnote
        exact ⟨rfl, rfl, rfl⟩
  · rcases hfailure e he with hdone | ⟨before, place, -, hlog⟩
    · exact .inl hdone
    · exact .inr ⟨departure e (c.logged s state).state place, by simp [hlog, departures], rfl⟩

/-- In `!([null ?? x][0] in y) && z` the failure of `x` is that of all nodes above it, and `y` and `z`
are not come to. -/
theorem first_failure_in_fallback :
    ∃ c : Compiled,
      Grammar.parse (fun _ => none) (fun _ => none) 9 "!([null ?? x][0] in y) && z" = .ok c.root ∧
      (c.logged ⟨⟨0, none⟩, fun _ => 0, .standard, fun _ => none⟩ {}).log.drop 10 =
        [[0, 0, 0, 0, 0], [0, 0, 0, 0], [0, 0, 0], [0, 0], [0], []].map
          (departure (.undefinedVariable "x") ⟨{}, 1⟩) ∧
      ((c.eval ⟨⟨0, none⟩, fun _ => 0, .standard, fun _ => none⟩).run {}).1 =
        .error (.undefinedVariable "x") := by
  let c : Compiled := ⟨"!([null ?? x][0] in y) && z",
    .and (.unary .not (.binary .isIn (.index (.array [.coalesce (.literal .null) (.var "x")])
      (.literal (.ofNat 0))) (.var "y"))) (.var "z")⟩
  have ht : Lexeme.ofChars "!([null ?? x][0] in y) && z".toList = .ok ([⟨.symbol .not, 0, 1⟩,
      ⟨.symbol .leftParen, 1, 2⟩, ⟨.symbol .leftBracket, 2, 3⟩, ⟨.symbol .wordNull, 3, 7⟩,
      ⟨.symbol .coalesce, 8, 10⟩, ⟨.identifier "x", 11, 12⟩, ⟨.symbol .rightBracket, 12, 13⟩,
      ⟨.symbol .leftBracket, 13, 14⟩, ⟨.number (.ofNat 0), 14, 15⟩,
      ⟨.symbol .rightBracket, 15, 16⟩, ⟨.symbol .wordIn, 17, 19⟩, ⟨.identifier "y", 20, 21⟩,
      ⟨.symbol .rightParen, 21, 22⟩, ⟨.symbol .and, 23, 25⟩, ⟨.identifier "z", 26, 27⟩], 27) := by
    decide +kernel
  have hparse : Grammar.parse (fun _ => none) (fun _ => none) 9 "!([null ?? x][0] in y) && z" =
      .ok c.root := by
    rw [Grammar.parse_eq ht]
    rfl
  let s : Surroundings := ⟨⟨0, none⟩, fun _ => 0, .standard, fun _ => none⟩
  -- The tenth note is that the node `x` is left.
  have hlog : (c.logged s {}).log = (c.logged s {}).log.take 9 ++
      departure (.undefinedVariable "x") ⟨{}, 1⟩ [1, 0, 0, 0, 0, 0] :: (c.logged s {}).log.drop 10 := rfl
  obtain ⟨-, hfirst, -⟩ := c.first_failure s {}
  obtain ⟨hafter, heval, -⟩ := hfirst _ _ _ (.undefinedVariable "x") hlog (by decide) rfl
  exact ⟨c, hparse, hafter, heval⟩

end Compiled

end Formula
