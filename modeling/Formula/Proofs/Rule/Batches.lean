import Formula.Pattern.Meaning
import Formula.Rule
import Mathlib.Data.List.Forall2

set_option autoImplicit false

/-!
# Batches of rules

A batch binds rules in a given order, up to the first one whose text cannot be read. Between batches
texts are edited, which leaves the bindings as they are. So a rule is bound to the text it had when
a batch last came as far as that rule and could read it, however many batches stopped before it
since.

## Main definitions

* `Formula.Rule.Accepted`, `Formula.Rule.Binds` — a text that can be read, and the rule bound to
  what it is read as.
* `Formula.Rule.Change` — what happens to rules: an edit of a text, or a batch.
* `Formula.Rule.after` — the rules after a history of changes.
* `Formula.Rule.Reaches` — a batch comes as far as a rule and can read it.
* `Formula.Rule.Untouched` — no batch of a history does so.

## Main results

* `Formula.Rule.bindAll_append` — a batch goes on behind rules that can be read.
* `Formula.Rule.bindChosen_of_reaches`, `Formula.Rule.bindChosen_of_not_reaches` — a batch rebinds
  what it reaches, and nothing else.
* `Formula.Rule.bound_by_last_batch` — which binding a rule has after a batch, and after a history.
-/

namespace Formula.Rule

/-! ## One batch -/

/-- The text of a rule can be read. -/
def Accepted (p : Parser) (r : Rule) : Prop :=
  ∃ compiled, p.parse r.text = .ok compiled

/-- The text of a rule can be read, and the second rule is the first one bound to what it is read
as. -/
def Binds (p : Parser) (r r' : Rule) : Prop :=
  ∃ compiled, p.parse r.text = .ok compiled ∧ r' = { r with bound := some compiled }

/-- The rule bound to what its text is read as. -/
def rebound (p : Parser) (r : Rule) : Rule :=
  { r with bound := (p.parse r.text).toOption }

section Batch

variable {p : Parser} {r : Rule} {before : List Rule}

/-- A rule whose text is read is bound to what it is read as. -/
lemma rebound_of_parse {compiled : Compiled} (h : p.parse r.text = .ok compiled) :
    r.rebound p = { r with bound := some compiled } := by
  rw [rebound, h]
  rfl

/-- Rules that can be read are bound to what they are read as. -/
lemma binds_rebound (h : ∀ x ∈ before, x.Accepted p) :
    List.Forall₂ (Binds p) before (before.map (rebound p)) := by
  rw [List.forall₂_map_right_iff, List.forall₂_same]
  intro x hx
  obtain ⟨compiled, hparse⟩ := h x hx
  exact ⟨compiled, hparse, rebound_of_parse hparse⟩

/-- At a rule that cannot be read a batch stops. -/
lemma bindAll_of_error {e : SyntaxError} (h : p.parse r.text = .error e) (later : List Rule) :
    bindAll p (r :: later) = (r :: later, some e) := by
  rw [bindAll, h]

/-- A rule that can be read is bound, and the batch goes on with the next one. -/
lemma bindAll_of_accepted (h : r.Accepted p) (later : List Rule) :
    bindAll p (r :: later) = (r.rebound p :: (bindAll p later).1, (bindAll p later).2) := by
  obtain ⟨compiled, h⟩ := h
  rw [bindAll, h, rebound_of_parse h]

/-- Rules that can be read are bound, and the batch goes on behind them.

**Proof sketch.** Induction on the rules that can be read. -/
lemma bindAll_append (h : ∀ x ∈ before, x.Accepted p) (later : List Rule) :
    bindAll p (before ++ later) =
      (before.map (rebound p) ++ (bindAll p later).1, (bindAll p later).2) := by
  induction before with
  | nil => rfl
  | cons x before ih =>
    obtain ⟨hx, hbefore⟩ := List.forall_mem_cons.mp h
    rw [List.cons_append, bindAll_of_accepted hx, ih hbefore]
    rfl

end Batch

/-! ## Batches and edits -/

/-- What happens to the rules of a host, which are told apart by numbers. -/
inductive Change where
  | edit (i : Nat) (text : String)
  /-- Some of the rules are bound in the given order. -/
  | batch (p : Parser) (chosen : List Nat)

/-- The rules after a batch of some of them. -/
def bindChosen (p : Parser) (rules : Nat → Rule) (chosen : List Nat) (i : Nat) : Rule :=
  ((chosen.zip (bindAll p (chosen.map rules)).1).lookup i).getD (rules i)

/-- The rules after a change. -/
def change (rules : Nat → Rule) (c : Change) : Nat → Rule :=
  match c with
  | .edit i text => fun j => if j = i then (rules j).edit text else rules j
  | .batch p chosen => bindChosen p rules chosen

/-- The rules after a history of changes. -/
def after (rules : Nat → Rule) (history : List Change) : Nat → Rule :=
  history.foldl change rules

/-- A batch comes as far as a rule and can read its text. -/
def Reaches (p : Parser) (rules : Nat → Rule) (chosen : List Nat) (i : Nat) : Prop :=
  ∃ before later, chosen = before ++ i :: later ∧ ∀ j ∈ before ++ [i], (rules j).Accepted p

/-- No batch of a history reaches a rule. -/
def Untouched (rules : Nat → Rule) (history : List Change) (i : Nat) : Prop :=
  ∀ before p chosen later, history = before ++ .batch p chosen :: later →
    ¬ Reaches p (after rules before) chosen i

variable {p : Parser} {rules : Nat → Rule} {chosen : List Nat} {history : List Change} {c : Change}
  {i j : Nat}

/-! ### What a batch reaches -/

/-- A batch of no rules reaches none. -/
lemma not_reaches_nil : ¬ Reaches p rules [] i := by
  rintro ⟨before, later, h, -⟩
  simp at h

/-- A batch reaches its first rule if it can read it, and the others that it reaches behind it.

**Proof sketch.** The rules before the one that is reached are none, so it is the first, or they begin
with the first. -/
lemma reaches_cons :
    Reaches p rules (j :: chosen) i ↔
      (rules j).Accepted p ∧ (i = j ∨ Reaches p rules chosen i) := by
  constructor
  · rintro ⟨before, later, h, haccepted⟩
    cases before with
    | nil =>
      obtain ⟨rfl, -⟩ := List.cons.inj h
      exact ⟨haccepted j (by simp), .inl rfl⟩
    | cons first before =>
      obtain ⟨rfl, rfl⟩ := List.cons.inj h
      obtain ⟨hfirst, hbefore⟩ := List.forall_mem_cons.mp haccepted
      exact ⟨hfirst, .inr ⟨before, later, rfl, hbefore⟩⟩
  · rintro ⟨hj, rfl | ⟨before, later, rfl, haccepted⟩⟩
    · exact ⟨[], chosen, rfl, by simpa using hj⟩
    · exact ⟨j :: before, later, rfl, List.forall_mem_cons.mpr ⟨hj, haccepted⟩⟩

/-- A batch can read the rules that it reaches. -/
lemma accepted_of_reaches (h : Reaches p rules chosen i) : (rules i).Accepted p := by
  obtain ⟨before, later, -, haccepted⟩ := h
  exact haccepted i (by simp)

/-- If the first rule cannot be read, all rules are left as they are.

**Proof sketch.** The batch stops at its first rule, and each of its numbers finds its own rule in what
the batch leaves. -/
lemma bindChosen_cons_of_error (h : ¬ (rules j).Accepted p) (chosen : List Nat) (i : Nat) :
    bindChosen p rules (j :: chosen) i = rules i := by
  have herror : ∃ e, p.parse (rules j).text = .error e := by
    cases hparse : p.parse (rules j).text with
    | error e => exact ⟨e, rfl⟩
    | ok compiled => exact absurd ⟨compiled, hparse⟩ h
  obtain ⟨e, herror⟩ := herror
  unfold bindChosen
  rw [List.map_cons, bindAll_of_error herror, ← List.map_cons]
  -- Every number finds its own rule in the list that the batch leaves as it is.
  generalize j :: chosen = chosen
  induction chosen with
  | nil => rfl
  | cons k chosen ih =>
    rw [List.map_cons, List.zip_cons_cons, List.lookup_cons]
    by_cases hk : i = k
    · simp [hk]
    · rw [beq_false_of_ne hk]
      exact ih

/-- If the first rule can be read, it is bound, and the batch goes on with the others. -/
lemma bindChosen_cons_of_accepted (h : (rules j).Accepted p) (chosen : List Nat) (i : Nat) :
    bindChosen p rules (j :: chosen) i =
      if i = j then (rules j).rebound p else bindChosen p rules chosen i := by
  unfold bindChosen
  rw [List.map_cons, bindAll_of_accepted h, List.zip_cons_cons, List.lookup_cons]
  by_cases hj : i = j
  · simp [hj]
  · rw [beq_false_of_ne hj, if_neg hj]

/-- A batch rebinds the rules that it reaches.

**Proof sketch.** Induction on the batch. Its first rule can be read, and is this one or the batch
reaches this one behind it. -/
lemma bindChosen_of_reaches (h : Reaches p rules chosen i) :
    bindChosen p rules chosen i = (rules i).rebound p := by
  induction chosen with
  | nil => exact absurd h not_reaches_nil
  | cons j chosen ih =>
    obtain ⟨hj, hi⟩ := reaches_cons.mp h
    rw [bindChosen_cons_of_accepted hj]
    split
    · next hij => rw [hij]
    · next hij => exact ih (hi.resolve_left hij)

/-- A batch leaves the rules as they are that it does not reach.

**Proof sketch.** Induction on the batch. If its first rule can be read, then it is not this one, and
the batch does not reach this one behind it either. -/
lemma bindChosen_of_not_reaches (h : ¬ Reaches p rules chosen i) :
    bindChosen p rules chosen i = rules i := by
  induction chosen with
  | nil => rfl
  | cons j chosen ih =>
    by_cases hj : (rules j).Accepted p
    · rw [reaches_cons, not_and] at h
      obtain ⟨hij, hi⟩ := not_or.mp (h hj)
      rw [bindChosen_cons_of_accepted hj, if_neg hij, ih hi]
    · exact bindChosen_cons_of_error hj chosen i

/-! ### Histories -/

/-- A change leaves the binding of a rule as it is, if it is not a batch that reaches the rule.

**Proof sketch.** An edit changes the text only. -/
lemma bound_change (h : ∀ p chosen, c = .batch p chosen → ¬ Reaches p rules chosen i) :
    (change rules c i).bound = (rules i).bound := by
  cases c with
  | edit j text =>
    unfold change
    dsimp only
    split <;> rfl
  | batch p chosen =>
    unfold change
    dsimp only
    rw [bindChosen_of_not_reaches (h p chosen rfl)]

/-- A history leaves a rule untouched if its first change and the changes behind it do.

**Proof sketch.** A batch of the history is its first change or stands behind it, with the rules as the
first change leaves them. -/
lemma untouched_cons :
    Untouched rules (c :: history) i ↔
      (∀ p chosen, c = .batch p chosen → ¬ Reaches p rules chosen i) ∧
        Untouched (change rules c) history i := by
  constructor
  · intro h
    refine ⟨fun p chosen hc => ?_, fun before p chosen later hhistory => ?_⟩
    · exact h [] p chosen history (by rw [hc]; rfl)
    · exact h (c :: before) p chosen later (by rw [hhistory]; rfl)
  · rintro ⟨hfirst, hrest⟩ before p chosen later hhistory
    cases before with
    | nil => exact hfirst p chosen (List.cons.inj hhistory).1
    | cons first before =>
      obtain ⟨hc, hbehind⟩ := List.cons.inj hhistory
      rw [← hc]
      exact hrest before p chosen later hbehind

/-- After a history a rule has the binding that the last batch to reach it gave to it, or the one
from the beginning if no batch has reached it.

**Proof sketch.** Induction on the history, with the rules after its first change. If a later batch
reaches the rule, it is the last one for the whole history too. Otherwise the first change may be the
last batch to reach it, or nothing has. -/
lemma bound_after (rules : Nat → Rule) (history : List Change) (i : Nat) :
    Untouched rules history i ∧ (after rules history i).bound = (rules i).bound ∨
    ∃ before p chosen later compiled, history = before ++ .batch p chosen :: later ∧
      Reaches p (after rules before) chosen i ∧
      Untouched (after rules (before ++ [.batch p chosen])) later i ∧
      p.parse (after rules before i).text = .ok compiled ∧
      (after rules history i).bound = some compiled := by
  induction history generalizing rules with
  | nil => exact .inl ⟨fun before p chosen later h => by simp at h, rfl⟩
  | cons c history ih =>
    obtain ⟨huntouched, hbound⟩ | ⟨before, p, chosen, later, compiled, rfl, hlast⟩ :=
      ih (change rules c)
    · by_cases hc : ∀ p chosen, c = .batch p chosen → ¬ Reaches p rules chosen i
      · exact .inl ⟨untouched_cons.mpr ⟨hc, huntouched⟩, hbound.trans (bound_change hc)⟩
      · -- The first change is the last batch to reach the rule.
        simp only [not_forall, not_not] at hc
        obtain ⟨p, chosen, rfl, hreaches⟩ := hc
        obtain ⟨compiled, hparse⟩ := accepted_of_reaches hreaches
        refine .inr ⟨[], p, chosen, history, compiled, rfl, hreaches, huntouched, hparse, ?_⟩
        have hbatch : change rules (.batch p chosen) i = (rules i).rebound p :=
          bindChosen_of_reaches hreaches
        exact hbound.trans (by rw [hbatch, rebound_of_parse hparse])
    · exact .inr ⟨c :: before, p, chosen, later, compiled, rfl, hlast⟩

/-- **A batch binds exactly the rules before the first one that cannot be read.**

1. If it comes to a rule that cannot be read, that is its error: the rules before are bound to what
   their texts are read as, and that rule and those behind it stay as they are.
2. If all rules can be read, all are bound and there is no error.
3. Over a history of batches and edits, a rule that some batch has reached is bound to what its text
   at the last such batch was read as. A rule that no batch has reached is bound as it was.

**Proof sketch.** A batch goes on behind rules that can be read and stops at one that cannot
(`bindAll_append`, `bindAll_of_error`), so it rebinds what it reaches and nothing else. The last
change that rebinds a rule is then found by induction on the history. -/
theorem bound_by_last_batch :
    (∀ p before r later e, (∀ x ∈ before, x.Accepted p) → p.parse r.text = .error e →
      ∃ bound, List.Forall₂ (Binds p) before bound ∧
        bindAll p (before ++ r :: later) = (bound ++ r :: later, some e)) ∧
    (∀ p rules, (∀ x ∈ rules, x.Accepted p) →
      ∃ bound, List.Forall₂ (Binds p) rules bound ∧ bindAll p rules = (bound, none)) ∧
    ∀ rules history i,
      Untouched rules history i ∧ (after rules history i).bound = (rules i).bound ∨
      ∃ before p chosen later compiled, history = before ++ .batch p chosen :: later ∧
        Reaches p (after rules before) chosen i ∧
        Untouched (after rules (before ++ [.batch p chosen])) later i ∧
        p.parse (after rules before i).text = .ok compiled ∧
        (after rules history i).bound = some compiled := by
  refine ⟨fun p before r later e hbefore hr => ?_, fun p rules hrules => ?_, bound_after⟩
  · refine ⟨_, binds_rebound hbefore, ?_⟩
    rw [bindAll_append hbefore, bindAll_of_error hr]
  · refine ⟨_, binds_rebound hrules, ?_⟩
    have hall := bindAll_append hrules []
    rwa [List.append_nil, bindAll, List.append_nil] at hall

/-- A parser without functions. -/
def plain : Parser where
  language := {}
  patterns := .standard

/-- In a batch of `a`, `a +` and `b` only the first is bound, and the error is that of the second.
In a batch of `a` alone it is bound. -/
theorem bound_by_last_batch_incomplete_sum :
    Accepted plain ⟨"a", none⟩ ∧ plain.parse "a +" = .error (.unexpectedEnd .expression) ∧
    bindAll plain [⟨"a", none⟩, ⟨"a +", none⟩, ⟨"b", none⟩] =
      ([⟨"a", some ⟨"a", .var "a"⟩⟩, ⟨"a +", none⟩, ⟨"b", none⟩],
        some (.unexpectedEnd .expression)) ∧
    bindAll plain [⟨"a", none⟩] = ([⟨"a", some ⟨"a", .var "a"⟩⟩], none) := by
  have ha : Lexeme.ofChars "a".toList = .ok ([⟨.identifier "a", 0, 1⟩], 1) := by
    decide +kernel
  have hsum : Lexeme.ofChars "a +".toList =
      .ok ([⟨.identifier "a", 0, 1⟩, ⟨.symbol .plus, 2, 3⟩], 3) := by
    decide +kernel
  have hparse : plain.parse "a" = .ok ⟨"a", .var "a"⟩ := by
    rw [Parser.parse, Parser.expression, Grammar.parse_eq ha]
    rfl
  have herror : plain.parse "a +" = .error (.unexpectedEnd .expression) := by
    rw [Parser.parse, Parser.expression, Grammar.parse_eq hsum]
    rfl
  have haccepted : ∀ x ∈ [(⟨"a", none⟩ : Rule)], x.Accepted plain := by
    intro x hx
    rw [List.mem_singleton.mp hx]
    exact ⟨_, hparse⟩
  have hbinds {bound : List Rule} (h : List.Forall₂ (Binds plain) [⟨"a", none⟩] bound) :
      bound = [⟨"a", some ⟨"a", .var "a"⟩⟩] := by
    obtain _ | ⟨⟨compiled, hcompiled, rfl⟩, _ | _⟩ := h
    rw [Except.ok.inj (hcompiled.symm.trans hparse)]
  obtain ⟨hstops, hends, -⟩ := bound_by_last_batch
  refine ⟨⟨_, hparse⟩, herror, ?_, ?_⟩
  · obtain ⟨bound, hbound, h⟩ :=
      hstops plain [⟨"a", none⟩] ⟨"a +", none⟩ [⟨"b", none⟩] _ haccepted herror
    rw [hbinds hbound] at h
    exact h
  · obtain ⟨bound, hbound, h⟩ := hends plain [⟨"a", none⟩] haccepted
    rw [hbinds hbound] at h
    exact h

end Formula.Rule
