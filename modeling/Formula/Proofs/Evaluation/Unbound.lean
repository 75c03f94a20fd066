import Formula.Pattern.Meaning
import Formula.Proofs.Builtin.Scopeless
import Formula.Proofs.Expr.Substitution
import Mathlib.Control.Monad.Basic

set_option autoImplicit false

/-!
# Variables that stand for nothing

An evaluation fails because a variable stands for nothing only where it looks the variable up: no
operator, no access and no function that comes with the language has this failure.

## Main results

* `Formula.Expr.failsOnly_eval` — the failures of an expression are those of its variables, its calls
  and its operators.
* `Formula.Compiled.undefined_variable` — which variable is reported, and when none is.
-/

namespace Formula

open EvalError (Scopeless)

/-! ## Accesses and operators -/

namespace Value

variable {v w : Value} {operation : String}

/-- A member that a value lacks is a failure of its own. -/
@[simp] lemma member_scopeless {key : String} : FailsOnly Scopeless (v.member key) := by
  unfold member
  split
  · split <;> simp [Scopeless]
  · simp [Scopeless]

/-- A value that is no position is refused by its kind. -/
@[simp] lemma position_scopeless : FailsOnly Scopeless v.position := by
  cases v <;> simp [position, Scopeless]

/-- A position outside a list is a failure of its own. -/
@[simp] lemma entryAt_scopeless {α : Type} {items : List α} {i : Int} :
    FailsOnly Scopeless (entryAt items i) := by
  unfold entryAt
  extract_lets outside
  split
  · simp [outside, Scopeless]
  · split <;> simp [outside, Scopeless]

/-- An element that a value lacks is a failure of its own. -/
@[simp] lemma element_scopeless : FailsOnly Scopeless (v.element w) := by
  cases v with
  | map fields => cases w <;> simp [element, Scopeless]
  | _ => simp [element, Scopeless]

/-- A value that no pattern is looked for in is refused by its kind. -/
@[simp] lemma subject_scopeless : FailsOnly Scopeless (v.subject operation) := by
  cases v <;> simp [subject, Scopeless]

/-- An operator on numbers fails as the operation does, or refuses an operand. -/
lemma onNumbers_scopeless {f : Double → Double → Except EvalError Double}
    (h : ∀ x y, FailsOnly Scopeless (f x y)) : FailsOnly Scopeless (v.onNumbers operation f w) := by
  simp [onNumbers, h]

/-- An operator on whole numbers fails as the operation does, or refuses an operand. -/
lemma onIntegers_scopeless {f : Int → Int → Except EvalError Int}
    (h : ∀ i j, FailsOnly Scopeless (f i j)) : FailsOnly Scopeless (v.onIntegers operation f w) := by
  simp [onIntegers, h]

/-- A division by zero is a failure of its own. -/
lemma unlessZero_scopeless (f : Double → Double → Double) (x y : Double) :
    FailsOnly Scopeless (unlessZero f x y) := by
  simp [unlessZero, Scopeless]

/-- An operation on 64 bits does not fail. -/
lemma onWords_scopeless (f : BitVec 64 → BitVec 64 → BitVec 64) (i j : Int) :
    FailsOnly Scopeless (onWords f i j) :=
  failsOnly_ok _

/-- A shift by too many places is a failure of its own. -/
lemma shiftBy_scopeless (f : BitVec 64 → Nat → BitVec 64) (i amount : Int) :
    FailsOnly Scopeless (shiftBy f i amount) := by
  simp [shiftBy, Scopeless]

/-- An addition refuses an operand, or does not fail. -/
lemma add_scopeless : FailsOnly Scopeless (v.add w) := by
  unfold add
  split
  case h_8 => exact onNumbers_scopeless fun x y => failsOnly_ok _
  all_goals exact failsOnly_ok _

/-- A subtraction refuses an operand, or does not fail. -/
lemma sub_scopeless : FailsOnly Scopeless (v.sub w) := by
  unfold sub
  split
  · exact failsOnly_ok _
  · exact onNumbers_scopeless fun x y => failsOnly_ok _

/-- A comparison refuses its operands, or does not fail. -/
lemma order_scopeless {holds : Ordering → Bool} : FailsOnly Scopeless (v.order operation holds w) := by
  unfold order
  split
  · exact failsOnly_ok _
  · simp [Scopeless]

/-- A search refuses its operands, or does not fail. -/
lemma isIn_scopeless : FailsOnly Scopeless (v.isIn w) := by
  cases w with
  | map fields => cases v <;> simp [isIn, Scopeless]
  | string s => cases v <;> simp [isIn, Scopeless]
  | _ => simp [isIn, Scopeless]

end Value

/-- Unary operators read no variables. -/
lemma UnaryOperator.apply_scopeless {op : UnaryOperator} {v : Value} :
    FailsOnly Scopeless (op.apply v) := by
  cases op <;> simp [apply]

/-- Binary operators read no variables.

**Proof sketch.** One case for each operator. They are built from operations on numbers, on whole
numbers and on 64 bits, and what these do with an operand is said above. -/
lemma BinaryOperator.apply_scopeless {op : BinaryOperator} {v w : Value} :
    FailsOnly Scopeless (op.apply v w) := by
  cases op
  case add => exact Value.add_scopeless
  case sub => exact Value.sub_scopeless
  case mul | pow => exact Value.onNumbers_scopeless fun x y => failsOnly_ok _
  case div | rem => exact Value.onNumbers_scopeless (Value.unlessZero_scopeless _)
  case eq | ne => exact failsOnly_ok _
  case lt | le | gt | ge => exact Value.order_scopeless
  case isIn => simp [apply, Value.isIn_scopeless]
  case bitAnd | bitOr | bitXor => exact Value.onIntegers_scopeless (Value.onWords_scopeless _)
  case shiftLeft | shiftRight => exact Value.onIntegers_scopeless (Value.shiftBy_scopeless _)

/-- A pattern that is computed and does not compile is a failure of its own.

**Proof sketch.** A text either compiles or is refused as a pattern, and any other value is refused by
its kind. -/
lemma Pattern.Engine.testComputed_scopeless {patterns : Engine} {negated : Bool} {pattern : Value}
    {subject : String} : FailsOnly Scopeless (patterns.testComputed negated pattern subject) := by
  cases pattern with
  | string text =>
    unfold testComputed
    dsimp only
    split <;> simp [Scopeless]
  | _ => simp [testComputed, Scopeless]

/-! ## Expressions -/

/-- What a property of failures has to allow of a node: that a variable stands for nothing, if it does,
and whatever the function that is called fails with. -/
def Expr.Allows (P : EvalError → Prop) (s : Surroundings) (node : Expr) : Prop :=
  match node with
  | .var name => s.scope name = none → P (.undefinedVariable name)
  | .call _ d _ => ∀ vs, Evaluation.FailsOnly P (d.call s vs)
  | _ => True

namespace Expr

variable {P : EvalError → Prop} {s : Surroundings}

/-- A step that reads no variables fails as every property of failures allows. -/
lemma failsOnly_step {α : Type} {r : Except EvalError α}
    (hP : ∀ err : EvalError, err.Scopeless → P err) (h : FailsOnly Scopeless r) :
    Evaluation.FailsOnly P (Evaluation.ofExcept r) :=
  Evaluation.failsOnly_ofExcept (h.mono hP)

/-- A variable fails only if it stands for nothing, and that is what its node allows then. -/
lemma failsOnly_lookup {name : String} (h : (var name).Allows P s) :
    Evaluation.FailsOnly P (Evaluation.ofExcept (s.lookup name)) := by
  refine Evaluation.failsOnly_ofExcept ?_
  unfold Surroundings.lookup
  split
  · exact failsOnly_ok _
  · next hscope => exact failsOnly_error.mpr (h hscope)

/-- A look at the context fails as every property of failures allows. -/
lemma failsOnly_check (hP : ∀ err : EvalError, err.Scopeless → P err) :
    Evaluation.FailsOnly P s.check :=
  fun state => (s.check_scopeless state).mono hP

mutual

/-- The failures of an expression are those that its nodes allow.

**Proof sketch.** Induction on the expression, together with its lists and its entries. Each kind of
node is a row of parts and steps: the parts fail as their nodes allow, which are among those of the
whole, and the steps read no variables. What is left are the nodes of variables and of calls, which
`Allows` is about. -/
theorem failsOnly_eval (hP : ∀ err : EvalError, err.Scopeless → P err) (e : Expr)
    (hnodes : ∀ node ∈ e.nodes, node.Allows P s) :
    Evaluation.FailsOnly P (e.eval s) := by
  -- Operands fail as their own nodes allow, and what is done with their values reads no variable.
  cases e with
  | literal v =>
    rw [eval]
    exact .pure v
  | array items =>
    simp only [nodes, List.forall_mem_cons] at hnodes
    rw [eval]
    exact (failsOnly_evalAll hP items hnodes.2).bind fun _ => .pure _
  | map entries =>
    simp only [nodes, List.forall_mem_cons] at hnodes
    rw [eval]
    exact (failsOnly_evalEntries hP entries hnodes.2).bind fun _ => .pure _
  | var name =>
    simp only [nodes, List.forall_mem_cons] at hnodes
    rw [eval]
    exact failsOnly_lookup hnodes.1
  | member target key =>
    simp only [nodes, List.forall_mem_cons] at hnodes
    rw [eval]
    exact (failsOnly_eval hP target hnodes.2).bind fun _ => failsOnly_step hP Value.member_scopeless
  | index target position =>
    simp only [nodes, List.forall_mem_cons, List.forall_mem_append] at hnodes
    obtain ⟨-, htarget, hposition⟩ := hnodes
    rw [eval]
    exact (failsOnly_eval hP target htarget).bind fun _ =>
      (failsOnly_eval hP position hposition).bind fun _ => failsOnly_step hP Value.element_scopeless
  | call name definition args =>
    simp only [nodes, List.forall_mem_cons] at hnodes
    obtain ⟨hcall, hargs⟩ := hnodes
    rw [eval]
    exact (failsOnly_evalAll hP args hargs).bind fun vs =>
      (failsOnly_check hP).bind fun _ => hcall vs
  | unary op operand =>
    simp only [nodes, List.forall_mem_cons] at hnodes
    rw [eval]
    exact (failsOnly_eval hP operand hnodes.2).bind fun _ =>
      failsOnly_step hP UnaryOperator.apply_scopeless
  | binary op left right =>
    simp only [nodes, List.forall_mem_cons, List.forall_mem_append] at hnodes
    obtain ⟨-, hleft, hright⟩ := hnodes
    rw [eval]
    exact (failsOnly_eval hP left hleft).bind fun _ => (failsOnly_eval hP right hright).bind fun _ =>
      failsOnly_step hP BinaryOperator.apply_scopeless
  | and left right =>
    simp only [nodes, List.forall_mem_cons, List.forall_mem_append] at hnodes
    obtain ⟨-, hleft, hright⟩ := hnodes
    rw [eval]
    refine (failsOnly_eval hP left hleft).bind fun v => ?_
    split
    · exact .pure _
    · exact (failsOnly_eval hP right hright).bind fun _ => .pure _
  | or left right =>
    simp only [nodes, List.forall_mem_cons, List.forall_mem_append] at hnodes
    obtain ⟨-, hleft, hright⟩ := hnodes
    rw [eval]
    refine (failsOnly_eval hP left hleft).bind fun v => ?_
    split
    · exact (failsOnly_eval hP right hright).bind fun _ => .pure _
    · exact .pure _
  | coalesce left right =>
    simp only [nodes, List.forall_mem_cons, List.forall_mem_append] at hnodes
    obtain ⟨-, hleft, hright⟩ := hnodes
    rw [eval]
    refine (failsOnly_eval hP left hleft).bind fun v => ?_
    split
    · exact failsOnly_eval hP right hright
    · exact .pure _
  | conditional test positive negative =>
    simp only [nodes, List.forall_mem_cons, List.forall_mem_append] at hnodes
    obtain ⟨-, htest, hpositive, hnegative⟩ := hnodes
    rw [eval]
    refine (failsOnly_eval hP test htest).bind fun v => ?_
    split
    · exact failsOnly_eval hP negative hnegative
    · exact failsOnly_eval hP positive hpositive
  | matchesLiteral negated subject text pattern =>
    simp only [nodes, List.forall_mem_cons] at hnodes
    rw [eval]
    exact (failsOnly_eval hP subject hnodes.2).bind fun _ =>
      (failsOnly_step hP Value.subject_scopeless).bind fun _ => .pure _
  | matchesComputed negated subject pattern =>
    simp only [nodes, List.forall_mem_cons, List.forall_mem_append] at hnodes
    obtain ⟨-, hsubject, hpattern⟩ := hnodes
    rw [eval]
    exact (failsOnly_eval hP subject hsubject).bind fun _ =>
      (failsOnly_step hP Value.subject_scopeless).bind fun _ =>
        (failsOnly_eval hP pattern hpattern).bind fun _ =>
          failsOnly_step hP Pattern.Engine.testComputed_scopeless

/-- The failures of a list of expressions are those that its nodes allow.

**Proof sketch.** The first one fails as its nodes allow, and the rest by induction. -/
theorem failsOnly_evalAll (hP : ∀ err : EvalError, err.Scopeless → P err) (es : List Expr)
    (hnodes : ∀ node ∈ nodesAll es, node.Allows P s) :
    Evaluation.FailsOnly P (evalAll s es) := by
  cases es with
  | nil => exact .pure []
  | cons e rest =>
    simp only [nodesAll, List.forall_mem_append] at hnodes
    rw [evalAll]
    exact (failsOnly_eval hP e hnodes.1).bind fun _ =>
      (failsOnly_evalAll hP rest hnodes.2).bind fun _ => .pure _

/-- The failures of the entries of a map are those that its nodes allow.

**Proof sketch.** The value of the first entry fails as its nodes allow, and the rest by induction. -/
theorem failsOnly_evalEntries (hP : ∀ err : EvalError, err.Scopeless → P err)
    (entries : List (String × Expr))
    (hnodes : ∀ node ∈ nodesEntries entries, node.Allows P s) :
    Evaluation.FailsOnly P (evalEntries s entries) := by
  cases entries with
  | nil => exact .pure []
  | cons entry rest =>
    obtain ⟨key, e⟩ := entry
    simp only [nodesEntries, List.forall_mem_append] at hnodes
    rw [evalEntries]
    exact (failsOnly_eval hP e hnodes.1).bind fun _ =>
      (failsOnly_evalEntries hP rest hnodes.2).bind fun _ => .pure _

end

end Expr

/-- **Failures to find a variable are exact.** If all functions that an expression calls come with the
language, and its evaluation fails because a variable stands for nothing, then this variable occurs in
the expression and stands for nothing. So if all variables of the expression stand for something, its
evaluation does not fail for this reason, whatever the context.

**Proof sketch.** By induction on the expression, its failures are those of looking up its variables, of
its operators and accesses, of the context and of the functions it calls. Only the first are about
variables, and a variable that is looked up occurs in the expression. -/
theorem Compiled.undefined_variable (c : Compiled) (s : Surroundings) (state : State)
    (hcalls : ∀ name d args, .call name d args ∈ c.root.nodes →
      ∃ l ∈ Builtin.libraries, d ∈ l.definitions) :
    (∀ name, ((c.eval s).run state).1 = .error (.undefinedVariable name) →
      .var name ∈ c.root.nodes ∧ s.scope name = none) ∧
    ((∀ name, .var name ∈ c.root.nodes → s.scope name ≠ none) →
      ∀ name, ((c.eval s).run state).1 ≠ .error (.undefinedVariable name)) := by
  let P (e : EvalError) : Prop :=
    ∀ name, e = .undefinedVariable name → .var name ∈ c.root.nodes ∧ s.scope name = none
  have hP (e : EvalError) (he : e.Scopeless) : P e := by
    rintro name rfl
    exact he.elim
  have hnodes : ∀ node ∈ c.root.nodes, node.Allows P s := by
    intro node hnode
    cases node with
    | var name =>
      rintro hscope _ ⟨⟩
      exact ⟨hnode, hscope⟩
    | call name d args =>
      obtain ⟨l, hl, hd⟩ := hcalls name d args hnode
      exact fun vs state => ((Builtin.scopeless l hl d hd).call s vs state).mono hP
    | _ => trivial
  have hroot : Evaluation.FailsOnly P (c.eval s) :=
    (Expr.failsOnly_check hP).bind fun _ => Expr.failsOnly_eval hP c.root hnodes
  have hexact (name : String) (h : ((c.eval s).run state).1 = .error (.undefinedVariable name)) :
      .var name ∈ c.root.nodes ∧ s.scope name = none :=
    hroot state _ h name rfl
  refine ⟨hexact, fun hbound name h => ?_⟩
  obtain ⟨hnode, hscope⟩ := hexact name h
  exact hbound name hnode hscope

/-- `len(x)` with no variables, and with variables that are all null.

**Proof sketch.** The text is read by evaluation. Its one variable stands for nothing in the first run.
In the second one all variables stand for something, so the general theorem excludes this failure. -/
theorem Compiled.undefined_variable_len :
    ∃ c : Compiled,
      Parser.parse ⟨.ofLibraries [Builtin.General.library], {}, .standard⟩ "len(x)" = .ok c ∧
      ((c.eval ⟨⟨0, none⟩, fun _ => 0, .standard, fun _ => none⟩).run {}).1 = .error (.undefinedVariable "x") ∧
      .var "x" ∈ c.root.nodes ∧
      ∀ name, ((c.eval ⟨⟨0, none⟩, fun _ => 0, .standard, fun _ => some .null⟩).run {}).1 ≠
        .error (.undefinedVariable name) := by
  let len := (Definition.plain "len" (.fixed 1) Builtin.General.len).withAlias "length"
  let c : Compiled := ⟨"len(x)", .call "len" len [.var "x"]⟩
  have hread : Lexeme.ofChars "len(x)".toList =
      .ok ([⟨.identifier "len", 0, 3⟩, ⟨.symbol .leftParen, 3, 4⟩, ⟨.identifier "x", 4, 5⟩,
        ⟨.symbol .rightParen, 5, 6⟩], 6) := by
    decide +kernel
  have hparse : Parser.parse ⟨.ofLibraries [Builtin.General.library], {}, .standard⟩ "len(x)" =
      .ok c := by
    rw [Parser.parse, Parser.expression, Grammar.parse_eq hread]
    rfl
  have hcalls : ∀ name d args, .call name d args ∈ c.root.nodes →
      ∃ l ∈ Builtin.libraries, d ∈ l.definitions := by
    intro name d args hnode
    obtain ⟨-, rfl, -⟩ : name = "len" ∧ d = len ∧ args = [.var "x"] := by
      simpa [c, Expr.nodes, Expr.nodesAll] using hnode
    exact ⟨Builtin.General.library, by simp [Builtin.libraries], by
      simp [Builtin.General.library, len]⟩
  have hmissing : ((c.eval ⟨⟨0, none⟩, fun _ => 0, .standard, fun _ => none⟩).run {}).1 =
      .error (.undefinedVariable "x") := by
    rfl
  refine ⟨c, hparse, hmissing, ?_, ?_⟩
  · exact ((c.undefined_variable _ _ hcalls).1 "x" hmissing).1
  · exact (c.undefined_variable _ _ hcalls).2 fun name _ => Option.some_ne_none _

end Formula
