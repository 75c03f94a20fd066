import Formula.Builtin.Basic
import Formula.Proofs.Builtin.Looks
import Formula.Proofs.Language.FailsOnly

set_option autoImplicit false

/-!
# How the functions that come with the language fail

Each of them reads its arguments, perhaps looks at the context, and fails with a complaint of its own. A
reader complains that an argument is missing only where the position lies behind the end of the
arguments, so every lemma here says for how many arguments that can happen: the functions are taken apart
step by step, and what is left of each step is an inequality between a position and a number of
arguments.

## Main definitions

* `Formula.EvalError.Own` — the failures of a function that may have been given too few arguments.
* `Formula.Definition.Careful` — the functions that miss an argument only where their arity refuses the
  number of arguments.

## Main results

* `Formula.Builtin.careful` — the functions that come with the language are such functions.
-/

namespace Formula

/-- A complaint of the body of a function. It leaves the number of arguments to the call, and it misses
an argument only if there are too few. -/
def Complaint.Own (short : Prop) (c : Complaint) : Prop :=
  match c with
  | wrongCount _ _ => False
  | missingArgument _ => short
  | _ => True

/-- A failure of the body of a function, which looks up no variables. -/
def EvalError.Own (short : Prop) (e : EvalError) : Prop :=
  match e with
  | undefinedVariable _ => False
  | function _ complaint => complaint.Own short
  | _ => True

open EvalError (Own)

attribute [local simp] EvalError.Own Complaint.Own

variable {short : Prop}

/-! ## Values as numbers -/

namespace Value

variable {v : Value} {operation : String}

/-- Taking a value for a number refuses the kind of the value or the text in it, never an argument. -/
@[simp] lemma toNumber_own : FailsOnly (Own short) (v.toNumber operation) := by
  unfold toNumber
  split <;> simp

/-- Taking a value for a whole number refuses the value, never an argument. -/
@[simp] lemma toInteger_own : FailsOnly (Own short) (v.toInteger operation) := by
  refine failsOnly_bind.mpr ⟨toNumber_own, fun x _ => ?_⟩
  split <;> simp

end Value

/-! ## Arguments -/

namespace Argument

variable {α : Type} {name : String} {args : List Value} {i : Nat}

/-- An argument is missing only at or behind the end of the arguments. -/
@[simp] lemma any_own (h : args.length ≤ i → short) : FailsOnly (Own short) (any name args i) := by
  unfold any
  split
  · simp
  case h_2 hnone => simpa using h (List.getElem?_eq_none_iff.mp hnone)

/-- That no arguments are left does not matter, unless the position lies behind their end. -/
@[simp] lemma rest_own (h : args.length < i → short) : FailsOnly (Own short) (rest name args i) := by
  unfold rest
  split
  · simp
  case isFalse hi => simpa using h (by omega)

/-- The refusal of a kind of argument is a failure of the function itself. -/
@[simp] lemma refuse_own {expected : String} {v : Value} :
    FailsOnly (Own short) (refuse name expected v : Except EvalError α) := by
  simp [refuse]

/-- A number is missed only at or behind the end of the arguments. -/
@[simp] lemma number_own (h : args.length ≤ i → short) :
    FailsOnly (Own short) (number name args i) := by
  simp [number, any_own h]

/-- A whole number is missed only at or behind the end of the arguments. -/
@[simp] lemma integer_own (h : args.length ≤ i → short) :
    FailsOnly (Own short) (integer name args i) := by
  simp [integer, any_own h]

/-- A text is missed only at or behind the end of the arguments. A value that is no text is refused by
its kind. -/
@[simp] lemma string_own (h : args.length ≤ i → short) :
    FailsOnly (Own short) (string name args i) := by
  refine failsOnly_bind.mpr ⟨any_own h, fun v _ => ?_⟩
  cases v <;> simp

/-- The characters of a text are missed only where the text is. -/
@[simp] lemma chars_own (h : args.length ≤ i → short) :
    FailsOnly (Own short) (chars name args i) := by
  simp [chars, string_own h]

/-- A boolean is missed only at or behind the end of the arguments. Any other value is refused by its
kind. -/
@[simp] lemma bool_own (h : args.length ≤ i → short) : FailsOnly (Own short) (bool name args i) := by
  refine failsOnly_bind.mpr ⟨any_own h, fun v _ => ?_⟩
  cases v <;> simp

/-- An array is missed only at or behind the end of the arguments. Any other value is refused by its
kind. -/
@[simp] lemma array_own (h : args.length ≤ i → short) :
    FailsOnly (Own short) (array name args i) := by
  refine failsOnly_bind.mpr ⟨any_own h, fun v _ => ?_⟩
  cases v <;> simp

/-- A map is missed only at or behind the end of the arguments. Any other value is refused by its kind. -/
@[simp] lemma map_own (h : args.length ≤ i → short) : FailsOnly (Own short) (map name args i) := by
  refine failsOnly_bind.mpr ⟨any_own h, fun v _ => ?_⟩
  cases v <;> simp

/-- A timestamp is missed only at or behind the end of the arguments.

**Proof sketch.** A text that denotes no timestamp is refused with a complaint about the text, and a
value that is neither text nor timestamp by its kind. -/
@[simp] lemma timestamp_own (h : args.length ≤ i → short) :
    FailsOnly (Own short) (timestamp name args i) := by
  refine failsOnly_bind.mpr ⟨any_own h, fun v _ => ?_⟩
  cases v with
  | string s =>
    dsimp only
    split <;> simp
  | _ => simp

/-- An argument that may be left out is only read where it is there. -/
@[simp] lemma failsOnly_orElse {P : EvalError → Prop}
    {read : String → List Value → Nat → Except EvalError α} {a : α} :
    FailsOnly P (orElse read a name args i) ↔ (i < args.length → FailsOnly P (read name args i)) := by
  simp [orElse]

/-- What reads an argument at every position there is misses none of them. -/
lemma failsOnly_each {P : EvalError → Prop} {read : Nat → Except EvalError α}
    (h : ∀ i < args.length, FailsOnly P (read i)) :
    FailsOnly P ((List.range args.length).mapM read) :=
  failsOnly_mapM fun i hi => h i (List.mem_range.mp hi)

end Argument

/-! ## Looks at the context -/

/-- A context that is done says so, and complains of nothing else. -/
lemma Surroundings.look_own (s : Surroundings) (state : State) :
    FailsOnly (Own short) (s.look state) := by
  unfold look Context.check
  split
  · simp
  · split <;> simp

/-- Looks at the context fail as one look does.

**Proof sketch.** Induction on the number of looks. Each of them fails as `look_own` says. -/
lemma Looking.checks_own (s : Surroundings) (n : Nat) :
    Evaluation.FailsOnly (Own short) (checks s n) := by
  induction n with
  | zero => exact .pure ()
  | succ n ih =>
    refine Evaluation.FailsOnly.bind (fun state => ?_) fun _ => ih
    rw [s.run_check]
    exact s.look_own state

/-! ## Functions -/

namespace Definition

/-- A function whose failures are its own, and that misses an argument only where its arity refuses the
number of arguments. -/
def Careful (d : Definition) : Prop :=
  ∀ s vs, Evaluation.FailsOnly (EvalError.Own ¬(d.arity.accepts vs.length)) (d.body s vs)

variable {name : String} {arity : Arity}

/-- A function of its arguments is careful if what it gives for them fails as it should, and only then.

**Proof sketch.** For the converse it is called in some surroundings. They do not matter, since its body
does not look at them. -/
@[simp] lemma careful_plain {f : List Value → Except EvalError Value} :
    (plain name arity f).Careful ↔
      ∀ vs, FailsOnly (Own ¬(arity.accepts vs.length)) (f vs) := by
  refine ⟨fun h vs => ?_, fun h _ vs => Evaluation.failsOnly_ofExcept (h vs)⟩
  have hrun := h ⟨⟨0, none⟩, fun _ => 0, ⟨fun _ => none, fun _ _ => false⟩, fun _ => none⟩ vs {}
  change FailsOnly _ ((Evaluation.ofExcept (f vs)).run {}).1 at hrun
  rwa [Evaluation.run_ofExcept] at hrun

/-- A function that uses regular expressions is careful if it fails as it should with any of them.

**Proof sketch.** For the converse it is called in surroundings that have the given regular expressions. -/
@[simp] lemma careful_matching {f : Pattern.Engine → List Value → Except EvalError Value} :
    (matching name arity f).Careful ↔
      ∀ patterns vs, FailsOnly (Own ¬(arity.accepts vs.length)) (f patterns vs) := by
  refine ⟨fun h patterns vs => ?_, fun h s vs => Evaluation.failsOnly_ofExcept (h s.patterns vs)⟩
  have hrun := h ⟨⟨0, none⟩, fun _ => 0, patterns, fun _ => none⟩ vs {}
  change FailsOnly _ ((Evaluation.ofExcept (f patterns vs)).run {}).1 at hrun
  rwa [Evaluation.run_ofExcept] at hrun

/-- What a function sees of the context is no complaint of an argument.

**Proof sketch.** The looks fail as they should, and behind them comes the result. For the converse the
function is called in a context that is never done, where it comes to its result. -/
@[simp] lemma careful_watching {f : List Value → Looking Value} :
    (watching name arity f).Careful ↔
      ∀ vs, FailsOnly (Own ¬(arity.accepts vs.length)) (f vs).result := by
  refine ⟨fun h vs => ?_, fun h s vs => ?_⟩
  · let s : Surroundings := ⟨⟨0, none⟩, fun _ => 0, ⟨fun _ => none, fun _ _ => false⟩, fun _ => none⟩
    have hlive : s.Live {} := fun _ _ => rfl
    obtain ⟨last, -, hrun⟩ := (f vs).run_evaluation hlive
    have hown := h s vs {}
    change FailsOnly _ (((f vs).evaluation s).run {}).1 at hown
    rwa [hrun] at hown
  · exact (Looking.checks_own s _).bind fun _ => Evaluation.failsOnly_ofExcept (h vs)

/-- A further name of a function does not change how it fails. -/
@[simp] lemma careful_withAlias {d : Definition} : (d.withAlias name).Careful ↔ d.Careful :=
  .rfl

end Definition

/-! ## Templates -/

namespace Template

variable {name : String} {values : List Value}

/-- A value that a template misses is a complaint about the template. -/
lemma next_own {verb : Char} : FailsOnly (Own short) (next name verb values) := by
  unfold next
  split <;> simp

/-- A directive is written with the next value, or with none. -/
lemma write_own {d : Directive} : FailsOnly (Own short) (write name d values) := by
  cases d <;> simp [write, next_own]

/-- A filled template fails as one of its directives does.

**Proof sketch.** Induction on the directives. Each of them passes on the values it leaves. -/
lemma writeAll_own {directives : List Directive} :
    FailsOnly (Own short) (writeAll name directives values) := by
  induction directives generalizing values with
  | nil => simp [writeAll]
  | cons d rest ih => simp [writeAll, write_own, ih]

/-- A precision that is too large is a complaint about the template. -/
lemma precision_own {cs : List Char} {fault : Complaint} (h : precision cs = .error fault) :
    fault.Own short := by
  unfold precision at h
  split at h
  · dsimp only at h
    split at h <;> cases h
    trivial
  · cases h

/-- What is no directive is a complaint about the template.

**Proof sketch.** Either the precision is refused, or there is no letter behind it that a directive ends
with. These are all complaints about the template. -/
lemma directive_own {cs : List Char} {fault : Complaint} (h : directive cs = .error fault) :
    fault.Own short := by
  unfold directive at h
  rcases hprecision : precision cs with e | ⟨places, rest⟩
  · rw [hprecision] at h
    cases h
    exact precision_own hprecision
  · simp only [hprecision, bind, Except.bind] at h
    split at h <;> cases h <;> trivial

/-- What is wrong with a template is no matter of the arguments of a function. -/
lemma ofCharsWith_own {fuel : Nat} {cs : List Char} {fault : Complaint}
    (h : (ofCharsWith fuel cs).fault = some fault) : fault.Own short := by
  fun_induction ofCharsWith fuel cs with
  | case1 | case2 => cases h
  | case3 fuel rest d rest' hdirective ih => exact ih h
  | case4 fuel rest fault' hdirective => cases h; exact directive_own hdirective
  | case5 fuel c rest hc ih => exact ih h

/-- A template that asks for more values than there are has a complaint of its own. -/
lemma fill_own {cs : List Char} : FailsOnly (Own short) ((ofChars cs).fill name values) := by
  refine failsOnly_bind.mpr ⟨writeAll_own, fun text _ => ?_⟩
  split
  · simp
  case h_2 fault hfault => exact failsOnly_throw.mpr (ofCharsWith_own hfault)

end Template

/-! ## Libraries

Functions that go different ways for different values have lemmas of their own. -/

namespace Builtin

variable {args : List Value}

namespace General

/-- The function `len` reads one argument, and refuses the kinds that have no length. -/
lemma len_own (h : args.length < 1 → short) : FailsOnly (Own short) (len args) := by
  refine failsOnly_bind.mpr ⟨Argument.any_own fun hi => h (by omega), fun v _ => ?_⟩
  cases v <;> simp

/-- The general functions are careful. -/
lemma careful : ∀ d ∈ library.definitions, d.Careful := by
  simp (disch := grind) [library, len_own, isEmpty, isNil, coalesce, typeOf, General.default, Arity.accepts]

end General

namespace Texts

/-- A function of one text reads one argument. -/
lemma onChars_own {name : String} {f : List Char → List Char} (h : args.length < 1 → short) :
    FailsOnly (Own short) (onChars name f args) := by
  simp (disch := grind) [onChars]

/-- A question about two texts reads two arguments. -/
lemma asking_own {name : String} {holds : (part cs : List Char) → Bool}
    (h : args.length < 2 → short) : FailsOnly (Own short) (asking name holds args) := by
  simp (disch := grind) [asking]

/-- The function `shorten` reads three arguments, and refuses what is no measure. -/
lemma shorten_own (h : args.length < 3 → short) : FailsOnly (Own short) (shorten args) := by
  simp (disch := grind) only [shorten, failsOnly_bind, Argument.chars_own, Argument.string_own,
    Argument.integer_own, true_and]
  intro cs _ mode _ count _
  split <;> simp

/-- The function `match` reads two arguments, and refuses a text that is no regular expression. -/
lemma matching_own {patterns : Pattern.Engine} (h : args.length < 2 → short) :
    FailsOnly (Own short) (matching patterns args) := by
  simp (disch := grind) only [matching, failsOnly_bind, Argument.string_own, true_and]
  intro s _ text _
  split <;> simp

/-- The function `base64decode` reads one argument, and refuses a text that does not decode or whose
bytes are no text. -/
lemma base64decode_own (h : args.length < 1 → short) :
    FailsOnly (Own short) (base64decode args) := by
  refine failsOnly_bind.mpr ⟨Argument.chars_own fun hi => h (by omega), fun cs _ => ?_⟩
  split
  · simp
  · split <;> simp

/-- The functions on texts are careful.

**Proof sketch.** Each of them is taken apart into its readers. What is left to prove says that a
position which is read lies within the arity, and `grind` finds that. -/
lemma careful : ∀ d ∈ library.definitions, d.Careful := by
  simp +contextual (disch := grind) [library, trim, trimLeft, trimRight, toLower, toUpper, title,
    startsWith, endsWith, onChars_own, asking_own, hasSubstring, substring, split, join, replace, repeated,
    shorten_own, matching_own, base64encode, base64decode_own, format, Template.fill_own,
    Arity.accepts]

end Texts

namespace Documents

/-- The function `parseJSON` reads one argument, and refuses a text that is no document. -/
lemma parseJson_own (h : args.length < 1 → short) : FailsOnly (Own short) (parseJson args) := by
  refine failsOnly_bind.mpr ⟨Argument.string_own fun hi => h (by omega), fun text _ => ?_⟩
  split <;> simp

/-- The functions on documents are careful. -/
lemma careful : ∀ d ∈ library.definitions, d.Careful := by
  simp (disch := grind) [library, toJson, parseJson_own, Arity.accepts]

end Documents

namespace Numbers

/-- An extremum is looked for without any argument being asked for by its position. -/
lemma numbers_own {name : String} : FailsOnly (Own short) (numbers name args) := by
  unfold numbers
  extract_lets items
  split
  · simp
  · exact failsOnly_mapM fun v _ => Value.toNumber_own

/-- The base is only read where there is a second argument.

**Proof sketch.** With one argument the natural logarithm is taken. A second one is read at a position
that is there. -/
lemma log_own (h : args.length < 1 → short) : FailsOnly (Own short) (log args) := by
  simp (disch := grind) only [log, failsOnly_bind, Argument.number_own, true_and]
  intro x _
  cases hbase : args[1]? with
  | none => simp
  | some v =>
    have hlength : 1 < args.length := (List.getElem?_eq_some_iff.mp hbase).1
    simp (disch := grind)

/-- The functions on numbers are careful. -/
lemma careful : ∀ d ∈ library.definitions, d.Careful := by
  simp +contextual (disch := grind) [library, Numbers.min, Numbers.max, numbers_own, round, floor, ceil,
    abs, pow, sqrt, log_own, int, float, Arity.accepts]

end Numbers

namespace Times

/-- The function `parseTime` reads two arguments, and refuses a text that its layout does not fit. -/
lemma parseTime_own (h : args.length < 2 → short) : FailsOnly (Own short) (parseTime args) := by
  simp (disch := grind) only [parseTime, failsOnly_bind, Argument.string_own, true_and]
  intro s _ layout _
  split <;> simp

/-- The function `strftime` reads two arguments, and refuses a layout that cannot be written. -/
lemma strftime_own (h : args.length < 2 → short) : FailsOnly (Own short) (strftime args) := by
  simp (disch := grind) only [strftime, failsOnly_bind, Argument.timestamp_own, Argument.string_own,
    true_and]
  intro t _ layout _
  split <;> simp

/-- A choice among timestamps reads as many arguments as there are, so none of them is missing. If there
are none, this is a complaint of its own. -/
lemma choose_own {name : String} {replaces : Ordering → Bool} :
    FailsOnly (Own short) (choose name replaces args) := by
  have htimes : FailsOnly (Own short) (timestamps name args) :=
    Argument.failsOnly_each fun i hi => Argument.timestamp_own (by omega)
  refine failsOnly_bind.mpr ⟨htimes, fun ts _ => ?_⟩
  cases ts <;> simp

/-- A number of seconds that milliseconds cannot count is a complaint of the function. -/
lemma millis_own {name : String} {seconds : Double} :
    FailsOnly (Own short) (millis name seconds) := by
  unfold millis
  extract_lets outside
  split
  · simp [outside]
  · split <;> simp [outside]

/-- The function `addSeconds` reads two arguments, and refuses a sum that is no timestamp. -/
lemma addSeconds_own (h : args.length < 2 → short) : FailsOnly (Own short) (addSeconds args) := by
  simp (disch := grind) only [addSeconds, failsOnly_bind, Argument.timestamp_own, Argument.number_own,
    millis_own, true_and]
  intro t _ x _ delta _
  split <;> simp

/-- The function `fromUnix` reads one argument, and refuses seconds that are no timestamp. -/
lemma fromUnix_own (h : args.length < 1 → short) : FailsOnly (Own short) (fromUnix args) := by
  simp (disch := grind) only [fromUnix, failsOnly_bind, Argument.number_own, millis_own, true_and]
  intro x _ delta _
  split <;> simp

/-- The functions on timestamps are careful. -/
lemma careful : ∀ d ∈ library.definitions, d.Careful := by
  simp (disch := grind) [library, parseIsoTime, parseTime_own, strftime_own, earliest, latest,
    choose_own, isLeapYear, isWeekDay, addSeconds_own, unix, fromUnix_own, Arity.accepts]

end Times

namespace Lists

/-- The function `find` reads two arguments, and always comes to a position. -/
lemma find_own (h : args.length < 2 → short) : FailsOnly (Own short) (find args) := by
  simp (disch := grind) only [find, failsOnly_bind, Argument.array_own, Argument.any_own, true_and]
  intro items _ needle _
  split <;> simp

/-- The functions on arrays are careful. -/
lemma careful : ∀ d ∈ library.definitions, d.Careful := by
  simp +contextual (disch := grind) [library, push, pop, shift, count, has, hasAll, find_own, sort, slice,
    flatten, unique, Arity.accepts]

end Lists

namespace Maps

/-- All arguments are read as maps, and none that is not there. -/
lemma maps_own {name : String} :
    FailsOnly (Own short) ((List.range args.length).mapM fun i => Argument.map name args i) :=
  Argument.failsOnly_each fun i hi => Argument.map_own (by omega)

/-- The further arguments name keys. One that is no text, nor an array of texts, is refused by its kind. -/
lemma named_own {name : String} : FailsOnly (Own short) (named name args) := by
  refine failsOnly_bind.mpr ⟨failsOnly_mapM fun v _ => ?_, fun keys _ => failsOnly_pure _⟩
  -- an array stands for its items, any other value for itself alone
  cases v <;>
    · refine failsOnly_mapM fun key _ => ?_
      cases key <;> simp

/-- The function `get` reads two arguments, and refuses an unknown key unless there is a third one. -/
lemma get_own (h : args.length < 2 → short) : FailsOnly (Own short) (get args) := by
  simp (disch := grind) only [get, failsOnly_bind, Argument.map_own, Argument.string_own, true_and]
  intro fields _ key _
  split <;> simp +contextual (disch := grind)

/-- The function `hasKey` reads two arguments, of which the second may be of any kind. -/
lemma hasKey_own (h : args.length < 2 → short) : FailsOnly (Own short) (hasKey args) := by
  simp (disch := grind) only [hasKey, failsOnly_bind, Argument.map_own, Argument.any_own, true_and]
  intro fields _ v _
  cases v <;> simp

/-- The functions on maps are careful. -/
lemma careful : ∀ d ∈ library.definitions, d.Careful := by
  simp (disch := grind) [library, set, merge, maps_own, keys, values, without, pick, select, named_own,
    get_own, hasKey_own, Arity.accepts]

end Maps

/-- The failures of the functions that come with the language are their own, and none of them misses an
argument that its arity asks for. -/
theorem careful : ∀ l ∈ libraries, ∀ d ∈ l.definitions, d.Careful := by
  simp only [libraries, List.forall_mem_cons, List.not_mem_nil, false_imp_iff, implies_true, and_true]
  exact ⟨General.careful, Texts.careful, Documents.careful, Numbers.careful, Times.careful,
    Lists.careful, Maps.careful⟩

end Builtin

end Formula
