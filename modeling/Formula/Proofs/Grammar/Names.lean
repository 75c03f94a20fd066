import Formula.Builtin.Documents
import Formula.Builtin.General
import Formula.Parser
import Formula.Pattern.Meaning
import Formula.Proofs.Grammar.Soundness
import Formula.Proofs.Language.Names
import Mathlib.Control.Monad.Basic

set_option autoImplicit false

/-!
# Which names a reading looks up

What a name stands for only matters to a source text that has the name as an identifier. So
languages that agree on the identifiers of a text make the same of it, errors and positions
included, and libraries that define none of them can be added to a language without a change.

## Main definitions

* `Formula.identifiers` — the identifiers among tokens, and `Formula.identifiersOf` those of a
  source text.
* `Formula.Grammar.SameNames` — two grammars agree on the identifiers among tokens.
* `Formula.Grammar.Twins` — readers of phrases make the same of tokens where their grammars agree.

## Main results

* `Formula.Grammar.phrase_twins` — the readers of two grammars are twins on every level.
* `Formula.Language.resolve_append` — libraries that do not define a name do not change it.
* `Formula.Parser.parse_of_same_names` — both, for source texts.
-/

namespace Formula

/-- The name that a token is. -/
def Token.name? (t : Token) : Option String :=
  match t with
  | identifier name => some name
  | _ => none

/-- The identifiers among tokens. -/
def identifiers (tokens : List Lexeme) : List String :=
  tokens.filterMap fun t => t.token.name?

/-- The identifiers of a source text. A text that cannot be split into tokens has none. -/
def identifiersOf (source : String) : List String :=
  match Lexeme.ofChars source.toList with
  | .ok (tokens, _) => identifiers tokens
  | .error _ => []

namespace Grammar

variable {g g' : Grammar} {inner inner' : Inner} {tokens rest : List Lexeme}

/-! ## Agreement on the identifiers among tokens -/

/-- Two grammars agree on what the identifiers among tokens stand for. -/
def SameNames (g g' : Grammar) (tokens : List Lexeme) : Prop :=
  ∀ name ∈ identifiers tokens, g'.resolve name = g.resolve name

/-- Grammars that agree on tokens agree on the last of them. -/
lemma SameNames.suffix (h : SameNames g g' tokens) (hrest : rest <:+ tokens) :
    SameNames g g' rest :=
  fun name hname => h name ((hrest.filterMap _).subset hname)

/-- Grammars that agree on tokens agree on those behind the first one. -/
lemma SameNames.tail {t : Lexeme} (h : SameNames g g' (t :: tokens)) : SameNames g g' tokens :=
  h.suffix (List.suffix_cons t tokens)

/-- Grammars that agree on tokens agree on the identifier in front. -/
lemma SameNames.head {name : String} {a b : Nat}
    (h : SameNames g g' (⟨.identifier name, a, b⟩ :: tokens)) : g'.resolve name = g.resolve name :=
  h name List.mem_cons_self

/-! ## Readers -/

/-- Two readers of phrases in grammars that differ only in what names stand for. They make the same
of tokens on whose identifiers the grammars agree. -/
structure Twins (g g' : Grammar) (inner inner' : Inner) : Prop where
  compile : g'.compile = g.compile
  limit : g'.limit = g.limit
  sound : Sound g.resolve g.compile inner
  same : ∀ {p tokens}, SameNames g g' tokens → inner' p tokens = inner p tokens

/-- The items of a list are the same if each of them is.

**Proof sketch.** Induction on the loop over the items. Each step reads an item or expects a symbol, and
goes on with a suffix of the tokens, on which the grammars agree too. -/
lemma items_same {α : Type} {item item' : List Lexeme → Outcome α}
    (hsuffix : ∀ {tokens x rest}, item tokens = .ok (x, rest) → rest <:+ tokens)
    (hsame : ∀ {tokens}, SameNames g g' tokens → item' tokens = item tokens) (close : Symbol)
    (fuel : Nat) (h : SameNames g g' tokens) :
    items close item' fuel tokens = items close item fuel tokens := by
  fun_induction items close item fuel tokens with
  | case1 _ _ _ hclose => rw [items, hclose]
  | case2 _ _ _ hclose _ hx =>
    rw [items, hclose]
    simp only [hsame h, hx]
  | case3 _ _ _ hclose _ _ hx _ hcomma _ hend
  | case4 _ _ _ hclose _ _ hx _ hcomma _ hend =>
    rw [items, hclose]
    simp only [hsame h, hx, hcomma, hend]
  | case5 _ _ hclose _ _ hx _ hcomma =>
    rw [items, hclose]
    simp only [hsame h, hx, hcomma]
  | case6 _ _ hclose _ _ hx _ hcomma _ _ hxs ih
  | case7 _ _ hclose _ _ hx _ hcomma _ _ _ hxs ih =>
    rw [items, hclose]
    have hrest := h.suffix ((suffix_of_expect hcomma).trans (hsuffix hx))
    simp only [hsame h, hx, hcomma, ih hrest, hxs]

namespace Twins

variable (ht : Twins g g' inner inner')

include ht

/-- Both grammars have the same bound, so they name the same one. -/
lemma tooDeep_same {α : Type} (pos : Nat) :
    (g'.tooDeep pos : Except SyntaxError α) = g.tooDeep pos := by
  unfold tooDeep
  rw [ht.limit]

/-- Both grammars read the same list of expressions. -/
lemma list_same (close : Symbol) (fuel : Nat) (h : SameNames g g' tokens) :
    items close (inner' .expression) fuel tokens = items close (inner .expression) fuel tokens :=
  items_same ht.sound.suffix ht.same close fuel h

/-- Both grammars read the same entry of a map.

**Proof sketch.** The key and the colon do not depend on what names stand for, and the value behind them
is read alike. -/
lemma entry_same (h : SameNames g g' tokens) : entry inner' tokens = entry inner tokens := by
  unfold entry
  split
  case h_3 => rfl
  all_goals
    dsimp only
    split
    · rfl
    · next hcolon => rw [ht.same (h.tail.suffix (suffix_of_expect hcolon))]

/-- The one place where a name is looked up. -/
lemma call_same {name : String} (hname : g'.resolve name = g.resolve name) (pos : Nat)
    (h : SameNames g g' tokens) :
    g'.call inner' name pos tokens = g.call inner name pos tokens := by
  unfold call
  rw [hname, ht.list_same _ _ h]

/-- Both grammars read the same primary expression.

**Proof sketch.** One case for each way in which it begins. Only a call looks up what a name stands for,
and there the grammars agree on the identifier in front. -/
lemma primary_same (h : SameNames g g' tokens) :
    g'.primary inner' tokens = g.primary inner tokens := by
  unfold primary
  split
  case h_6 => rw [ht.same h.tail]
  case h_7 => rw [ht.list_same _ _ h.tail]
  case h_8 => rw [items_same ht.sound.entry_suffix ht.entry_same _ _ h.tail]
  case h_9 => exact ht.call_same h.head _ h.tail.tail
  all_goals rfl

/-- Both grammars read the same accesses.

**Proof sketch.** Induction on the loop over accesses. It looks up no name, and its positions are read
alike. -/
lemma accesses_same (left : Nat) (e : Expr) (h : SameNames g g' tokens) :
    g'.accesses inner' left e tokens = g.accesses inner left e tokens := by
  -- In front of what is left the names are the same too, since it is an end of the tokens.
  fun_induction accesses g inner left e tokens with
  | case1 =>
    rw [accesses]
    exact ht.tooDeep_same _
  | case2 _ _ _ _ _ _ _ _ ih =>
    rw [accesses]
    exact ih h.tail.tail
  | case3 _ _ _ _ _ hrest =>
    rw [accesses]
    exact hrest
  | case4 _ _ _ _ _ _ hp =>
    rw [accesses]
    simp only [ht.same h.tail, hp]
  | case5 _ _ _ _ _ _ _ hp _ hclose =>
    rw [accesses]
    simp only [ht.same h.tail, hp, hclose]
  | case6 _ _ _ _ _ _ hp _ hclose =>
    rw [accesses]
    simp only [ht.same h.tail, hp, hclose]
    exact ht.tooDeep_same _
  | case7 _ _ _ _ _ _ hp _ hclose _ ih =>
    rw [accesses]
    simp only [ht.same h.tail, hp, hclose]
    exact ih (h.tail.suffix ((suffix_of_expect hclose).trans (ht.sound.suffix hp)))
  | case8 _ _ _ hdot hbracket =>
    rw [accesses]
    · exact hdot
    · exact hbracket

/-- Both grammars read the same operand with accesses. -/
lemma accessed_same (levels : Nat) (h : SameNames g g' tokens) :
    g'.accessed inner' levels tokens = g.accessed inner levels tokens := by
  unfold accessed
  rw [ht.primary_same h]
  split
  · rfl
  · next hp => exact ht.accesses_same _ _ (h.suffix ((primary_ok hp).reads ht.sound).suffix)

/-- Both grammars read the same operators.

**Proof sketch.** Induction on the loop over operators. It looks up no name, its right operands are read
alike, and both grammars join operands in the same way. -/
lemma operators_same (least left : Nat) (e : Expr) (h : SameNames g g' tokens) :
    g'.operators inner' least left e tokens = g.operators inner least left e tokens := by
  fun_induction operators g inner least left e tokens with
  | case1 _ _ _ _ _ _ hs =>
    rw [operators]
    simp only [hs]
  | case2 _ _ _ _ _ _ _ hs hk =>
    rw [operators]
    simp only [hs, hk, if_true]
  | case3 _ _ _ _ _ _ _ hs hk _ hr =>
    rw [operators]
    simp only [hs, hk, if_false, ht.same h.tail, hr]
  | case4 _ _ _ _ _ _ hs hk _ _ hr =>
    rw [operators]
    simp only [hs, hk, if_false, ht.same h.tail, hr]
    exact ht.tooDeep_same _
  | case5 _ _ _ _ _ _ hs hk _ _ hr _ _ he =>
    rw [operators]
    simp only [hs, hk, if_false, ht.same h.tail, hr, combine_congr ht.compile, he]
  | case6 _ _ _ _ _ _ hs hk _ _ hr _ _ he ih =>
    rw [operators]
    simp only [hs, hk, if_false, ht.same h.tail, hr, combine_congr ht.compile, he]
    exact ih (h.tail.suffix (ht.sound.suffix hr))
  | case7 _ _ _ hs =>
    rw [operators]
    exact hs

/-- Both grammars read the same signed operand.

**Proof sketch.** Behind an operator the operand is read alike, and otherwise there is no operator. -/
lemma signed_same (levels : Nat) (h : SameNames g g' tokens) :
    g'.signed inner' levels tokens = g.signed inner levels tokens := by
  have haccessed := ht.accessed_same levels h
  unfold signed
  split
  · split
    · rw [ht.same h.tail]
    · exact haccessed
  · exact haccessed

/-- Both grammars read the same operand of operators. -/
lemma operand_same (levels least : Nat) (h : SameNames g g' tokens) :
    g'.operand inner' levels least tokens = g.operand inner levels least tokens := by
  unfold operand
  rw [ht.signed_same levels h]
  split
  · rfl
  · next hs => exact ht.operators_same _ _ _ (h.suffix (signed_reads ht.sound hs).suffix)

/-- Both grammars read the same expression.

**Proof sketch.** The test, the question mark, the alternatives and the colon stand one behind the
other. What is left behind each of them is a suffix of the tokens, on which the grammars agree too. -/
lemma conditional_same (levels : Nat) (h : SameNames g g' tokens) :
    g'.conditional inner' levels tokens = g.conditional inner levels tokens := by
  unfold conditional
  rw [ht.operand_same levels 0 h]
  split
  · rfl
  next htest =>
    have hmid := h.suffix (operand_reads ht.sound htest).1.suffix
    split
    · rfl
    next hq =>
      have hpositive := hmid.suffix (suffix_of_expect hq)
      rw [ht.same hpositive]
      split
      · rfl
      next hp =>
        split
        · rfl
        next hc =>
          rw [ht.same ((hpositive.suffix (ht.sound.suffix hp)).suffix (suffix_of_expect hc))]

end Twins

/-- Two grammars that differ only in what names stand for read phrases alike wherever they agree on
the identifiers.

**Proof sketch.** Induction on the levels that are left. Without any, both grammars name the same bound
and the same place. With one more, the readers of the phrases within a phrase are twins. -/
lemma phrase_twins (hcompile : g'.compile = g.compile) (hlimit : g'.limit = g.limit)
    (hstop : g'.stop = g.stop) (levels : Nat) :
    Twins g g' (g.phrase levels) (g'.phrase levels) := by
  refine ⟨hcompile, hlimit, phrase_sound g levels, ?_⟩
  induction levels with
  | zero =>
    intro p tokens _
    simp only [phrase, tooDeep, here, hlimit, hstop]
  | succ levels ih =>
    intro p tokens h
    have ht : Twins g g' (g.phrase levels) (g'.phrase levels) :=
      ⟨hcompile, hlimit, phrase_sound g levels, ih⟩
    cases p with
    | expression => exact ht.conditional_same levels h
    | operand least => exact ht.operand_same levels least h
    | signed => exact ht.signed_same levels h

/-- Both grammars make the same of all tokens, or refuse them for the same reason. -/
lemma expression_same (hcompile : g'.compile = g.compile) (hlimit : g'.limit = g.limit)
    (hstop : g'.stop = g.stop) (h : SameNames g g' tokens) :
    g'.expression tokens = g.expression tokens := by
  cases tokens with
  | nil => rfl
  | cons t tail =>
    simp only [expression, hlimit]
    rw [(phrase_twins hcompile hlimit hstop g.limit).same h]

/-- A source text stands for the same expression, or is refused for the same reason, wherever its
identifiers stand for the same.

**Proof sketch.** The text is split into the same tokens, and the identifiers among them are those of
the text. -/
lemma parse_congr {resolve resolve' : String → Option Definition} {source : String}
    (h : ∀ name ∈ identifiersOf source, resolve' name = resolve name)
    (compile : String → Option Pattern) (limit : Nat) :
    Grammar.parse resolve' compile limit source = Grammar.parse resolve compile limit source := by
  unfold identifiersOf at h
  unfold Grammar.parse
  cases ht : Lexeme.ofChars source.toList with
  | error e => rfl
  | ok r =>
    rw [ht] at h
    exact @expression_same ⟨resolve, compile, limit, r.2⟩ ⟨resolve', compile, limit, r.2⟩ r.1 rfl rfl
      rfl h

end Grammar

/-! ## Languages -/

/-- A library lacks a name if none of its functions has it. -/
lemma Library.find?_eq_none_iff {l : Library} {name : String} :
    l.find? name = none ↔ ∀ d ∈ l.definitions, name ∉ d.names := by
  simp [Library.find?]

/-- Libraries that do not define a name leave it what it stood for. -/
lemma Language.resolve_append {further : List Library} {name : String}
    (h : ∀ l ∈ further, l.find? name = none) (libraries : List Library) :
    (ofLibraries (libraries ++ further)).resolve name = (ofLibraries libraries).resolve name := by
  have hfurther : further.reverse.findSome? (·.find? name) = none := by
    simpa [List.findSome?_eq_none_iff] using h
  rw [resolve_ofLibraries, resolve_ofLibraries, List.reverse_append, List.findSome?_append,
    hfurther, Option.none_or]

/-- **A source text depends on its own identifiers only.**

1. Languages that agree on what each identifier of a text stands for, or that it stands for nothing,
   make the same of the text: the same expression with the same functions in it, or the same error
   at the same position.
2. In particular, further libraries behind those of a language change nothing for a text if no name
   of their functions is an identifier of it.

**Proof sketch.** The tokens do not depend on the language. Whatever is left of them while they are
read is a suffix of them, so the languages agree on its identifiers as well, and the one reader that
looks a name up, `Grammar.call`, has taken this name from the tokens. A name that further libraries
do not define is found where it was found before. -/
theorem Parser.parse_of_same_names (source : String) (options : Options)
    (patterns : Pattern.Engine) :
    (∀ language language' : Language,
      (∀ name ∈ identifiersOf source, language'.resolve name = language.resolve name) →
        Parser.parse ⟨language', options, patterns⟩ source =
          Parser.parse ⟨language, options, patterns⟩ source) ∧
    ∀ libraries further : List Library,
      (∀ l ∈ further, ∀ d ∈ l.definitions, ∀ name ∈ d.names, name ∉ identifiersOf source) →
        Parser.parse ⟨.ofLibraries (libraries ++ further), options, patterns⟩ source =
          Parser.parse ⟨.ofLibraries libraries, options, patterns⟩ source := by
  have hcongr (language language' : Language)
      (h : ∀ name ∈ identifiersOf source, language'.resolve name = language.resolve name) :
      Parser.parse ⟨language', options, patterns⟩ source =
        Parser.parse ⟨language, options, patterns⟩ source := by
    simp only [Parser.parse, Parser.expression, Grammar.parse_congr h]
  refine ⟨hcongr, fun libraries further h => hcongr _ _ fun name hname => ?_⟩
  refine Language.resolve_append (fun l hl => Library.find?_eq_none_iff.mpr fun d hd hnamed => ?_) _
  exact h l hl d hd name hnamed hname

/-- A text that has the name of a further function in quotes only is read as before, and a name that
two languages both lack is refused at the same place.

**Proof sketch.** Both texts are split into tokens by evaluation, which shows their identifiers. One
parse of each is evaluated, and the general theorem gives the other one. -/
theorem Parser.parse_of_same_names_quoted :
    (∀ l ∈ [Builtin.Documents.library], ∀ d ∈ l.definitions, ∀ name ∈ d.names,
      name ∉ identifiersOf "len(x) + \"toJSON\"") ∧
    Parser.parse ⟨.ofLibraries ([Builtin.General.library] ++ [Builtin.Documents.library]), {}, .standard⟩
        "len(x) + \"toJSON\"" =
      .ok ⟨"len(x) + \"toJSON\"", .binary .add
        (.call "len" ((Definition.plain "len" (.fixed 1) Builtin.General.len).withAlias "length")
          [.var "x"]) (.literal (.string "toJSON"))⟩ ∧
    (∀ name ∈ identifiersOf "[half(1)]",
      (Language.ofLibraries [Builtin.Documents.library]).resolve name =
        (Language.ofLibraries []).resolve name) ∧
    Parser.parse ⟨.ofLibraries [Builtin.Documents.library], {}, .standard⟩ "[half(1)]" =
      .error (.unknownFunction "half" 1) := by
  have hsum : Lexeme.ofChars "len(x) + \"toJSON\"".toList =
      .ok ([⟨.identifier "len", 0, 3⟩, ⟨.symbol .leftParen, 3, 4⟩, ⟨.identifier "x", 4, 5⟩,
        ⟨.symbol .rightParen, 5, 6⟩, ⟨.symbol .plus, 7, 8⟩, ⟨.string "toJSON", 9, 17⟩], 17) := by
    decide +kernel
  have hlist : Lexeme.ofChars "[half(1)]".toList =
      .ok ([⟨.symbol .leftBracket, 0, 1⟩, ⟨.identifier "half", 1, 5⟩, ⟨.symbol .leftParen, 5, 6⟩,
        ⟨.number (Double.ofInt 1), 6, 7⟩, ⟨.symbol .rightParen, 7, 8⟩,
        ⟨.symbol .rightBracket, 8, 9⟩], 9) := by
    decide +kernel
  have hfurther : ∀ l ∈ [Builtin.Documents.library], ∀ d ∈ l.definitions, ∀ name ∈ d.names,
      name ∉ identifiersOf "len(x) + \"toJSON\"" := by
    have hnames : identifiersOf "len(x) + \"toJSON\"" = ["len", "x"] := by
      rw [identifiersOf, hsum]
      rfl
    rw [hnames]
    decide
  have hunknown : ∀ name ∈ identifiersOf "[half(1)]",
      (Language.ofLibraries [Builtin.Documents.library]).resolve name =
        (Language.ofLibraries []).resolve name := by
    have hnames : identifiersOf "[half(1)]" = ["half"] := by
      rw [identifiersOf, hlist]
      rfl
    rw [hnames]
    intro name hname
    rw [List.mem_singleton.mp hname]
    rfl
  refine ⟨hfurther, ?_, hunknown, ?_⟩
  · rw [(parse_of_same_names _ {} _).2 _ _ hfurther, Parser.parse, Parser.expression,
      Grammar.parse_eq hsum]
    rfl
  · rw [(parse_of_same_names _ {} _).1 _ _ hunknown, Parser.parse, Parser.expression,
      Grammar.parse_eq hlist]
    rfl

end Formula
