import Formula.Proofs.Token.Scan

set_option autoImplicit false

/-!
# Reading token by token

Reading a text from the left leads past one token after another, with blanks in front of each. A
reading that has come past some tokens depends on what follows them only up to the next blank.

## Main definitions

* `Formula.Lexer.Blanks` — a text of blanks only.
* `Formula.Lexer.Reads` — reading a text from a position on leads past tokens.
* `Formula.Lexer.Reaches` — reading a text comes to a position.

## Main results

* `Formula.Lexer.Reads.ofCharsFrom_eq` — what is read of a text is the tokens that reading leads past,
  and what is read behind them.
* `Formula.Lexer.exists_reads` — a text that is read is tokens with blanks around them.
* `Formula.Lexer.Reads.clipped` — what follows may be cut off, or broken off by a blank.
-/

namespace Formula.Lexer

variable {pos stop : Nat} {c : Char} {cs rest left : List Char} {token : Token}
  {tokens : List Lexeme}

/-- A text of blanks only. -/
def Blanks (cs : List Char) : Prop :=
  ∀ c ∈ cs, Text.isBlank c = true

/-! ## One token or blank -/

/-- Nothing has no tokens. -/
lemma ofCharsFrom_nil (pos : Nat) : Lexeme.ofCharsFrom pos [] = .ok ([], pos) := by
  rw [Lexeme.ofCharsFrom]

/-- A blank is skipped. -/
lemma ofCharsFrom_cons_of_isBlank (h : Text.isBlank c = true) :
    Lexeme.ofCharsFrom pos (c :: rest) = Lexeme.ofCharsFrom (pos + c.utf8Size) rest := by
  rw [Lexeme.ofCharsFrom, if_pos h]

/-- A token that can be read comes first. -/
lemma ofCharsFrom_of_scan (hc : Text.isBlank c = false)
    (h : scan pos c rest = .ok (token, stop, left)) :
    Lexeme.ofCharsFrom pos (c :: rest) =
      (Lexeme.ofCharsFrom stop left).map fun r => (⟨token, pos, stop⟩ :: r.1, r.2) := by
  rw [Lexeme.ofCharsFrom, if_neg (by simp [hc])]
  split
  · next he =>
    rw [h] at he
    cases he
  · next he =>
    rw [h] at he
    cases he
    cases Lexeme.ofCharsFrom stop left <;> rfl

/-- A token that cannot be read ends the reading. -/
lemma ofCharsFrom_of_scan_error {e : SyntaxError} (hc : Text.isBlank c = false)
    (h : scan pos c rest = .error e) : Lexeme.ofCharsFrom pos (c :: rest) = .error e := by
  rw [Lexeme.ofCharsFrom, if_neg (by simp [hc])]
  split
  · next he =>
    rw [h] at he
    cases he
    rfl
  · next he =>
    rw [h] at he
    cases he

/-- Blanks are skipped.

**Proof sketch.** Induction on the blanks. -/
lemma ofCharsFrom_append_of_blanks {gap : List Char} (h : Blanks gap) (pos : Nat) (cs : List Char) :
    Lexeme.ofCharsFrom pos (gap ++ cs) = Lexeme.ofCharsFrom (pos + String.utf8Len gap) cs := by
  induction gap generalizing pos with
  | nil => rfl
  | cons c gap ih =>
    have hc := h c List.mem_cons_self
    have hgap : Blanks gap := fun d hd => h d (List.mem_cons_of_mem c hd)
    have hpos : pos + c.utf8Size + String.utf8Len gap = pos + String.utf8Len (c :: gap) := by
      rw [String.utf8Len_cons]
      omega
    rw [List.cons_append, ofCharsFrom_cons_of_isBlank hc, ih hgap, hpos]

/-! ## Token by token -/

/-- Reading `cs` from `pos` on leads past `tokens` to `stop`, in front of `rest`. -/
inductive Reads : Nat → List Char → List Lexeme → Nat → List Char → Prop
  | nil (pos : Nat) (cs : List Char) : Reads pos cs [] pos cs
  | cons {pos stop last : Nat} {gap more left rest : List Char} {c : Char} {token : Token}
      {tokens : List Lexeme} : Blanks gap → Text.isBlank c = false →
      scan (pos + String.utf8Len gap) c more = .ok (token, stop, left) →
      Reads stop left tokens last rest →
      Reads pos (gap ++ c :: more) (⟨token, pos + String.utf8Len gap, stop⟩ :: tokens) last rest

/-- What is read of a text is the tokens that reading leads past, and what is read behind them. -/
theorem Reads.ofCharsFrom_eq (h : Reads pos cs tokens stop rest) :
    Lexeme.ofCharsFrom pos cs =
      (Lexeme.ofCharsFrom stop rest).map fun r => (tokens ++ r.1, r.2) := by
  induction h with
  | nil pos cs => cases Lexeme.ofCharsFrom pos cs <;> rfl
  | @cons pos stop last gap more left rest c token tokens hgap hc hscan _ ih =>
    rw [ofCharsFrom_append_of_blanks hgap, ofCharsFrom_of_scan hc hscan, ih]
    cases Lexeme.ofCharsFrom last rest <;> rfl

/-- Blanks in front of a text do not keep its tokens from being read.

**Proof sketch.** The blank joins those in front of the first token. -/
lemma Reads.of_isBlank (hc : Text.isBlank c = true)
    (h : Reads (pos + c.utf8Size) cs tokens stop rest) (hne : tokens ≠ []) :
    Reads pos (c :: cs) tokens stop rest := by
  cases h with
  | nil => exact absurd rfl hne
  | @cons _ stop last gap more left rest d token tokens hgap hd hscan hleft =>
    have hpos : pos + c.utf8Size + String.utf8Len gap = pos + String.utf8Len (c :: gap) := by
      rw [String.utf8Len_cons]
      omega
    rw [hpos] at hscan ⊢
    exact .cons (List.forall_mem_cons.mpr ⟨hc, hgap⟩) hd hscan hleft

/-- A text that is read is tokens with blanks around them.

**Proof sketch.** Induction along the reading. A blank joins the blanks in front of the next token, or
those at the end. -/
theorem exists_reads (h : Lexeme.ofCharsFrom pos cs = .ok (tokens, stop)) :
    ∃ last gap, Reads pos cs tokens last gap ∧ Blanks gap ∧ stop = last + String.utf8Len gap := by
  fun_induction Lexeme.ofCharsFrom pos cs generalizing tokens stop with
  | case1 pos =>
    cases h
    exact ⟨pos, [], .nil pos [], by simp [Blanks], rfl⟩
  | case2 pos c rest hc ih =>
    obtain ⟨last, gap, hreads, hgap, rfl⟩ := ih h
    -- The blank belongs to the gap in front of the first token, or to the one at the end.
    cases tokens with
    | nil =>
      cases hreads with
      | nil =>
        refine ⟨pos, c :: rest, .nil pos (c :: rest), List.forall_mem_cons.mpr ⟨hc, hgap⟩, ?_⟩
        rw [String.utf8Len_cons]
        omega
    | cons t tokens => exact ⟨last, gap, hreads.of_isBlank hc (List.cons_ne_nil t tokens), hgap, rfl⟩
  | case3 => cases h
  | case4 => cases h
  | case5 pos c rest hc token stop left hscan lexemes last hrest ih =>
    cases h
    obtain ⟨last, gap, hreads, hgap, rfl⟩ := ih hrest
    have hcons : Reads pos ([] ++ c :: rest) (⟨token, pos, stop⟩ :: lexemes) last gap :=
      .cons (by simp [Blanks]) (Bool.not_eq_true _ ▸ hc) hscan hreads
    exact ⟨last, gap, hcons, hgap, rfl⟩

/-- The text of the tokens that reading leads past, in front of whatever the rest may be clipped to.

**Proof sketch.** Induction on the run. Each token is read in the same way in front of a clipped text,
and so are those behind it. -/
theorem Reads.clipped (h : Reads pos cs tokens stop rest) :
    ∃ used, cs = used ++ rest ∧ stop = pos + String.utf8Len used ∧
      ∀ rest', Clipped rest rest' → Reads pos (used ++ rest') tokens stop rest' := by
  induction h with
  | nil pos cs => exact ⟨[], rfl, rfl, fun rest' _ => .nil pos rest'⟩
  | @cons pos stop last gap more left rest c token tokens hgap hc hscan _ ih =>
    obtain ⟨text, rfl, rfl, htext⟩ := exists_of_scan hscan
    obtain ⟨used, rfl, rfl, hused⟩ := ih
    refine ⟨gap ++ c :: (text ++ used), by simp, ?_, fun rest' hrest => ?_⟩
    · simp only [String.utf8Len_append, String.utf8Len_cons]
      omega
    · have hscan' := htext (used ++ rest') (hrest.append used)
      have hreads := Reads.cons hgap hc hscan' (hused rest' hrest)
      simpa only [List.append_assoc, List.cons_append] using hreads

/-- Reading on behind what has been read. -/
lemma Reads.trans {mid : Nat} {middle : List Char} {more : List Lexeme}
    (h : Reads pos cs tokens mid middle) (hmore : Reads mid middle more stop rest) :
    Reads pos cs (tokens ++ more) stop rest := by
  induction h with
  | nil => exact hmore
  | cons hgap hc hscan _ ih => exact .cons hgap hc hscan (ih hmore)

/-! ## Where reading comes -/

/-- Reading `source` comes past `tokens`, and blanks, to `pos`, where `rest` is left. -/
def Reaches (source : String) (tokens : List Lexeme) (pos : Nat) (rest : List Char) : Prop :=
  ∃ last gap, Reads 0 source.toList tokens last (gap ++ rest) ∧ Blanks gap ∧
    pos = last + String.utf8Len gap

namespace Reaches

variable {source : String}

/-- What is read of a text is what has been read, and what is read of the rest. -/
lemma ofChars_eq (h : Reaches source tokens pos rest) :
    Lexeme.ofChars source.toList =
      (Lexeme.ofCharsFrom pos rest).map fun r => (tokens ++ r.1, r.2) := by
  obtain ⟨last, gap, hreads, hgap, rfl⟩ := h
  rw [Lexeme.ofChars, hreads.ofCharsFrom_eq, ofCharsFrom_append_of_blanks hgap]

/-- One more token. -/
lemma snoc (h : Reaches source tokens pos (c :: rest)) (hc : Text.isBlank c = false)
    (hscan : scan pos c rest = .ok (token, stop, left)) :
    Reaches source (tokens ++ [⟨token, pos, stop⟩]) stop left := by
  obtain ⟨last, gap, hreads, hgap, rfl⟩ := h
  have hone := Reads.cons hgap hc hscan (.nil stop left)
  exact ⟨stop, [], hreads.trans hone, by simp [Blanks], rfl⟩

end Reaches

end Formula.Lexer
