import Mathlib.Data.String.Basic
import Mathlib.Tactic.Lemma

set_option autoImplicit false

/-!
# Places in a text

Positions are counted in bytes. A stretch of a text stands where the bytes in front of it end, so it
begins and ends on character boundaries and is what lies between its two ends.

## Main definitions

* `Formula.Text.between` — the text from one byte position to another.
* `Formula.Text.StandsAt` — a stretch of a text begins at a byte position.

## Main results

* `Formula.Text.StandsAt.between_eq` — a stretch is what lies between its ends.
* `Formula.Text.StandsAt.isValid_start`, `Formula.Text.StandsAt.isValid_stop` — its ends are character
  boundaries.
-/

namespace Formula.Text

/-- The text from one byte position to another. -/
def between (source : String) (start stop : Nat) : String :=
  String.Pos.Raw.extract source ⟨start⟩ ⟨stop⟩

/-- Behind `start` bytes of `source` comes `text`. -/
def StandsAt (source : String) (start : Nat) (text : List Char) : Prop :=
  ∃ before after, source.toList = before ++ (text ++ after) ∧ String.utf8Len before = start

namespace StandsAt

variable {source : String} {start : Nat} {text : List Char}

/-- A stretch of a text is what lies between its ends. -/
lemma between_eq (h : StandsAt source start text) :
    between source start (start + String.utf8Len text) = String.ofList text := by
  obtain ⟨before, after, hsource, rfl⟩ := h
  have hof : source = String.ofList (before ++ text ++ after) := by
    rw [List.append_assoc, ← hsource, String.ofList_toList]
  rw [between, hof]
  exact String.extract_of_valid before text after

/-- A position has one character behind it.

**Proof sketch.** The text up to the position is the same, however it is cut out, since its length in
bytes is. -/
lemma head?_eq {before rest : List Char} {c : Char} (h : StandsAt source start [c])
    (hsource : source.toList = before ++ rest) (hstart : String.utf8Len before = start) :
    rest.head? = some c := by
  obtain ⟨before', after, hsource', hstart'⟩ := h
  have hsame : before ++ rest = before' ++ ([c] ++ after) := hsource ▸ hsource'
  rcases List.append_eq_append_iff.mp hsame with ⟨more, rfl, rfl⟩ | ⟨more, rfl, hrest⟩
  · rw [String.utf8Len_append, hstart] at hstart'
    obtain rfl : more = [] := String.utf8Len_eq_zero.mp (by omega)
    rfl
  · rw [String.utf8Len_append, hstart'] at hstart
    obtain rfl : more = [] := String.utf8Len_eq_zero.mp (by omega)
    rw [List.nil_append] at hrest
    rw [← hrest]
    rfl

/-- A text that stands somewhere starts at a character boundary. -/
lemma isValid_start (h : StandsAt source start text) : String.Pos.Raw.IsValid source ⟨start⟩ := by
  obtain ⟨before, after, hsource, rfl⟩ := h
  refine String.Pos.Raw.isValid_iff_exists_append.mpr
    ⟨String.ofList before, String.ofList (text ++ after), ?_, ?_⟩
  · rw [← String.ofList_append, ← hsource, String.ofList_toList]
  · rw [String.rawEndPos_ofList]

/-- What is left behind a stretch of a text stands where it ends. -/
lemma behind {rest : List Char} (h : StandsAt source start (text ++ rest)) :
    StandsAt source (start + String.utf8Len text) rest := by
  obtain ⟨before, after, hsource, rfl⟩ := h
  refine ⟨before ++ text, after, ?_, String.utf8Len_append before text⟩
  simp only [hsource, List.append_assoc]

/-- The first part of a stretch of a text stands where the whole stands. -/
lemma front {rest : List Char} (h : StandsAt source start (text ++ rest)) :
    StandsAt source start text := by
  obtain ⟨before, after, hsource, hstart⟩ := h
  exact ⟨before, rest ++ after, by simp only [hsource, List.append_assoc], hstart⟩

/-- A text that stands somewhere ends at a character boundary. -/
lemma isValid_stop (h : StandsAt source start text) :
    String.Pos.Raw.IsValid source ⟨start + String.utf8Len text⟩ := by
  have hrest : StandsAt source start (text ++ []) := by rwa [List.append_nil]
  exact hrest.behind.isValid_start

end StandsAt

/-- A text stands at its own beginning. -/
lemma standsAt_self (source : String) : StandsAt source 0 source.toList :=
  ⟨[], [], by rw [List.nil_append, List.append_nil], rfl⟩

/-! ## Characters of one byte -/

/-- An ASCII character has one byte. -/
lemma utf8Size_eq_one {c : Char} (h : c.toNat < 128) : c.utf8Size = 1 := by
  rw [Char.utf8Size_eq_one_iff, UInt32.le_iff_toNat_le]
  exact Nat.lt_succ_iff.mp h

/-- A text of characters with one byte has as many bytes as characters.

**Proof sketch.** Induction on the text. -/
lemma utf8Len_eq_length {cs : List Char} (h : ∀ c ∈ cs, c.toNat < 128) :
    String.utf8Len cs = cs.length := by
  induction cs with
  | nil => rfl
  | cons c cs ih =>
    have hc := utf8Size_eq_one (h c List.mem_cons_self)
    have hcs := ih fun d hd => h d (List.mem_cons_of_mem c hd)
    rw [String.utf8Len_cons, hc, hcs, List.length_cons]

end Formula.Text
