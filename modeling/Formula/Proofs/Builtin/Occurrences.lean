import Formula.Proofs.Builtin.Calls
import Formula.Proofs.Text.Casing
import Formula.Proofs.Text.Search

set_option autoImplicit false

/-!
# Occurrences in texts

Whether a text occurs in another can be asked for in three ways that respect case, and in one that ignores
it by comparing the lower case of both. As capital sigmas have two small ones, of which the end of a word
takes the final one, the latter can miss what the former find.

## Main results

* `Formula.Builtin.Texts.occurrences_ignoring_case` — ignoring case nothing is missed exactly if the text
  that is looked for decides which of its capital sigmas become final ones.
-/

namespace Formula.Builtin.Texts

/-- A part is looked for as it is. -/
lemma gives_hasSubstring (s f : String) :
    Gives "hasSubstring" [.string s, .string f] (.ok (.bool (Text.occursIn f.toList s.toList))) :=
  gives_plain rfl rfl rfl

/-- The same if the case is to be respected. -/
lemma gives_hasSubstring_respecting (s f : String) :
    Gives "hasSubstring" [.string s, .string f, .bool true]
      (.ok (.bool (Text.occursIn f.toList s.toList))) :=
  gives_plain rfl rfl rfl

/-- If the case is to be ignored, the lower case of the part is looked for in that of the text. -/
lemma gives_hasSubstring_ignoring (s f : String) :
    Gives "hasSubstring" [.string s, .string f, .bool false]
      (.ok (.bool (Text.occursIn (Text.toLower f.toList) (Text.toLower s.toList)))) :=
  gives_plain rfl rfl rfl

/-- **What is missed when case is ignored.** For every text that is looked for:

1. Whether it occurs in another text is answered alike by `hasSubstring`, with or without the wish to
   respect case, and by `in`.
2. All texts in which it occurs are also found when case is ignored, exactly if it decides which of its
   capital sigmas become final ones.
3. Whatever text it is, its lower case occurs in the lower case of each of these texts as soon as
   the two small sigmas count as one.

**Proof sketch.** Only the small sigmas of a text depend on what stands around it. If the text leaves one of
them open, a single letter in front of it or behind it makes it the other one, and as the
rest of the lower case stays as it is, the lower case of the text by itself occurs nowhere in it. -/
theorem occurrences_ignoring_case (f : String) :
    (∀ s : String, ∃ b : Bool,
      Gives "hasSubstring" [.string s, .string f, .bool true] (.ok (.bool b)) ∧
      Gives "hasSubstring" [.string s, .string f] (.ok (.bool b)) ∧
      BinaryOperator.isIn.apply (.string f) (.string s) = .ok (.bool b) ∧
      (b = true ↔ f.toList <:+: s.toList)) ∧
    ((∀ s : String, Gives "hasSubstring" [.string s, .string f, .bool true] (.ok (.bool true)) →
      Gives "hasSubstring" [.string s, .string f, .bool false] (.ok (.bool true))) ↔
      Text.Settled f.toList) ∧
    ∀ s : String, Gives "hasSubstring" [.string s, .string f, .bool true] (.ok (.bool true)) →
      (Text.toLower f.toList).map Text.ordinary <:+: (Text.toLower s.toList).map Text.ordinary := by
  have hfound (s : String) :
      Gives "hasSubstring" [.string s, .string f, .bool true] (.ok (.bool true)) ↔
        f.toList <:+: s.toList := by
    rw [gives_true_iff (gives_hasSubstring_respecting s f), Text.occursIn_eq_true_iff]
  refine ⟨fun s => ?alike, ?ignoring, fun s h => ?ordinary⟩
  case alike =>
    exact ⟨_, gives_hasSubstring_respecting s f, gives_hasSubstring s f, rfl,
      Text.occursIn_eq_true_iff⟩
  case ignoring =>
    rw [← Text.infix_toLower_iff]
    simp only [hfound, gives_true_iff (gives_hasSubstring_ignoring _ f), Text.occursIn_eq_true_iff]
    refine ⟨fun h cs hinfix => ?_, fun h s => h s.toList⟩
    have hcs := h (String.ofList cs)
    rw [String.toList_ofList] at hcs
    exact hcs hinfix
  case ordinary =>
    exact Text.infix_map_ordinary_toLower ((hfound s).mp h)

/-- It is not so that everything is found when case is ignored: the sigma at the end of a word becomes a
final one, and a sigma by itself does not. -/
theorem final_sigma_missed :
    Gives "hasSubstring" [.string "ΑΣ", .string "Σ", .bool true] (.ok (.bool true)) ∧
    Gives "hasSubstring" [.string "ΑΣ", .string "Σ"] (.ok (.bool true)) ∧
    BinaryOperator.isIn.apply (.string "Σ") (.string "ΑΣ") = .ok (.bool true) ∧
    Gives "hasSubstring" [.string "ΑΣ", .string "Σ", .bool false] (.ok (.bool false)) := by
  have hmissed : Text.occursIn (Text.toLower "Σ".toList) (Text.toLower "ΑΣ".toList) = false := by
    decide +kernel
  have hignoring := gives_hasSubstring_ignoring "ΑΣ" "Σ"
  rw [hmissed] at hignoring
  exact ⟨gives_hasSubstring_respecting "ΑΣ" "Σ", gives_hasSubstring "ΑΣ" "Σ", rfl, hignoring⟩

end Formula.Builtin.Texts
