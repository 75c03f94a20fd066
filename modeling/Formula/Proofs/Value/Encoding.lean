import Formula.Builtin.Documents
import Formula.Builtin.Texts
import Formula.Proofs.Double.Basic
import Formula.Proofs.Value.Basic

set_option autoImplicit false

/-!
# The two ways of writing JSON agree

The JSON text of a value is written directly, or by way of a document. Both have rules of their own for
numbers and for what stands between entries.

## Main results

* `Formula.Value.encode_eq_text` — the text of a value is the text of its document.
* `Formula.Value.encoders_agree` — so are the texts that arrays and maps are shown as.
-/

namespace Formula.Value

/-- The rules for numbers agree. One asks first whether the number is finite, the other whether it is
an integer, but integers are finite. -/
lemma jsonText?_getD (x : Double) : x.jsonText?.getD "null" = (numberToJson x).text := by
  unfold Double.jsonText? numberToJson
  cases hint : x.intBelow? 0x20000000000000 with
  | none => cases x.isFinite <;> rfl
  | some i =>
    have htoInt : x.toInt? = some i := (Option.filter_eq_some_iff.mp hint).1
    rw [Double.isFinite_of_toInt? htoInt]
    rfl

section Lists

variable {items : List Value} {fields : List (String × Value)}

/-- Commas in front of all further items are commas between items. -/
lemma itemsText_cons (v : Value) (hv : v.encode = v.toJson.text)
    (h : ∀ item ∈ items, item.encode = item.toJson.text) :
    Json.itemsText (toJson v :: itemsToJson items) = v.encode ++ encodeRest items := by
  induction items generalizing v with
  | nil => rw [itemsToJson, Json.itemsText, encodeRest, hv, String.append_empty]
  | cons w rest ih =>
    obtain ⟨hw, hrest⟩ := List.forall_mem_cons.mp h
    rw [itemsToJson, Json.itemsText, ih w hw hrest, encodeRest, hv]
    simp only [String.append_assoc]

/-- Commas in front of all further fields are commas between fields. -/
lemma membersText_cons (k : String) (v : Value) (hv : v.encode = v.toJson.text)
    (h : ∀ field ∈ fields, field.2.encode = field.2.toJson.text) :
    Json.membersText ((k, toJson v) :: fieldsToJson fields) =
      Json.stringText k ++ ":" ++ v.encode ++ encodeFieldsRest fields := by
  induction fields generalizing k v with
  | nil => rw [fieldsToJson, Json.membersText, encodeFieldsRest, hv, String.append_empty]
  | cons field rest ih =>
    obtain ⟨hfield, hrest⟩ := List.forall_mem_cons.mp h
    rw [fieldsToJson, Json.membersText, ih field.1 field.2 hfield hrest, encodeFieldsRest, hv]
    simp only [String.append_assoc]

end Lists

/-- The text of a value is the text of its document. -/
lemma encode_eq_text (v : Value) : v.encode = v.toJson.text := by
  induction v using Value.induction with
  | null => rfl
  | bool b => cases b <;> rfl
  | number x => rw [encode, toJson, jsonText?_getD]
  | string s => rfl
  | timestamp t => rfl
  | array items ih =>
    cases items with
    | nil => rfl
    | cons v rest =>
      obtain ⟨hv, hrest⟩ := List.forall_mem_cons.mp ih
      rw [encode, toJson, Json.text, itemsToJson, itemsText_cons v hv hrest]
      simp only [String.append_assoc]
  | map fields ih =>
    cases fields with
    | nil => rfl
    | cons field rest =>
      obtain ⟨hfield, hrest⟩ := List.forall_mem_cons.mp ih
      rw [encode, toJson, Json.text, fieldsToJson, membersText_cons field.1 field.2 hfield hrest]
      simp only [String.append_assoc]

/-- An array of one item is joined into what the item is shown as. -/
lemma join_singleton (v : Value) :
    (Builtin.Texts.join [.array [v]]).result = .ok (.string v.display) := by
  change Except.ok (Value.string ("".intercalate [v.display])) = _
  simp

/-- The template that asks for one value is filled with what the value is shown as. -/
lemma format_shown (v : Value) :
    Builtin.Texts.format [.string "%v", v] = .ok (.string v.display) := by
  have htemplate : Template.ofChars "%v".toList = ⟨[.shown 'v'], none⟩ := rfl
  change (fun cs => Value.ofChars cs) <$> (Template.ofChars "%v".toList).fill "format" [v] = _
  rw [htemplate]
  change Except.ok (Value.ofChars (v.display.toList ++ [])) = _
  rw [List.append_nil, ofChars, String.ofList_toList]

/-- **The ways of writing JSON agree.**

1. The text that is written of a value directly is the text of its document, and it is what `toJSON`
   gives.
2. Arrays and maps are shown as this text, alone, joined, and in templates.

**Proof sketch.** Induction on the value. The rules for numbers differ in what they ask first, but only
finite numbers are integers. A comma in front of every further entry is a comma between entries. -/
theorem encoders_agree (v : Value) :
    v.encode = v.toJson.text ∧
    Builtin.Documents.toJson [v] = .ok (.string v.toJson.text) ∧
    ((∃ items, v = .array items) ∨ (∃ fields, v = .map fields) →
      v.display = v.encode ∧
      (Builtin.Texts.join [.array [v]]).result = .ok (.string v.encode) ∧
      Builtin.Texts.format [.string "%v", v] = .ok (.string v.encode)) := by
  refine ⟨encode_eq_text v, ?_, fun hcontainer => ?_⟩
  · rw [← encode_eq_text]
    rfl
  · have hdisplay : v.display = v.encode := by
      rw [encode_eq_text]
      rcases hcontainer with ⟨items, rfl⟩ | ⟨fields, rfl⟩ <;> rfl
    rw [join_singleton, format_shown, hdisplay]
    exact ⟨rfl, rfl, rfl⟩

/-- Numbers that JSON has and numbers that it has not, the largest integer that is written as one and
the next, in a map in an array. -/
theorem encoders_agree_numbers :
    let v : Value := .array [.map [("x", .number .nan), ("y", .number (.zero true))],
      .number ⟨0x433fffffffffffff⟩, .number ⟨0x4340000000000000⟩, .number (.infinity true)]
    v.encode = "[\x7b\"x\":null,\"y\":0\x7d,9007199254740991,9007199254740992.0,null]" ∧
    v.display = v.encode := by
  intro v
  exact ⟨by decide +kernel, ((encoders_agree v).2.2 (.inl ⟨_, rfl⟩)).1⟩

end Formula.Value
