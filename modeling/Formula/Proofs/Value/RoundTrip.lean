import Formula.Builtin.Documents
import Formula.Proofs.Double.Basic
import Formula.Proofs.Json.Document
import Formula.Proofs.Record
import Formula.Proofs.Value.Basic

set_option autoImplicit false

/-!
# Values are read back from their JSON texts

A value that is written as JSON and read again comes back as it was, but for what JSON cannot tell
apart: NaN and the infinities are written as null, the negative zero as zero, timestamps as texts.

Numbers with a point or an exponent are read with one scaling by a power of ten, which may be a unit
off, so such numbers come back only if they are among those that are read back from their own texts.

## Main definitions

* `Formula.Value.normalize` — the value that is read back.
* `Formula.Value.ReadsBack` — a number that comes back from its own text.
* `Formula.Value.Exact` — values whose numbers with a point or an exponent do.

## Main results

* `Formula.Value.readable` — in front of whatever may follow, the text of a value is read as what it
  comes back as.
* `Formula.Value.parseJson_toJson` — so it is for whole texts, and writing what came back gives the
  same text again.
-/

namespace Formula.Value

/-! ## What comes back -/

/-- What a number comes back as. -/
def normalizeNumber (x : Double) : Value :=
  if x.isFinite then .number (if x.isZero then .zero false else x) else .null

mutual

/-- What a value comes back as. -/
def normalize : Value → Value
  | .number x => normalizeNumber x
  | .timestamp t => .string t.text
  | .array items => .array (normalizeAll items)
  | .map fields => .map (normalizeFields fields)
  | .null => .null
  | .bool b => .bool b
  | .string s => .string s

/-- What items come back as. -/
def normalizeAll : List Value → List Value
  | [] => []
  | v :: rest => normalize v :: normalizeAll rest

/-- What fields come back as, under the same names. -/
def normalizeFields : List (String × Value) → List (String × Value)
  | [] => []
  | (k, v) :: rest => (k, normalize v) :: normalizeFields rest

end

/-- A number comes back from its own text. -/
def ReadsBack (x : Double) : Prop :=
  (Json.ofText? (encode (.number x))).map ofJson = some (.number x)

/-- Numbers in the value that are written with a point or an exponent come back from their own
texts. -/
def Exact (v : Value) : Prop :=
  ∀ x, .number x ∈ v.parts → x.isFinite = true → x.intBelow? 0x20000000000000 = none → ReadsBack x

variable {v : Value} {items : List Value} {fields : List (String × Value)} {rest : List Char}
  {fuel depth : Nat}

attribute [local simp] encode encodeRest encodeFieldsRest

/-- The items of such an array are such values. -/
lemma Exact.item (h : (array items).Exact) (hv : v ∈ items) : v.Exact :=
  fun x hx => h x (mem_parts_of_item hv hx)

/-- The entries of such a map are such values. -/
lemma Exact.entry (h : (map fields).Exact) {field : String × Value} (hfield : field ∈ fields) :
    field.2.Exact :=
  fun x hx => h x (mem_parts_of_entry hfield hx)

/-- Fields come back under the same names. -/
lemma keys_normalizeFields (fields : List (String × Value)) :
    Record.keys (normalizeFields fields) = Record.keys fields := by
  induction fields with
  | nil => rfl
  | cons field rest ih => rw [normalizeFields, Record.keys_cons, Record.keys_cons, ih]

/-! ## Numbers -/

/-- What is no finite number is written as null. -/
lemma encode_of_not_isFinite {x : Double} (h : x.isFinite = false) : encode (.number x) = "null" := by
  simp [Double.jsonText?, h]

/-- An integer of at most 53 bits is written with its digits. -/
lemma encode_of_intBelow? {x : Double} {i : Int} (h : x.intBelow? 0x20000000000000 = some i) :
    encode (.number x) = Double.intText i := by
  have hfinite := Double.isFinite_of_toInt? (Option.filter_eq_some_iff.mp h).1
  simp [Double.jsonText?, hfinite, h]

/-- Both zeros are integers. -/
lemma intBelow?_of_isZero {x : Double} (h : x.isZero = true) :
    x.intBelow? 0x20000000000000 = some 0 := by
  rw [Double.eq_zero_of_isZero h]
  cases x.isNegative <;> decide +kernel

/-- The text of a number is read as what the number comes back as.

**Proof sketch.** A number that is not finite is written as null. A small integer is written with its
digits, which are read as this integer. For any other number the hypothesis says that it comes back from
its text. -/
lemma reads_encode_number (x : Double)
    (h : x.isFinite = true → x.intBelow? 0x20000000000000 = none → ReadsBack x)
    (hrest : Json.Ends rest) :
    Json.Reads (fuel + 1) depth ((encode (.number x)).toList ++ rest) (normalizeNumber x) rest := by
  unfold normalizeNumber
  cases hfinite : x.isFinite with
  | false =>
    rw [encode_of_not_isFinite hfinite]
    exact Json.reads_null
  | true =>
    rw [if_pos rfl]
    cases hint : x.intBelow? 0x20000000000000 with
    | some i =>
      obtain ⟨htoInt, hbound⟩ := Option.filter_eq_some_iff.mp hint
      have hi : i.natAbs < 2 ^ 53 := of_decide_eq_true hbound
      have hread := Json.number?_intText (show i.natAbs ≤ 0x8000000000000000 by omega)
      rw [encode_of_intBelow? hint, ← Double.ofInt_of_toInt? htoInt hi]
      exact Json.reads_number ((congrArg Json.number? (Json.skipBlanks_of_number? hread)).trans hread)
        rfl hrest
    | none =>
      -- The zeros are integers, and are written as such.
      have hzero : x.isZero = false := by
        by_contra hne
        rw [intBelow?_of_isZero (by simpa using hne)] at hint
        cases hint
      obtain ⟨n, left, hread, hleft, hn⟩ := Json.ofText?_eq_number_iff.mp (h hfinite hint)
      rw [hzero, if_neg Bool.false_ne_true]
      have hreads : Json.Reads (fuel + 1) depth ((encode (.number x)).toList ++ rest)
          (.number n.toDouble) rest :=
        Json.reads_number hread hleft hrest
      rwa [hn] at hreads

/-! ## Texts of arrays and maps -/

/-- The text of items between brackets. -/
def itemsChars (v : Value) (items : List Value) : List Char :=
  v.encode.toList ++ (encodeRest items).toList

/-- One item alone is written without a comma. -/
lemma itemsChars_nil (v : Value) : itemsChars v [] = v.encode.toList := by
  simp [itemsChars]

/-- Two items are written with a comma between them. -/
lemma itemsChars_cons (v w : Value) (items : List Value) :
    itemsChars v (w :: items) = v.encode.toList ++ ',' :: itemsChars w items := by
  simp [itemsChars]

/-- An array is written with its items between brackets. -/
lemma toList_encode_array (v : Value) (items : List Value) :
    (encode (.array (v :: items))).toList = '[' :: (itemsChars v items ++ [']']) := by
  simp [itemsChars]

/-- The text of fields between braces. -/
def fieldsChars (k : String) (v : Value) (fields : List (String × Value)) : List Char :=
  (Json.stringText k).toList ++ ':' :: (v.encode.toList ++ (encodeFieldsRest fields).toList)

/-- One field alone is written without a comma. -/
lemma fieldsChars_nil (k : String) (v : Value) :
    fieldsChars k v [] = (Json.stringText k).toList ++ ':' :: v.encode.toList := by
  simp [fieldsChars]

/-- Two fields are written with a comma between them. -/
lemma fieldsChars_cons (k l : String) (v w : Value) (fields : List (String × Value)) :
    fieldsChars k v ((l, w) :: fields) =
      (Json.stringText k).toList ++ ':' :: (v.encode.toList ++ ',' :: fieldsChars l w fields) := by
  simp [fieldsChars]

/-- A map is written with its fields between braces. -/
lemma toList_encode_map (k : String) (v : Value) (fields : List (String × Value)) :
    (encode (.map ((k, v) :: fields))).toList = '\x7b' :: (fieldsChars k v fields ++ ['\x7d']) := by
  simp [fieldsChars]

/-! ## Reading texts of values -/

/-- In front of whatever may follow a value, the text of the value is read as what the value comes
back as. Twice the length of the text suffices as fuel, and the depth of the value as levels of
nesting. -/
def Readable (v : Value) : Prop :=
  ∀ (fuel depth : Nat) (rest : List Char), 2 * v.encode.toList.length ≤ fuel → v.depth ≤ depth →
    Json.Ends rest → Json.Reads (fuel + 1) depth (v.encode.toList ++ rest) v.normalize rest

/-- Items are read up to the closing bracket.

**Proof sketch.** Induction on the further items. Behind an item comes a comma or the closing bracket,
and both may follow a value. -/
lemma readsItems (hv : v.Readable) (h : ∀ item ∈ items, item.Readable)
    (hfuel : 2 * (itemsChars v items).length ≤ fuel) (hdepth : depthAll (v :: items) ≤ depth) :
    Json.ReadsItems (fuel + 2) depth (itemsChars v items ++ ']' :: rest)
      (normalizeAll (v :: items)) rest := by
  induction items generalizing v fuel with
  | nil =>
    have hvdepth : v.depth ≤ depth := (Nat.max_le.mp hdepth).1
    rw [itemsChars_nil] at hfuel ⊢
    exact (hv fuel depth _ hfuel hvdepth (Json.ends_cons (by decide) rest)).items_last
  | cons w items ih =>
    obtain ⟨hw, hitems⟩ := List.forall_mem_cons.mp h
    obtain ⟨hvdepth, hmore⟩ : v.depth ≤ depth ∧ depthAll (w :: items) ≤ depth :=
      Nat.max_le.mp hdepth
    rw [itemsChars_cons, List.length_append, List.length_cons] at hfuel
    -- The comma leaves fuel for the step to the next item.
    obtain ⟨fuel, rfl⟩ : ∃ n, fuel = n + 1 := ⟨fuel - 1, by omega⟩
    rw [itemsChars_cons, List.append_assoc, List.cons_append, normalizeAll]
    exact (hv (fuel + 1) depth _ (by omega) hvdepth (Json.ends_cons (by decide) _)).items_more
      (ih hw hitems (by omega) hmore)

/-- Fields are read up to the closing brace.

**Proof sketch.** Induction on the further fields, as for items. The name and the colon are read first,
and they take no level of nesting. -/
lemma readsMembers (k : String) (hv : v.Readable) (h : ∀ field ∈ fields, field.2.Readable)
    (hfuel : 2 * (fieldsChars k v fields).length ≤ fuel)
    (hdepth : depthFields ((k, v) :: fields) ≤ depth) :
    Json.ReadsMembers (fuel + 2) depth (fieldsChars k v fields ++ '\x7d' :: rest)
      (normalizeFields ((k, v) :: fields)) rest := by
  induction fields generalizing k v fuel with
  | nil =>
    have hvdepth : v.depth ≤ depth := (Nat.max_le.mp hdepth).1
    rw [fieldsChars_nil, List.length_append, List.length_cons] at hfuel
    rw [fieldsChars_nil, List.append_assoc, List.cons_append]
    exact (hv fuel depth _ (by omega) hvdepth (Json.ends_cons (by decide) rest)).members_last k
  | cons field fields ih =>
    obtain ⟨l, w⟩ := field
    obtain ⟨hw, hfields⟩ := List.forall_mem_cons.mp h
    obtain ⟨hvdepth, hmore⟩ : v.depth ≤ depth ∧ depthFields ((l, w) :: fields) ≤ depth :=
      Nat.max_le.mp hdepth
    rw [fieldsChars_cons, List.length_append, List.length_cons, List.length_append,
      List.length_cons] at hfuel
    obtain ⟨fuel, rfl⟩ : ∃ n, fuel = n + 1 := ⟨fuel - 1, by omega⟩
    rw [fieldsChars_cons, List.append_assoc, List.cons_append, List.append_assoc, List.cons_append,
      normalizeFields]
    exact (hv (fuel + 1) depth _ (by omega) hvdepth (Json.ends_cons (by decide) _)).members_more k
      (ih l hw hfields (by omega) hmore)

/-- An array is read back if its items are.

**Proof sketch.** The empty array is read at once. Otherwise the items are read up to the closing
bracket, one level deeper, and the two brackets pay for the step into the array. -/
lemma readable_array (h : ∀ item ∈ items, item.Readable) : (array items).Readable := by
  intro fuel depth rest hfuel hdepth hrest
  rw [Value.depth] at hdepth
  obtain ⟨depth, rfl⟩ : ∃ n, depth = n + 1 := ⟨depth - 1, by omega⟩
  cases items with
  | nil => exact Json.reads_array_nil
  | cons v items =>
    obtain ⟨hv, hitems⟩ := List.forall_mem_cons.mp h
    rw [toList_encode_array, List.length_cons, List.length_append] at hfuel
    obtain ⟨fuel, rfl⟩ : ∃ n, fuel = n + 2 := ⟨fuel - 2, by omega⟩
    rw [toList_encode_array, List.cons_append, List.append_assoc]
    exact (readsItems hv hitems (by omega) (Nat.le_of_succ_le_succ hdepth)).array

/-- A map is read back if its entries are.

**Proof sketch.** The empty map is read at once. Otherwise the fields are read up to the closing brace,
one level deeper. They come back in the order of their names, so they make up the record as it was. -/
lemma readable_map (hordered : Record.Ordered fields) (h : ∀ field ∈ fields, field.2.Readable) :
    (map fields).Readable := by
  intro fuel depth rest hfuel hdepth hrest
  rw [Value.depth] at hdepth
  obtain ⟨depth, rfl⟩ : ∃ n, depth = n + 1 := ⟨depth - 1, by omega⟩
  cases fields with
  | nil => exact Json.reads_object_nil
  | cons field fields =>
    obtain ⟨k, v⟩ := field
    obtain ⟨hv, hfields⟩ : v.Readable ∧ ∀ field ∈ fields, field.2.Readable :=
      List.forall_mem_cons.mp h
    -- The names are written in order, so they are put into a record one behind the other.
    have hnames : Record.Ordered (normalizeFields ((k, v) :: fields)) := by
      rw [Record.ordered_iff, keys_normalizeFields, ← Record.ordered_iff]
      exact hordered
    rw [toList_encode_map, List.length_cons, List.length_append] at hfuel
    obtain ⟨fuel, rfl⟩ : ∃ n, fuel = n + 2 := ⟨fuel - 2, by omega⟩
    rw [toList_encode_map, List.cons_append, List.append_assoc, normalize, ← hnames.ofList_eq]
    exact (readsMembers k hv hfields (by omega) (Nat.le_of_succ_le_succ hdepth)).object

/-- In front of whatever may follow, the text of a value is read as what the value comes back as.

**Proof sketch.** Induction on the value. The plain kinds are read from their own texts, arrays and maps
by the lemmas above, and whatever is asked of the whole holds of the parts. -/
lemma readable (hv : v.WellFormed) (hexact : v.Exact) : v.Readable := by
  induction v using Value.induction with
  | null => exact fun _ _ _ _ _ _ => Json.reads_null
  | bool b =>
    intro fuel depth rest _ _ _
    have hread : Json.Reads (fuel + 1) depth _ (.bool b) rest := Json.reads_bool b
    cases b <;> exact hread
  | number x => exact fun _ _ _ _ _ => reads_encode_number x (hexact x (List.mem_singleton.mpr rfl))
  | string s => exact fun _ _ _ _ _ _ => Json.reads_string s
  | timestamp t => exact fun _ _ _ _ _ _ => Json.reads_string t.text
  | array items ih =>
    have hitems := allWellFormed_iff.mp hv
    exact readable_array fun item hitem => ih item hitem (hitems item hitem) (hexact.item hitem)
  | map fields ih =>
    have hfields := fieldsWellFormed_iff.mp hv.2
    exact readable_map hv.1 fun field hfield =>
      ih field hfield (hfields field hfield) (hexact.entry hfield)

/-! ## Values that come back as they were -/

/-- A finite number comes back as an equal number.

**Proof sketch.** Only a zero comes back as another number, and both zeros are equal. -/
lemma normalizeNumber_eq {x : Double} (h : x.isFinite = true) :
    (normalizeNumber x).eq (.number x) = true := by
  rw [normalizeNumber, if_pos h, Value.eq]
  cases hzero : x.isZero with
  | false => exact Double.eq_self_of_isFinite h
  | true =>
    rw [if_pos rfl, Double.eq_zero_of_isZero hzero]
    cases x.isNegative <;> decide

/-- Items come back as equal items if each of them does. -/
lemma eqItems_normalizeAll (h : ∀ item ∈ items, item.normalize.eq item = true) :
    eqItems (normalizeAll items) items = true := by
  induction items with
  | nil => rfl
  | cons v rest ih =>
    obtain ⟨hv, hrest⟩ := List.forall_mem_cons.mp h
    rw [normalizeAll, eqItems, hv, ih hrest, Bool.and_self]

/-- Fields come back as equal fields if each of them does.

**Proof sketch.** Induction on the fields. Their names stay. -/
lemma eqFields_normalizeFields (h : ∀ field ∈ fields, field.2.normalize.eq field.2 = true) :
    eqFields (normalizeFields fields) fields = true := by
  induction fields with
  | nil => rfl
  | cons field rest ih =>
    obtain ⟨hfield, hrest⟩ := List.forall_mem_cons.mp h
    rw [normalizeFields, eqFields, hfield, ih hrest, BEq.rfl, Bool.and_self, Bool.and_self]

/-- Without timestamps and with finite numbers only, a value comes back as an equal value.

**Proof sketch.** Induction on the value. The kinds that come back as something else are excluded, and
whatever is asked of the whole holds of the parts. -/
lemma normalize_eq (hfinite : ∀ x, .number x ∈ v.parts → x.isFinite = true)
    (htime : ∀ t, .timestamp t ∉ v.parts) : v.normalize.eq v = true := by
  induction v using Value.induction with
  | null => rfl
  | bool b => exact BEq.rfl
  | number x => exact normalizeNumber_eq (hfinite x (List.mem_singleton.mpr rfl))
  | string s => exact BEq.rfl
  | timestamp t => exact absurd (List.mem_singleton.mpr rfl) (htime t)
  | array items ih =>
    exact eqItems_normalizeAll fun item hitem =>
      ih item hitem (fun x hx => hfinite x (mem_parts_of_item hitem hx))
        fun t ht => htime t (mem_parts_of_item hitem ht)
  | map fields ih =>
    exact eqFields_normalizeFields fun field hfield =>
      ih field hfield (fun x hx => hfinite x (mem_parts_of_entry hfield hx))
        fun t ht => htime t (mem_parts_of_entry hfield ht)

/-! ## Writing what came back -/

/-- What a number comes back as has the text of the number.

**Proof sketch.** A number that is not finite comes back as null, which is its text. Both zeros are
written in the same way. Any other number comes back as itself. -/
lemma encode_normalizeNumber (x : Double) : (normalizeNumber x).encode = encode (.number x) := by
  unfold normalizeNumber
  cases hfinite : x.isFinite with
  | false => exact (encode_of_not_isFinite hfinite).symm
  | true =>
    rw [if_pos rfl]
    cases hzero : x.isZero with
    | false => rfl
    | true =>
      rw [if_pos rfl, encode_of_intBelow? (intBelow?_of_isZero hzero)]
      exact encode_of_intBelow? (intBelow?_of_isZero rfl)

/-- Further items have the texts that they were read from if each of them has. -/
lemma encodeRest_normalizeAll (h : ∀ item ∈ items, item.normalize.encode = item.encode) :
    encodeRest (normalizeAll items) = encodeRest items := by
  induction items with
  | nil => rfl
  | cons v rest ih =>
    obtain ⟨hv, hrest⟩ := List.forall_mem_cons.mp h
    rw [normalizeAll, encodeRest, encodeRest, hv, ih hrest]

/-- Further fields have the texts that they were read from if each of them has. -/
lemma encodeFieldsRest_normalizeFields
    (h : ∀ field ∈ fields, field.2.normalize.encode = field.2.encode) :
    encodeFieldsRest (normalizeFields fields) = encodeFieldsRest fields := by
  induction fields with
  | nil => rfl
  | cons field rest ih =>
    obtain ⟨hfield, hrest⟩ := List.forall_mem_cons.mp h
    rw [normalizeFields, encodeFieldsRest, encodeFieldsRest, hfield, ih hrest]

/-- What came back has the text that it was read from.

**Proof sketch.** Induction on the value. The text of an array or a map is built from the texts of its
parts. -/
lemma encode_normalize (v : Value) : v.normalize.encode = v.encode := by
  induction v using Value.induction with
  | null | bool | string | timestamp => rfl
  | number x => exact encode_normalizeNumber x
  | array items ih =>
    cases items with
    | nil => rfl
    | cons v rest =>
      obtain ⟨hv, hrest⟩ := List.forall_mem_cons.mp ih
      rw [normalize, normalizeAll, encode, encode, hv, encodeRest_normalizeAll hrest]
  | map fields ih =>
    cases fields with
    | nil => rfl
    | cons field rest =>
      obtain ⟨hfield, hrest⟩ := List.forall_mem_cons.mp ih
      rw [normalize, normalizeFields, encode, encode, hfield, encodeFieldsRest_normalizeFields hrest]

/-- The function `parseJSON` gives the value of the document in a text. -/
lemma parseJson_eq_ok {s : String} (h : (Json.ofText? s).map ofJson = some v) :
    Builtin.Documents.parseJson [.string s] = .ok v := by
  obtain ⟨j, hj, rfl⟩ := Option.map_eq_some_iff.mp h
  have hargument : Argument.string "parseJSON" [.string s] 0 = .ok s := rfl
  rw [Builtin.Documents.parseJson, hargument]
  simp only [bind, Except.bind, hj]
  rfl

/-- **A value is read back from its JSON text, but for what JSON cannot tell apart.** The value is
nested at most 127 deep, its maps are records, and its numbers with a point or an exponent are among
those that come back from their own texts.

1. Writing the value and reading the text gives the value with null for NaN and the infinities, zero
   for the negative zero, and the texts of timestamps for timestamps.
2. This is equal to the value itself if it has no timestamps and all its numbers are finite.
3. Writing what came back gives the same text again.

**Proof sketch.** Induction on the value: its text, in front of a comma, a closing bracket or brace or
the end, is read as what it comes back as, and what follows is left. Texts are read character by
character. A number is read the same with and without what follows, and integers below `2 ^ 53` are
read as written. Names are written in order, so that reading puts them back in this order. -/
theorem parseJson_toJson (v : Value) (hv : v.WellFormed) (hdepth : v.depth ≤ 127) (hexact : v.Exact) :
    (Builtin.Documents.toJson [v] >>= fun text => Builtin.Documents.parseJson [text]) =
      .ok v.normalize ∧
    ((∀ x, .number x ∈ v.parts → x.isFinite = true) → (∀ t, .timestamp t ∉ v.parts) →
      v.normalize.eq v = true) ∧
    (Builtin.Documents.toJson [v] >>= fun text => Builtin.Documents.parseJson [text] >>= fun w =>
      Builtin.Documents.toJson [w]) = Builtin.Documents.toJson [v] := by
  have hreads := readable hv hexact (2 * v.encode.toList.length + 1) 127 [] (by omega) hdepth
    Json.ends_nil
  rw [List.append_nil] at hreads
  have hparse : (Builtin.Documents.toJson [v] >>= fun text => Builtin.Documents.parseJson [text]) =
      .ok v.normalize :=
    parseJson_eq_ok hreads.ofText?
  refine ⟨hparse, normalize_eq, ?_⟩
  rw [← bind_assoc, hparse]
  change Except.ok (Value.string v.normalize.encode) = .ok (.string v.encode)
  rw [encode_normalize]

/-- Two and a half comes back from its text. -/
lemma readsBack_twoAndAHalf : ReadsBack ⟨0x4004000000000000⟩ :=
  Json.ofText?_eq_number_iff.mpr ⟨.real ⟨0x4004000000000000⟩, [], by decide +kernel, rfl, rfl⟩

/-- A map with a quote and a control character in a name, NaN, the negative zero and a timestamp comes
back with what stands for them; an array with a fraction and a negative integer comes back as it was.

**Proof sketch.** Both values are well-formed and exact, since the only fraction in them is the one of
`readsBack_twoAndAHalf`. What is left is to evaluate what they come back as. -/
theorem parseJson_toJson_mixed :
    let t : Timestamp := ⟨⟨19782⟩, 43200, 0, 7200, by decide, by decide⟩
    let v : Value := .map [("\"\x01", .array [.number .nan, .number (.zero true)]), ("t", .timestamp t)]
    let w : Value := .array [.number ⟨0x4004000000000000⟩, .number ⟨0xc008000000000000⟩, .map []]
    (Builtin.Documents.toJson [v] >>= fun text => Builtin.Documents.parseJson [text]) =
      .ok (.map [("\"\x01", .array [.null, .number (.zero false)]),
        ("t", .string "2024-02-29T14:00:00+02:00")]) ∧
    (Builtin.Documents.toJson [w] >>= fun text => Builtin.Documents.parseJson [text]) = .ok w ∧
    w.normalize.eq w = true := by
  intro t v w
  have hordered : "\"\x01" < "t" := by decide
  have hv : v.WellFormed :=
    ⟨List.pairwise_pair.mpr hordered, ⟨trivial, trivial, trivial⟩, trivial, trivial⟩
  have hw : w.WellFormed :=
    ⟨trivial, trivial, ⟨List.Pairwise.nil, trivial⟩, trivial⟩
  have hvnumber (x : Double) (hx : .number x ∈ v.parts) : x = .nan ∨ x = .zero true := by
    simpa [v, parts, partsAll, partsFields] using hx
  have hvexact : v.Exact := by
    intro x hx hfinite hint
    rcases hvnumber x hx with rfl | rfl
    · exact absurd hfinite (by decide)
    · exact absurd hint (by decide +kernel)
  have hwnumber (x : Double) (hx : .number x ∈ w.parts) :
      x = ⟨0x4004000000000000⟩ ∨ x = ⟨0xc008000000000000⟩ := by
    simpa [w, parts, partsAll, partsFields] using hx
  have hwexact : w.Exact := by
    intro x hx hfinite hint
    rcases hwnumber x hx with rfl | rfl
    · exact readsBack_twoAndAHalf
    · exact absurd hint (by decide +kernel)
  refine ⟨?_, ?_, ?_⟩
  · rw [(parseJson_toJson v hv (by decide) hvexact).1]
    have htext : t.text = "2024-02-29T14:00:00+02:00" := by decide +kernel
    rw [← htext]
    rfl
  · exact (parseJson_toJson w hw (by decide) hwexact).1
  · refine (parseJson_toJson w hw (by decide) hwexact).2.1 ?_ ?_
    · intro x hx
      rcases hwnumber x hx with rfl | rfl <;> decide
    · simp [w, parts, partsAll, partsFields]

end Formula.Value
