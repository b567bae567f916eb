import Telemetry.Proofs.Entries
import Telemetry.Proofs.Wire.Field

/-!
# Reading values back

`Value.nesting` counts the levels of messages inside the canonical bytes of a value: a list takes one
level and one more for each item, a struct one level, one for the entry and one for the value in it,
which an entry leaves out if it has no kind. `mergeValue_encodeValue` says that these bytes are read
exactly when the budget covers their levels, and what reading them does to a value that was there
before. The induction runs over values, fields and items together.
-/
namespace Telemetry

namespace Value

def hasKind : Value → Bool
  | .unset => false
  | _ => true

mutual

/-- The levels of messages inside the bytes of a value. -/
def nesting : Value → Nat
  | .unset | .null _ | .number _ | .string _ | .bool _ => 0
  | .list items => 1 + itemsNesting items
  | .struct fields => 1 + fieldsNesting fields

def itemsNesting : List Value → Nat
  | [] => 0
  | v :: rest => max (1 + nesting v) (itemsNesting rest)

/-- An entry is a message, and so is the value in it. -/
def fieldsNesting : List (String × Value) → Nat
  | [] => 0
  | (_, v) :: rest => max (1 + if hasKind v then 1 + nesting v else 0) (fieldsNesting rest)

end

mutual

/-- Every struct inside is a map: its keys ascend. -/
def Ordered : Value → Prop
  | .unset | .null _ | .number _ | .string _ | .bool _ => True
  | .list items => OrderedItems items
  | .struct fields => Entries.Ascending fields ∧ OrderedFields fields

def OrderedItems : List Value → Prop
  | [] => True
  | v :: rest => Ordered v ∧ OrderedItems rest

def OrderedFields : List (String × Value) → Prop
  | [] => True
  | (_, v) :: rest => Ordered v ∧ OrderedFields rest

end

theorem orderedItems_iff (items : List Value) : OrderedItems items ↔ ∀ v ∈ items, v.Ordered := by
  induction items with
  | nil => simp [OrderedItems]
  | cons v items ih => simp [OrderedItems, ih]

theorem orderedFields_iff (fields : List (String × Value)) :
    OrderedFields fields ↔ ∀ e ∈ fields, e.2.Ordered := by
  induction fields with
  | nil => simp [OrderedFields]
  | cons e fields ih => rw [OrderedFields, ih, List.forall_mem_cons]

/-- A value after another one was read on top of it. -/
def join (held : Value) : Value → Value
  | .unset => held
  | .null code => .null code
  | .number x => .number x
  | .string s => .string s
  | .bool b => .bool b
  | .list items => .list (Wire.heldItems held ++ items)
  | .struct fields => .struct (Entries.putAll (Wire.heldFields held) fields)

theorem join_unset {v : Value} (h : v.Ordered) : join .unset v = v := by
  cases v with
  | struct fields =>
    simp only [Ordered] at h
    change Value.struct (Entries.putAll [] fields) = _
    rw [Entries.putAll_of_ascending [] fields (by simpa using h.1), List.nil_append]
  | list items => rfl
  | _ => rfl

end Value

namespace Wire

def valueField : Nat → Nat → WireType → Value → Bytes → Option (Value × Bytes)
  | 0, number, type, _, bytes => scalarField? number type bytes
  | budget + 1, number, type, v, bytes =>
    if number = 5 then do
      let (content, rest) ← delimitedField? type bytes
      let fields ← mergeStruct budget (heldFields v) content
      return (.struct fields, rest)
    else if number = 6 then do
      let (content, rest) ← delimitedField? type bytes
      let items ← mergeList budget (heldItems v) content
      return (.list items, rest)
    else if number < 5 then scalarField? number type bytes
    else skipped (budget + 1) number type v bytes

def structField : Nat → Nat → WireType → List (String × Value) → Bytes →
    Option (List (String × Value) × Bytes)
  | 0, _, _, _, _ => none
  | budget + 1, number, type, fields, bytes =>
    if number = 1 then do
      let (content, rest) ← delimitedContent? bytes
      let (name, v) ← mergeEntry budget ("", .unset) content
      return (Entries.put name v fields, rest)
    else skipped (budget + 1) number type fields bytes

def entryField : Nat → Nat → WireType → String × Value → Bytes → Option ((String × Value) × Bytes)
  | 0, number, type, entry, bytes =>
    if number = 1 then (textField? type bytes).map fun (name, rest) => ((name, entry.2), rest)
    else none
  | budget + 1, number, type, entry, bytes =>
    if number = 1 then (textField? type bytes).map fun (name, rest) => ((name, entry.2), rest)
    else if number = 2 then do
      let (content, rest) ← delimitedField? type bytes
      let v ← mergeValue budget entry.2 content
      return ((entry.1, v), rest)
    else skipped (budget + 1) number type entry bytes

def listField : Nat → Nat → WireType → List Value → Bytes → Option (List Value × Bytes)
  | 0, _, _, _, _ => none
  | budget + 1, number, type, items, bytes =>
    if number = 1 then do
      let (content, rest) ← delimitedField? type bytes
      let v ← mergeValue budget .unset content
      return (items ++ [v], rest)
    else skipped (budget + 1) number type items bytes

theorem mergeValue_eq (budget : Nat) : mergeValue budget = mergeFields (valueField budget) := by
  cases budget <;> rw [mergeValue] <;> rfl

theorem mergeStruct_eq (budget : Nat) : mergeStruct budget = mergeFields (structField budget) := by
  cases budget <;> rw [mergeStruct] <;> rfl

theorem mergeEntry_eq (budget : Nat) : mergeEntry budget = mergeFields (entryField budget) := by
  cases budget <;> rw [mergeEntry] <;> rfl

theorem mergeList_eq (budget : Nat) : mergeList budget = mergeFields (listField budget) := by
  cases budget <;> rw [mergeList] <;> rfl

theorem local_scalarField (number : Nat) (type : WireType) : Local (scalarField? number type) :=
  match number with
  | 1 => (Local.varintField type).map (fun n => .null (.ofNat n)) fun _ _ => rfl
  | 2 => (Local.fixed64Field type).map (fun n => .number ⟨.ofNat n⟩) fun _ _ => rfl
  | 3 => (Local.textField type).map .string fun _ _ => rfl
  | 4 => (Local.varintField type).map (fun n => .bool (decide (n ≠ 0))) fun _ _ => rfl
  | 0 | _ + 5 => Local.none

theorem local_valueField (budget number : Nat) (type : WireType) (v : Value) :
    Local (valueField budget number type v) := by
  cases budget with
  | zero => exact local_scalarField number type
  | succ budget =>
    refine Local.ite (fun _ => ?_) fun _ => Local.ite (fun _ => ?_) fun _ => Local.ite (fun _ => ?_) fun _ => ?_
    · exact (Local.delimitedField type).bind fun _ _ _ _ => leaves_of_bind
    · exact (Local.delimitedField type).bind fun _ _ _ _ => leaves_of_bind
    · exact local_scalarField number type
    · exact Local.skipped _ _ _ _

theorem local_structField (budget number : Nat) (type : WireType) (fields : List (String × Value)) :
    Local (structField budget number type fields) := by
  cases budget with
  | zero => exact Local.none
  | succ budget =>
    refine Local.ite (fun _ => ?_) fun _ => ?_
    · exact Local.delimitedContent.bind fun _ _ _ _ => leaves_of_bind
    · exact Local.skipped _ _ _ _

theorem local_entryField (budget number : Nat) (type : WireType) (entry : String × Value) :
    Local (entryField budget number type entry) := by
  have hname : Local fun bytes =>
      (textField? type bytes).map fun (name, rest) => ((name, entry.2), rest) :=
    (Local.textField type).map (·, entry.2) fun _ _ => rfl
  cases budget with
  | zero => exact Local.ite (fun _ => hname) fun _ => Local.none
  | succ budget =>
    refine Local.ite (fun _ => hname) fun _ => Local.ite (fun _ => ?_) fun _ => ?_
    · exact (Local.delimitedField type).bind fun _ _ _ _ => leaves_of_bind
    · exact Local.skipped _ _ _ _

theorem local_listField (budget number : Nat) (type : WireType) (items : List Value) :
    Local (listField budget number type items) := by
  cases budget with
  | zero => exact Local.none
  | succ budget =>
    refine Local.ite (fun _ => ?_) fun _ => ?_
    · exact (Local.delimitedField type).bind fun _ _ _ _ => leaves_of_bind
    · exact Local.skipped _ _ _ _

theorem valueField_of_lt_five {number : Nat} (h : number < 5) (budget : Nat) (type : WireType)
    (v : Value) (bytes : Bytes) :
    valueField budget number type v bytes = scalarField? number type bytes := by
  cases budget with
  | zero => rfl
  | succ budget => rw [valueField, if_neg (by omega), if_neg (by omega), if_pos h]

theorem mergeValue_scalar {number : Nat} {type : WireType} {content : Bytes} {v : Value}
    (hpos : 0 < number) (hlt : number < 5) (h : scalarField? number type content = some (v, []))
    (budget : Nat) (held : Value) : mergeValue budget held (key number type ++ content) = some v := by
  rw [mergeValue_eq, mergeFields_key (local_valueField budget) hpos (by omega),
    valueField_of_lt_five hlt, h]
  rfl

theorem mergeValue_list (budget : Nat) (held : Value) {content : Bytes}
    (hlen : content.length < 2 ^ 64) : mergeValue (budget + 1) held (delimited 6 content) =
      (mergeList budget (heldItems held) content).map .list := by
  have hread := delimitedField?_append [] hlen
  rw [← List.append_nil (delimited 6 content), mergeValue_eq,
    mergeFields_delimited (local_valueField _) (by omega) (by omega), valueField,
    if_neg (by decide), if_pos rfl, hread]
  simp only [Option.bind_eq_bind, Option.bind_some]
  cases mergeList budget (heldItems held) content <;> rfl

theorem mergeValue_struct (budget : Nat) (held : Value) {content : Bytes}
    (hlen : content.length < 2 ^ 64) : mergeValue (budget + 1) held (delimited 5 content) =
      (mergeStruct budget (heldFields held) content).map .struct := by
  have hread := delimitedField?_append [] hlen
  rw [← List.append_nil (delimited 5 content), mergeValue_eq,
    mergeFields_delimited (local_valueField _) (by omega) (by omega), valueField,
    if_pos rfl, hread]
  simp only [Option.bind_eq_bind, Option.bind_some]
  cases mergeStruct budget (heldFields held) content <;> rfl

/-- Without a budget there is no message inside. -/
theorem mergeValue_zero_delimited (held : Value) {number : Nat} (h : 4 < number)
    (hlt : number < 2 ^ 29) (content : Bytes) :
    mergeValue 0 held (delimited number content) = none := by
  rw [← List.append_nil (delimited number content), mergeValue_eq,
    mergeFields_delimited (local_valueField _) (by omega) hlt, valueField, scalarField?.eq_def]
  split <;> first | omega | rfl

theorem mergeList_cons (budget : Nat) (held : List Value) {content : Bytes} (rest : Bytes)
    (hlen : content.length < 2 ^ 64) : mergeList (budget + 1) held (delimited 1 content ++ rest) =
      (mergeValue budget .unset content).bind fun v =>
        mergeList (budget + 1) (held ++ [v]) rest := by
  rw [mergeList_eq, mergeFields_delimited (local_listField _) (by omega) (by omega), listField,
    if_pos rfl, delimitedField?_append rest hlen]
  simp only [Option.bind_eq_bind, Option.bind_some]
  cases mergeValue budget .unset content <;> rfl

theorem mergeStruct_cons (budget : Nat) (held : List (String × Value)) {content : Bytes}
    (rest : Bytes) (hlen : content.length < 2 ^ 64) :
    mergeStruct (budget + 1) held (delimited 1 content ++ rest) =
      (mergeEntry budget ("", .unset) content).bind fun (name, v) =>
        mergeStruct (budget + 1) (Entries.put name v held) rest := by
  rw [mergeStruct_eq, mergeFields_delimited (local_structField _) (by omega) (by omega),
    structField, if_pos rfl, delimitedContent?_append rest hlen]
  simp only [Option.bind_eq_bind, Option.bind_some]
  cases mergeEntry budget ("", .unset) content <;> rfl

theorem mergeList_zero_delimited (held : List Value) (content rest : Bytes) :
    mergeList 0 held (delimited 1 content ++ rest) = none := by
  rw [mergeList_eq, mergeFields_delimited (local_listField _) (by omega) (by omega)]
  rfl

theorem mergeStruct_zero_delimited (held : List (String × Value)) (content rest : Bytes) :
    mergeStruct 0 held (delimited 1 content ++ rest) = none := by
  rw [mergeStruct_eq, mergeFields_delimited (local_structField _) (by omega) (by omega)]
  rfl

theorem mergeEntry_text (budget : Nat) (v : Value) {name : String}
    (hlen : (Text.utf8 name).length < 2 ^ 64) (rest : Bytes) :
    mergeEntry budget ("", v) (textUnlessEmpty 1 name ++ rest) =
      mergeEntry budget (name, v) rest := by
  have hfield (bytes : Bytes) : entryField budget 1 .delimited ("", v) bytes =
      (textField? .delimited bytes).map fun (name, rest) => ((name, v), rest) := by
    cases budget <;> rfl
  rw [mergeEntry_eq, mergeFields_text (f := fun name => (name, v)) (local_entryField budget)
    (by omega) (by omega) hfield rfl hlen rest, later_default]

theorem mergeEntry_value (budget : Nat) (entry : String × Value) {content : Bytes}
    (hlen : content.length < 2 ^ 64) : mergeEntry (budget + 1) entry (delimited 2 content) =
      (mergeValue budget entry.2 content).map fun v => (entry.1, v) := by
  have hread := delimitedField?_append [] hlen
  rw [← List.append_nil (delimited 2 content), mergeEntry_eq,
    mergeFields_delimited (local_entryField _) (by omega) (by omega), entryField,
    if_neg (by decide), if_pos rfl, hread]
  simp only [Option.bind_eq_bind, Option.bind_some]
  cases mergeValue budget entry.2 content <;> rfl

theorem mergeEntry_zero_delimited (entry : String × Value) (content : Bytes) :
    mergeEntry 0 entry (delimited 2 content) = none := by
  rw [← List.append_nil (delimited 2 content), mergeEntry_eq,
    mergeFields_delimited (local_entryField _) (by omega) (by omega)]
  rfl

theorem scalarField?_null (code : Int32) :
    scalarField? 1 .varint (varint (twosComplement code.toInt)) = some (.null code, []) := by
  simp only [scalarField?, varintField?_varint (twosComplement_lt _), Option.map_some,
    int32_ofNat_twosComplement]

theorem scalarField?_number (x : Binary64) :
    scalarField? 2 .fixed64 (littleEndian 8 x.bits.toNat) = some (.number x, []) := by
  simp only [scalarField?, fixed64Field?_littleEndian x.bits.toNat_lt, Option.map_some,
    UInt64.ofNat_toNat]

theorem scalarField?_string {s : String} (hlen : (Text.utf8 s).length < 2 ^ 64) :
    scalarField? 3 .delimited (varint (Text.utf8 s).length ++ Text.utf8 s) =
      some (.string s, []) := by
  have hread := textField?_append [] hlen
  rw [List.append_nil] at hread
  simp only [scalarField?, hread, Option.map_some]

theorem scalarField?_bool (b : Bool) :
    scalarField? 4 .varint (varint b.toNat) = some (.bool b, []) := by
  have hb : b.toNat < 2 ^ 64 := by cases b <;> decide
  simp only [scalarField?, varintField?_varint hb, Option.map_some]
  cases b <;> rfl

theorem isEmpty_encodeValue (v : Value) : (encodeValue v).isEmpty = !v.hasKind := by
  cases v <;> simp [encodeValue, Value.hasKind, delimited, key_ne_nil]

theorem length_encodeValue_le_entry (name : String) (v : Value) : (encodeValue v).length ≤
    (textUnlessEmpty 1 name ++
      if (encodeValue v).isEmpty then [] else delimited 2 (encodeValue v)).length := by
  have hcontent := length_delimited 2 (encodeValue v)
  rw [List.length_append]
  split_ifs with h
  · simp [List.isEmpty_iff.mp h]
  · omega

/-- The bytes of an entry are read exactly when the budget covers the levels of its value, given that
this holds of the value alone. -/
theorem mergeEntry_encodeValue {v : Value} (hread : ∀ budget, mergeValue budget .unset (encodeValue v) =
      if v.nesting ≤ budget then some v else none)
    (budget : Nat) (name : String) (hlen : (textUnlessEmpty 1 name ++
      if (encodeValue v).isEmpty then [] else delimited 2 (encodeValue v)).length < 2 ^ 64) :
    mergeEntry budget ("", .unset) (textUnlessEmpty 1 name ++
        if (encodeValue v).isEmpty then [] else delimited 2 (encodeValue v)) =
      if (if v.hasKind then 1 + v.nesting else 0) ≤ budget then some (name, v) else none := by
  have hname := length_le_textUnlessEmpty 1 name
  have hcontent := length_delimited 2 (encodeValue v)
  rw [isEmpty_encodeValue, List.length_append] at hlen
  rw [isEmpty_encodeValue, mergeEntry_text budget .unset (by omega)]
  cases hv : v.hasKind with
  | false =>
    obtain rfl : v = .unset := by cases v <;> simp_all [Value.hasKind]
    simp [mergeEntry_eq]
  | true =>
    rw [hv] at hlen
    simp only [Bool.not_true, Bool.false_eq_true, if_false, if_true] at hlen ⊢
    cases budget with
    | zero => rw [mergeEntry_zero_delimited, if_neg (by omega)]
    | succ budget =>
      rw [mergeEntry_value budget _ (by omega), hread]
      by_cases h : v.nesting ≤ budget
      · rw [if_pos h, if_pos (by omega)]
        rfl
      · rw [if_neg h, if_neg (by omega)]
        rfl

mutual

/-- The canonical bytes of a value are read exactly when the budget covers their levels, and then join
the value with the one that was there before. -/
theorem mergeValue_encodeValue (budget : Nat) (held : Value) : (v : Value) → v.Ordered →
    (encodeValue v).length < 2 ^ 64 → mergeValue budget held (encodeValue v) =
      if v.nesting ≤ budget then some (held.join v) else none
  | .unset, _, _ => by simp [mergeValue_eq, encodeValue, Value.nesting, Value.join]
  | .null code, _, _ => by
    rw [Value.nesting, if_pos (Nat.zero_le _), encodeValue]
    exact mergeValue_scalar (by omega) (by omega) (scalarField?_null code) budget held
  | .number x, _, _ => by
    rw [Value.nesting, if_pos (Nat.zero_le _), encodeValue]
    exact mergeValue_scalar (by omega) (by omega) (scalarField?_number x) budget held
  | .string s, _, hlen => by
    have hcontent := length_delimited 3 (Text.utf8 s)
    rw [encodeValue] at hlen
    rw [Value.nesting, if_pos (Nat.zero_le _), encodeValue]
    exact mergeValue_scalar (by omega) (by omega) (scalarField?_string (by omega)) budget held
  | .bool b, _, _ => by
    rw [Value.nesting, if_pos (Nat.zero_le _), encodeValue]
    exact mergeValue_scalar (by omega) (by omega) (scalarField?_bool b) budget held
  | .struct fields, hv, hlen => by
    have hcontent := length_delimited 5 (encodeEntries fields)
    rw [encodeValue] at hlen ⊢
    cases budget with
    | zero => rw [mergeValue_zero_delimited held (by omega) (by omega), Value.nesting, if_neg (by omega)]
    | succ budget =>
      rw [mergeValue_struct budget held (by omega),
        mergeStruct_encodeEntries budget (heldFields held) fields hv.2 (by omega), Value.nesting]
      by_cases h : Value.fieldsNesting fields ≤ budget
      · rw [if_pos h, if_pos (by omega)]
        rfl
      · rw [if_neg h, if_neg (by omega)]
        rfl
  | .list items, hv, hlen => by
    have hcontent := length_delimited 6 (encodeItems items)
    rw [encodeValue] at hlen ⊢
    cases budget with
    | zero => rw [mergeValue_zero_delimited held (by omega) (by omega), Value.nesting, if_neg (by omega)]
    | succ budget =>
      rw [mergeValue_list budget held (by omega),
        mergeList_encodeItems budget (heldItems held) items hv (by omega), Value.nesting]
      by_cases h : Value.itemsNesting items ≤ budget
      · rw [if_pos h, if_pos (by omega)]
        rfl
      · rw [if_neg h, if_neg (by omega)]
        rfl

theorem mergeStruct_encodeEntries (budget : Nat) (held : List (String × Value)) :
    (fields : List (String × Value)) → Value.OrderedFields fields →
    (encodeEntries fields).length < 2 ^ 64 → mergeStruct budget held (encodeEntries fields) =
      if Value.fieldsNesting fields ≤ budget then some (Entries.putAll held fields) else none
  | [], _, _ => by simp [mergeStruct_eq, encodeEntries, Value.fieldsNesting, Entries.putAll]
  | (name, v) :: rest, hfields, hlen => by
    simp only [encodeEntries, List.length_append] at hlen ⊢
    rw [Value.fieldsNesting]
    have hentry := length_delimited 1 (textUnlessEmpty 1 name ++
      if (encodeValue v).isEmpty then [] else delimited 2 (encodeValue v))
    have hvalue := length_encodeValue_le_entry name v
    cases budget with
    | zero => rw [mergeStruct_zero_delimited, if_neg (by omega)]
    | succ budget =>
      have hread (budget : Nat) : mergeValue budget .unset (encodeValue v) =
          if v.nesting ≤ budget then some v else none := by
        rw [mergeValue_encodeValue budget .unset v hfields.1 (by omega), Value.join_unset hfields.1]
      rw [mergeStruct_cons budget held _ (by omega), mergeEntry_encodeValue hread budget name (by omega)]
      by_cases h : (if v.hasKind then 1 + v.nesting else 0) ≤ budget
      · have hnext := mergeStruct_encodeEntries (budget + 1) (Entries.put name v held) rest hfields.2
          (by omega)
        simp only [if_pos h, Option.bind_some, hnext]
        by_cases hrest : Value.fieldsNesting rest ≤ budget + 1
        · rw [if_pos hrest, if_pos (by omega)]
          rfl
        · rw [if_neg hrest, if_neg (by omega)]
      · rw [if_neg h, if_neg (by omega)]
        rfl

theorem mergeList_encodeItems (budget : Nat) (held : List Value) :
    (items : List Value) → Value.OrderedItems items →
    (encodeItems items).length < 2 ^ 64 → mergeList budget held (encodeItems items) =
      if Value.itemsNesting items ≤ budget then some (held ++ items) else none
  | [], _, _ => by simp [mergeList_eq, encodeItems, Value.itemsNesting]
  | v :: rest, hitems, hlen => by
    have hcontent := length_delimited 1 (encodeValue v)
    rw [encodeItems, List.length_append] at hlen
    rw [encodeItems, Value.itemsNesting]
    cases budget with
    | zero => rw [mergeList_zero_delimited, if_neg (by omega)]
    | succ budget =>
      rw [mergeList_cons budget held _ (by omega),
        mergeValue_encodeValue budget .unset v hitems.1 (by omega), Value.join_unset hitems.1]
      by_cases h : v.nesting ≤ budget
      · rw [if_pos h, Option.bind_some,
          mergeList_encodeItems (budget + 1) (held ++ [v]) rest hitems.2 (by omega)]
        by_cases hrest : Value.itemsNesting rest ≤ budget + 1
        · rw [if_pos hrest, if_pos (by omega), List.append_assoc]
          rfl
        · rw [if_neg hrest, if_neg (by omega)]
      · rw [if_neg h, if_neg (by omega)]
        rfl

end

end Wire
end Telemetry
