import Telemetry.Proofs.Wire.Size

/-!
# What was received can be sent on

Whatever bytes a message was read from, its structs are maps, its messages nest at most as deep as the limit,
and its canonical bytes are at most twice as many. Each field keeps this of the state it is folded into, with
the bytes that it takes, so a message keeps it with all its bytes; inside it, the same holds of values,
structs, entries and lists, by induction on the budget. So `decode?_encode_of_decode?`: what was read is
read again from its canonical bytes.
-/
namespace Telemetry

namespace Value

/-- The levels of messages inside an entry with the value. -/
def entryNesting (v : Value) : Nat := if v.hasKind then 1 + v.nesting else 0

/-- Structs inside are maps, and messages nest at most as deep as the budget. -/
def Fits (budget : Nat) (v : Value) : Prop := v.Ordered ∧ v.nesting ≤ budget

def EntryFits (budget : Nat) (entry : String × Value) : Prop :=
  entry.2.Ordered ∧ entry.2.entryNesting ≤ budget

def ItemsFit (budget : Nat) (items : List Value) : Prop :=
  ∀ v ∈ items, v.Ordered ∧ 1 + v.nesting ≤ budget

def FieldsFit (budget : Nat) (fields : List (String × Value)) : Prop :=
  Entries.Ascending fields ∧ ∀ e ∈ fields, e.2.Ordered ∧ 1 + e.2.entryNesting ≤ budget

theorem itemsNesting_le_iff (items : List Value) (budget : Nat) :
    itemsNesting items ≤ budget ↔ ∀ v ∈ items, 1 + v.nesting ≤ budget := by
  induction items with
  | nil => simp [itemsNesting]
  | cons v items ih => rw [itemsNesting, max_le_iff, ih, List.forall_mem_cons]

theorem fieldsNesting_le_iff (fields : List (String × Value)) (budget : Nat) :
    fieldsNesting fields ≤ budget ↔ ∀ e ∈ fields, 1 + e.2.entryNesting ≤ budget := by
  induction fields with
  | nil => simp [fieldsNesting]
  | cons e fields ih => rw [fieldsNesting, max_le_iff, ih, List.forall_mem_cons, entryNesting]

theorem fits_list_iff (budget : Nat) (items : List Value) :
    Fits (budget + 1) (.list items) ↔ ItemsFit budget items := by
  rw [Fits, Ordered, nesting, Nat.add_comm 1, Nat.add_le_add_iff_right, orderedItems_iff,
    itemsNesting_le_iff, ItemsFit]
  exact forall₂_and.symm

theorem fits_struct_iff (budget : Nat) (fields : List (String × Value)) :
    Fits (budget + 1) (.struct fields) ↔ FieldsFit budget fields := by
  rw [Fits, Ordered, nesting, Nat.add_comm 1, Nat.add_le_add_iff_right, orderedFields_iff,
    fieldsNesting_le_iff, FieldsFit, and_assoc]
  exact and_congr_right fun _ => forall₂_and.symm

theorem itemsFit_held {budget : Nat} {v : Value} (h : v.Fits (budget + 1)) :
    ItemsFit budget (Wire.heldItems v) := by
  cases v with
  | list items => exact (fits_list_iff budget items).mp h
  | _ => exact fun _ hv => absurd hv List.not_mem_nil

theorem fieldsFit_held {budget : Nat} {v : Value} (h : v.Fits (budget + 1)) :
    FieldsFit budget (Wire.heldFields v) := by
  cases v with
  | struct fields => exact (fits_struct_iff budget fields).mp h
  | _ => exact ⟨List.Pairwise.nil, fun _ he => absurd he List.not_mem_nil⟩

theorem FieldsFit.put {budget : Nat} {fields : List (String × Value)}
    (h : FieldsFit (budget + 1) fields) {name : String} {v : Value} (hv : EntryFits budget (name, v)) :
    FieldsFit (budget + 1) (Entries.put name v fields) := by
  refine ⟨Entries.ascending_put _ _ h.1, fun e he => ?_⟩
  obtain rfl | he := Entries.mem_put he
  · exact ⟨hv.1, Nat.add_comm 1 budget ▸ Nat.add_le_add_left hv.2 1⟩
  · exact h.2 e he

theorem fits_unset (budget : Nat) : Fits budget .unset := ⟨trivial, Nat.zero_le _⟩

end Value

namespace Wire

/-- The content of an entry of a struct. -/
def encodeEntry (entry : String × Value) : Bytes :=
  textUnlessEmpty 1 entry.1 ++
    if (encodeValue entry.2).isEmpty then [] else delimited 2 (encodeValue entry.2)

theorem encodeEntries_cons (entry : String × Value) (rest : List (String × Value)) :
    encodeEntries (entry :: rest) = delimited 1 (encodeEntry entry) ++ encodeEntries rest := by
  rw [encodeEntries]
  rfl

/-- An entry that is set adds its own bytes at most. -/
theorem length_encodeEntries_put_le (name : String) (v : Value) (fields : List (String × Value)) :
    (encodeEntries (Entries.put name v fields)).length ≤
      (encodeEntries fields).length + (delimited 1 (encodeEntry (name, v))).length := by
  induction fields with
  | nil => simp [Entries.put, encodeEntries_cons, encodeEntries]
  | cons e fields ih =>
    obtain ⟨key, w⟩ := e
    rw [Entries.put]
    split_ifs <;> simp only [encodeEntries_cons, List.length_append] <;> omega

theorem encodeItems_append (items more : List Value) :
    encodeItems (items ++ more) = encodeItems items ++ encodeItems more := by
  induction items with
  | nil => rfl
  | cons v items ih => simp only [List.cons_append, encodeItems, ih, List.append_assoc]

section Fold

variable {σ : Type} {step : Nat → WireType → σ → Bytes → Option (σ × Bytes)}

/-- Every field keeps a property of the state, and its canonical bytes grow by no more than twice the bytes of
the field, at least one of which is its key. -/
def Keeps (inv : σ → Prop) (encode : σ → Bytes)
    (step : Nat → WireType → σ → Bytes → Option (σ × Bytes)) : Prop :=
  ∀ number type s bytes s' rest, inv s → step number type s bytes = some (s', rest) →
    inv s' ∧ (encode s').length + 2 * rest.length ≤ (encode s).length + 2 * (1 + bytes.length)

theorem Keeps.mergeFields {inv : σ → Prop} {encode : σ → Bytes} (hstep : Keeps inv encode step)
    {s s' : σ} {bytes : Bytes} (hs : inv s) (h : mergeFields step s bytes = some s') :
    inv s' ∧ (encode s').length ≤ (encode s).length + 2 * bytes.length := by
  suffices hwithin : ∀ n s bytes, inv s → mergeWithin step n s bytes = some s' →
      inv s' ∧ (encode s').length ≤ (encode s).length + 2 * bytes.length from
    hwithin _ s bytes hs h
  clear h hs bytes s
  intro n
  induction n with
  | zero =>
    intro s bytes hs h
    cases bytes with
    | nil => cases h; exact ⟨hs, le_rfl⟩
    | cons b bytes => cases h
  | succ n ih =>
    intro s bytes hs h
    cases bytes with
    | nil => cases h; exact ⟨hs, le_rfl⟩
    | cons b bytes =>
      simp only [mergeWithin, Option.bind_eq_bind, Option.bind_eq_some_iff] at h
      obtain ⟨⟨⟨number, type⟩, left⟩, hkey, ⟨s₁, rest⟩, hfield, hrest⟩ := h
      have hshort : left.length < (b :: bytes).length := length_lt_of_key? hkey
      obtain ⟨hinv, hsize⟩ := hstep number type s left _ _ hs hfield
      obtain ⟨hinv', hsize'⟩ := ih s₁ rest hinv hrest
      exact ⟨hinv', by omega⟩

/-- A field that is passed over keeps everything. -/
theorem keeps_skipped {P : σ → Prop} {encode : σ → Bytes} {budget number : Nat} {type : WireType}
    {s s' : σ} {bytes rest : Bytes} (hs : P s)
    (h : skipped budget number type s bytes = some (s', rest)) :
    P s' ∧ (encode s').length + 2 * rest.length ≤ (encode s).length + 2 * (1 + bytes.length) := by
  have hshort := (Local.skipped _ _ _ _).length_le h
  obtain ⟨left, -, he⟩ := Option.map_eq_some_iff.mp h
  obtain ⟨rfl, rfl⟩ := Prod.mk.inj he
  exact ⟨hs, by omega⟩

end Fold

theorem exists_of_map {α β : Type} {o : Option (α × Bytes)} (f : α → β) {b : β} {rest : Bytes}
    (h : (o.map fun (a, rest) => (f a, rest)) = some (b, rest)) : ∃ a, o = some (a, rest) ∧ f a = b := by
  obtain ⟨⟨a, left⟩, ha, he⟩ := Option.map_eq_some_iff.mp h
  obtain ⟨rfl, rfl⟩ := Prod.mk.inj he
  exact ⟨a, ha, rfl⟩

theorem exists_of_bind {α β : Type} {o : Option (Bytes × Bytes)} {read : Bytes → Option α} {f : α → β}
    {b : β} {rest : Bytes} (h : (o.bind fun (content, rest) =>
      (read content).bind fun a => some (f a, rest)) = some (b, rest)) :
    ∃ content a, o = some (content, rest) ∧ read content = some a ∧ f a = b := by
  simp only [Option.bind_eq_some_iff, Option.some.injEq, Prod.mk.injEq] at h
  obtain ⟨⟨content, left⟩, hcontent, a, ha, rfl, rfl⟩ := h
  exact ⟨content, a, hcontent, ha, rfl⟩

theorem length_textUnlessEmpty_le_of_read (number : Nat) (hnumber : number < 16) {type : WireType}
    {bytes rest : Bytes} {t : String} (h : textField? type bytes = some (t, rest)) :
    (textUnlessEmpty number t).length + 2 * rest.length ≤ 2 * (1 + bytes.length) := by
  have hread := length_of_textField? h
  have hwritten := length_textUnlessEmpty_le hnumber t
  omega

theorem length_numberUnlessZero_le_of_read (number : Nat) (hnumber : number < 16) {type : WireType}
    {bytes rest : Bytes} {n : Nat} (h : varintField? type bytes = some (n, rest)) {i : Int}
    (hi : (varint (twosComplement i)).length ≤ 2 * (varint n).length) :
    (numberUnlessZero number i).length + 2 * rest.length ≤ 2 * (1 + bytes.length) := by
  have hread := length_of_varintField? h
  have hwritten := length_numberUnlessZero_le hnumber i
  omega

/-- What is added to a message inside lets it grow, with its key and length, by no more than twice the
bytes of the field. It may have been absent before. -/
theorem length_delimited_le_of_read (number : Nat) (hnumber : number < 16) {type : WireType}
    {bytes content rest : Bytes} (hcontent : delimitedField? type bytes = some (content, rest))
    {held new : Bytes} (hnew : new.length ≤ held.length + 2 * content.length) {before : Nat}
    (hbefore : held ≠ [] → before = (delimited number held).length) :
    (delimited number new).length + 2 * rest.length ≤ before + 2 * (1 + bytes.length) := by
  have hread := length_of_delimitedField? hcontent
  by_cases hheld : held = []
  · have := length_delimited_le hnumber (show new.length ≤ 2 * content.length by simpa [hheld] using hnew)
    omega
  · have := length_delimited_le_add hnumber hnew
    have := hbefore hheld
    omega

theorem length_messageIfPresent_le_of_read (number : Nat) (hnumber : number < 16) {type : WireType}
    {bytes content rest : Bytes} (hcontent : delimitedField? type bytes = some (content, rest))
    {α : Type} {encode : α → Bytes} {default new : α} (hdefault : encode default = []) {held : Option α}
    (hnew : (encode new).length ≤ (encode (held.getD default)).length + 2 * content.length) :
    (messageIfPresent number encode (some new)).length + 2 * rest.length ≤
      (messageIfPresent number encode held).length + 2 * (1 + bytes.length) := by
  refine length_delimited_le_of_read _ hnumber hcontent hnew fun hne => ?_
  cases held with
  | none => exact absurd hdefault hne
  | some a => rfl

theorem scalarField?_fits {number : Nat} {type : WireType} {bytes rest : Bytes} {v : Value}
    (h : scalarField? number type bytes = some (v, rest)) : (∀ budget, v.Fits budget) ∧
      (encodeValue v).length + 2 * rest.length ≤ 2 * (1 + bytes.length) := by
  rw [scalarField?.eq_def] at h
  split at h
  case h_1 =>
    obtain ⟨n, hn, rfl⟩ := exists_of_map (fun n => Value.null (.ofNat n)) h
    have hread := length_of_varintField? hn
    have hwritten := length_varint_int32_le n
    refine ⟨fun _ => ⟨trivial, Nat.zero_le _⟩, ?_⟩
    rw [encodeValue, List.length_append, length_key (by decide)]
    omega
  case h_2 =>
    obtain ⟨n, hn, rfl⟩ := exists_of_map (fun n => Value.number ⟨.ofNat n⟩) h
    rw [fixed64Field?] at hn
    split_ifs at hn
    obtain ⟨taken, htake, rfl⟩ := exists_of_map ofLittleEndian hn
    obtain ⟨rfl, hlength⟩ := eq_of_take? htake
    refine ⟨fun _ => ⟨trivial, Nat.zero_le _⟩, ?_⟩
    rw [encodeValue, List.length_append, length_key (by decide), length_littleEndian,
      List.length_append]
    omega
  case h_3 =>
    obtain ⟨t, ht, rfl⟩ := exists_of_map Value.string h
    have hread := length_of_textField? ht
    refine ⟨fun _ => ⟨trivial, Nat.zero_le _⟩, ?_⟩
    rw [encodeValue, length_delimited_eq (by decide)]
    omega
  case h_4 =>
    obtain ⟨n, hn, rfl⟩ := exists_of_map (fun n => Value.bool (decide (n ≠ 0))) h
    have hread := length_of_varintField? hn
    have hpos := List.length_pos_of_ne_nil (varint_ne_nil n)
    have hbool := length_varint_of_lt ((Bool.toNat_lt (decide (n ≠ 0))).trans (by decide))
    refine ⟨fun _ => ⟨trivial, Nat.zero_le _⟩, ?_⟩
    rw [encodeValue, List.length_append, length_key (by decide)]
    omega
  case h_5 => cases h

theorem encodeEntries_ne_nil {v : Value} (h : encodeEntries (heldFields v) ≠ []) :
    (encodeValue v).length = (delimited 5 (encodeEntries (heldFields v))).length := by
  cases v with
  | struct fields => rw [encodeValue, heldFields]
  | _ => exact absurd rfl h

theorem encodeItems_ne_nil {v : Value} (h : encodeItems (heldItems v) ≠ []) :
    (encodeValue v).length = (delimited 6 (encodeItems (heldItems v))).length := by
  cases v with
  | list items => rw [encodeValue, heldItems]
  | _ => exact absurd rfl h

/-- What each kind of field inside a value keeps. -/
structure Sound (budget : Nat) : Prop where
  value : Keeps (Value.Fits budget) encodeValue (valueField budget)
  struct : Keeps (Value.FieldsFit budget) encodeEntries (structField budget)
  entry : Keeps (Value.EntryFits budget) encodeEntry (entryField budget)
  list : Keeps (Value.ItemsFit budget) encodeItems (listField budget)

theorem keeps_valueField {budget : Nat} (ih : Sound budget) :
    Keeps (Value.Fits (budget + 1)) encodeValue (valueField (budget + 1)) := by
  intro number type v bytes v' rest hv h
  rw [valueField] at h
  split_ifs at h
  · obtain ⟨content, fields, hcontent, hread, rfl⟩ := exists_of_bind h
    rw [mergeStruct_eq] at hread
    obtain ⟨hfields, hsize⟩ := ih.struct.mergeFields (Value.fieldsFit_held hv) hread
    refine ⟨(Value.fits_struct_iff _ _).mpr hfields, ?_⟩
    rw [encodeValue]
    exact length_delimited_le_of_read _ (by decide) hcontent hsize encodeEntries_ne_nil
  · obtain ⟨content, items, hcontent, hread, rfl⟩ := exists_of_bind h
    rw [mergeList_eq] at hread
    obtain ⟨hitems, hsize⟩ := ih.list.mergeFields (Value.itemsFit_held hv) hread
    refine ⟨(Value.fits_list_iff _ _).mpr hitems, ?_⟩
    rw [encodeValue]
    exact length_delimited_le_of_read _ (by decide) hcontent hsize encodeItems_ne_nil
  · obtain ⟨hfits, hsize⟩ := scalarField?_fits h
    exact ⟨hfits _, by omega⟩
  · exact keeps_skipped hv h

theorem keeps_structField {budget : Nat} (ih : Sound budget) :
    Keeps (Value.FieldsFit (budget + 1)) encodeEntries (structField (budget + 1)) := by
  intro number type fields bytes fields' rest hfields h
  rw [structField] at h
  split_ifs at h
  · simp only [Option.bind_eq_bind, Option.bind_eq_some_iff, Option.pure_def, Option.some.injEq,
      Prod.mk.injEq] at h
    obtain ⟨⟨content, left⟩, hcontent, ⟨name, v⟩, hread, rfl, rfl⟩ := h
    change mergeEntry budget ("", .unset) content = some (name, v) at hread
    rw [mergeEntry_eq] at hread
    have hempty : Value.EntryFits budget ("", .unset) := ⟨trivial, Nat.zero_le _⟩
    have hnothing : (encodeEntry ("", .unset)).length = 0 := rfl
    obtain ⟨hentry, hsize⟩ := ih.entry.mergeFields hempty hread
    have hput := length_encodeEntries_put_le name v fields
    have htaken := length_of_delimitedContent? hcontent
    have hdoubles : (encodeEntry (name, v)).length ≤ 2 * content.length := by omega
    have hwritten := length_delimited_le (show 1 < 16 by decide) hdoubles
    exact ⟨hfields.put hentry, by simp only; omega⟩
  · exact keeps_skipped hfields h

theorem length_encodeEntry (name : String) (v : Value) : (encodeEntry (name, v)).length =
    (textUnlessEmpty 1 name).length +
      (if (encodeValue v).isEmpty then [] else delimited 2 (encodeValue v)).length :=
  List.length_append

theorem keeps_name {budget : Nat} {type : WireType} {entry entry' : String × Value} {bytes rest : Bytes}
    (hentry : Value.EntryFits budget entry)
    (h : (textField? type bytes).map (fun (name, rest) => ((name, entry.2), rest)) = some (entry', rest)) :
    Value.EntryFits budget entry' ∧ (encodeEntry entry').length + 2 * rest.length ≤
      (encodeEntry entry).length + 2 * (1 + bytes.length) := by
  obtain ⟨name, v⟩ := entry
  obtain ⟨name', hname, rfl⟩ := exists_of_map (fun name => (name, v)) h
  have hsize := length_textUnlessEmpty_le_of_read 1 (by decide) hname
  refine ⟨hentry, ?_⟩
  rw [length_encodeEntry, length_encodeEntry]
  omega

theorem entryNesting_le_iff (v : Value) (budget : Nat) :
    v.entryNesting ≤ budget + 1 ↔ v.nesting ≤ budget := by
  cases v <;> simp [Value.entryNesting, Value.hasKind, Value.nesting]
  all_goals omega

theorem keeps_entryField {budget : Nat} (ih : Sound budget) :
    Keeps (Value.EntryFits (budget + 1)) encodeEntry (entryField (budget + 1)) := by
  rintro number type ⟨name, held⟩ bytes entry' rest hentry h
  rw [entryField] at h
  split_ifs at h
  · exact keeps_name hentry h
  · obtain ⟨content, v, hcontent, hread, rfl⟩ := exists_of_bind (f := fun v => (name, v)) h
    rw [mergeValue_eq] at hread
    obtain ⟨hfits, hsize⟩ := ih.value.mergeFields
      ⟨hentry.1, (entryNesting_le_iff held budget).mp hentry.2⟩ hread
    refine ⟨⟨hfits.1, (entryNesting_le_iff v budget).mpr hfits.2⟩, ?_⟩
    have hheld (hne : encodeValue held ≠ []) :
        (if (encodeValue held).isEmpty then [] else delimited 2 (encodeValue held)).length =
          (delimited 2 (encodeValue held)).length := by
      rw [if_neg (by simpa using hne)]
    have hgrows := length_delimited_le_of_read 2 (by decide) hcontent hsize hheld
    have hwritten : (if (encodeValue v).isEmpty then [] else delimited 2 (encodeValue v)).length ≤
        (delimited 2 (encodeValue v)).length := by
      split_ifs
      · exact Nat.zero_le _
      · exact le_rfl
    rw [length_encodeEntry, length_encodeEntry]
    omega
  · exact keeps_skipped hentry h

theorem keeps_listField {budget : Nat} (ih : Sound budget) :
    Keeps (Value.ItemsFit (budget + 1)) encodeItems (listField (budget + 1)) := by
  intro number type items bytes items' rest hitems h
  rw [listField] at h
  split_ifs at h
  · obtain ⟨content, v, hcontent, hread, rfl⟩ := exists_of_bind h
    rw [mergeValue_eq] at hread
    obtain ⟨hfits, hsize⟩ := ih.value.mergeFields (Value.fits_unset budget) hread
    refine ⟨fun w hw => ?_, ?_⟩
    · obtain hw | hw := List.mem_append.mp hw
      · exact hitems w hw
      · obtain rfl := List.mem_singleton.mp hw
        exact ⟨hfits.1, by have := hfits.2; omega⟩
    · have hnothing (hne : encodeValue .unset ≠ []) : 0 = (delimited 1 (encodeValue .unset)).length :=
        absurd rfl hne
      have hgrows := length_delimited_le_of_read 1 (by decide) hcontent hsize hnothing
      rw [encodeItems_append, List.length_append, encodeItems, encodeItems, List.append_nil]
      omega
  · exact keeps_skipped hitems h

/-- By induction on the budget: what a message inside keeps, with one level less, the field that holds it
keeps. -/
theorem sound (budget : Nat) : Sound budget := by
  induction budget with
  | zero =>
    refine ⟨?value, ?struct, ?entry, ?list⟩
    case value =>
      intro number type v bytes v' rest _ h
      obtain ⟨hfits, hsize⟩ := scalarField?_fits h
      exact ⟨hfits 0, by omega⟩
    case struct =>
      intro number type fields bytes fields' rest _ h
      cases h
    case entry =>
      intro number type entry bytes entry' rest hentry h
      rw [entryField] at h
      split_ifs at h
      exact keeps_name hentry h
    case list =>
      intro number type items bytes items' rest _ h
      cases h
  | succ budget ih =>
    exact ⟨keeps_valueField ih, keeps_structField ih, keeps_entryField ih, keeps_listField ih⟩

theorem keeps_ackField : Keeps (fun _ => True) encodeAck ackField := by
  intro number type a bytes a' rest _ h
  rw [ackField.eq_def] at h
  split at h
  case h_1 =>
    obtain ⟨n, hn, rfl⟩ := exists_of_map (fun n => { a with connected := decide (n ≠ 0) }) h
    have hpos := List.length_pos_of_ne_nil (varint_ne_nil n)
    have hbool : (varint (twosComplement (decide (n ≠ 0)).toNat)).length = 1 := by
      cases decide (n ≠ 0) <;> exact length_varint_of_lt (by decide)
    have hsize := length_numberUnlessZero_le_of_read 1 (by decide) hn
      (show (varint (twosComplement (decide (n ≠ 0)).toNat)).length ≤ 2 * (varint n).length by omega)
    refine ⟨trivial, ?_⟩
    simp only [encodeAck, List.length_append]
    omega
  case h_2 =>
    obtain ⟨t, ht, rfl⟩ := exists_of_map (fun t => { a with instanceUuid := t }) h
    have hsize := length_textUnlessEmpty_le_of_read 2 (by decide) ht
    refine ⟨trivial, ?_⟩
    simp only [encodeAck, List.length_append]
    omega
  case h_3 => exact keeps_skipped (P := fun _ => True) trivial h

theorem keeps_timestampField (budget : Nat) :
    Keeps (fun _ => True) encodeTimestamp (timestampField budget) := by
  intro number type t bytes t' rest _ h
  rw [timestampField.eq_def] at h
  split at h
  case h_1 =>
    obtain ⟨n, hn, rfl⟩ := exists_of_map (fun n => { t with seconds := .ofNat n }) h
    have hseconds := length_varint_int64_le (lt_of_varintField? hn)
    have hsize := length_numberUnlessZero_le_of_read 1 (by decide) hn (hseconds.trans (by omega))
    refine ⟨trivial, ?_⟩
    simp only [encodeTimestamp, List.length_append]
    omega
  case h_2 =>
    obtain ⟨n, hn, rfl⟩ := exists_of_map (fun n => { t with nanos := .ofNat n }) h
    have hsize := length_numberUnlessZero_le_of_read 2 (by decide) hn
      (length_varint_int32_le n)
    refine ⟨trivial, ?_⟩
    simp only [encodeTimestamp, List.length_append]
    omega
  case h_3 => exact keeps_skipped (P := fun _ => True) trivial h

/-- The data are a map, and messages inside nest at most as deep as the limit. -/
def StatsFits (s : Stats) : Prop := ∀ fields ∈ s.data, (Value.struct fields).Fits nestingLimit

/-- A text that is replaced adds its own bytes at most. -/
theorem keeps_statsText (number : Nat) {s s' : Stats} (hnumber : number < 16) {type : WireType}
    {bytes rest : Bytes} (f : String → Stats) (hdata : ∀ t, (f t).data = s.data)
    (hsize : ∀ t, (encodeStats (f t)).length ≤ (encodeStats s).length + (textUnlessEmpty number t).length)
    (hs : StatsFits s) (h : (textField? type bytes).map (fun (t, rest) => (f t, rest)) = some (s', rest)) :
    StatsFits s' ∧
      (encodeStats s').length + 2 * rest.length ≤ (encodeStats s).length + 2 * (1 + bytes.length) := by
  obtain ⟨t, ht, rfl⟩ := exists_of_map f h
  have hread := length_textUnlessEmpty_le_of_read _ hnumber ht
  have hwritten := hsize t
  refine ⟨?_, by omega⟩
  rw [StatsFits, hdata]
  exact hs

theorem keeps_statsField : Keeps StatsFits encodeStats statsField := by
  intro number type s bytes s' rest hs h
  rw [statsField.eq_def] at h
  split at h
  case h_1 =>
    refine keeps_statsText 1 (by decide) (fun t => { s with buildDate := t })
      (fun _ => rfl) (fun t => ?_) hs h
    simp only [encodeStats, List.length_append]
    omega
  case h_2 =>
    obtain ⟨n, hn, rfl⟩ := exists_of_map (fun n => { s with buildFlavour := .ofNat n }) h
    have hsize := length_numberUnlessZero_le_of_read 2 (by decide) hn
      (length_varint_int32_le n)
    refine ⟨hs, ?_⟩
    simp only [encodeStats, List.length_append]
    omega
  case h_3 =>
    refine keeps_statsText 3 (by decide) (fun t => { s with commitSha := t })
      (fun _ => rfl) (fun t => ?_) hs h
    simp only [encodeStats, List.length_append]
    omega
  case h_4 =>
    obtain ⟨content, t, hcontent, hread, rfl⟩ :=
      exists_of_bind (f := fun t => { s with snapshotDate := some t }) h
    obtain ⟨-, hgrows⟩ := (keeps_timestampField _).mergeFields trivial hread
    have hsize := length_messageIfPresent_le_of_read 4 (by decide) hcontent
      (show encodeTimestamp .zero = [] from rfl) hgrows
    refine ⟨hs, ?_⟩
    simp only [encodeStats, List.length_append]
    omega
  case h_5 =>
    refine keeps_statsText 5 (by decide) (fun t => { s with product := t })
      (fun _ => rfl) (fun t => ?_) hs h
    simp only [encodeStats, List.length_append]
    omega
  case h_6 =>
    refine keeps_statsText 6 (by decide) (fun t => { s with version := t })
      (fun _ => rfl) (fun t => ?_) hs h
    simp only [encodeStats, List.length_append]
    omega
  case h_7 =>
    refine keeps_statsText 7 (by decide) (fun t => { s with vendor := t })
      (fun _ => rfl) (fun t => ?_) hs h
    simp only [encodeStats, List.length_append]
    omega
  case h_8 =>
    obtain ⟨content, fields, hcontent, hread, rfl⟩ :=
      exists_of_bind (f := fun fields => { s with data := some fields }) h
    have hheld : Value.FieldsFit (nestingLimit - 1) (s.data.getD []) := by
      cases hdata : s.data with
      | none => exact ⟨List.Pairwise.nil, fun _ he => absurd he List.not_mem_nil⟩
      | some held => exact (Value.fits_struct_iff _ _).mp (hs held hdata)
    rw [mergeStruct_eq] at hread
    obtain ⟨hfields, hgrows⟩ := (sound _).struct.mergeFields hheld hread
    have hsize := length_messageIfPresent_le_of_read 8 (by decide) hcontent
      (show encodeEntries [] = [] from rfl) hgrows
    refine ⟨?_, ?_⟩
    · rintro _ ⟨⟩
      exact (Value.fits_struct_iff _ _).mpr hfields
    · simp only [encodeStats, List.length_append]
      omega
  case h_9 => exact keeps_skipped (P := StatsFits) hs h

/-- What holds of every message that was read. -/
structure Received (type : MessageType) (b : Bytes) (m : Message) : Prop where
  type_eq : m.type = type
  ordered : m.Ordered
  nesting_le : m.nesting ≤ nestingLimit
  length_le : (encode m).length ≤ 2 * b.length

theorem received_of_decode? {type : MessageType} {b : Bytes} {m : Message}
    (h : decode? type b = some m) : Received type b m := by
  cases type with
  | ackRequest =>
    obtain ⟨-, -, rfl⟩ := Option.map_eq_some_iff.mp h
    exact ⟨rfl, trivial, Nat.zero_le _, Nat.zero_le _⟩
  | statsRequest =>
    obtain ⟨-, -, rfl⟩ := Option.map_eq_some_iff.mp h
    exact ⟨rfl, trivial, Nat.zero_le _, Nat.zero_le _⟩
  | ack =>
    obtain ⟨a, ha, rfl⟩ := Option.map_eq_some_iff.mp h
    obtain ⟨-, hsize⟩ := keeps_ackField.mergeFields trivial ha
    exact ⟨rfl, trivial, Nat.zero_le _, hsize.trans_eq (Nat.zero_add _)⟩
  | stats =>
    obtain ⟨s, hs, rfl⟩ := Option.map_eq_some_iff.mp h
    have hempty : StatsFits .empty := fun _ hf => absurd hf (Option.not_mem_none _)
    obtain ⟨hdata, hsize⟩ := keeps_statsField.mergeFields hempty hs
    exact ⟨rfl, fun fields hf => (hdata fields hf).1,
      (nesting_stats_le_iff s).mpr fun fields hf => (hdata fields hf).2, hsize.trans_eq (Nat.zero_add _)⟩
  | value =>
    obtain ⟨v, hv, rfl⟩ := Option.map_eq_some_iff.mp h
    rw [mergeValue_eq] at hv
    obtain ⟨hfits, hsize⟩ := (sound nestingLimit).value.mergeFields (Value.fits_unset _) hv
    exact ⟨rfl, hfits.1, hfits.2, hsize.trans_eq (Nat.zero_add _)⟩

/-- What was read of bytes that fit into memory reads back from its canonical bytes: they are at most twice
as many, and its messages nest no deeper than the limit. -/
theorem decode?_encode_of_decode? {type : MessageType} {b : Bytes} (hb : b.length < 2 ^ 63) {m : Message}
    (h : decode? type b = some m) : decode? type (encode m) = some m ∧ m.nesting ≤ nestingLimit ∧
      (encode m).length ≤ 2 * b.length := by
  obtain ⟨rfl, hordered, hnesting, hlength⟩ := received_of_decode? h
  exact ⟨(decode?_encode m hordered (by omega)).trans (if_pos hnesting), hnesting, hlength⟩

/-- A list in two parts with a field that nobody knows between them, and a null whose number has more than
32 bits. -/
def sampleParts : Bytes :=
  [0x32, 0x02, 0x0a, 0x00, 0x78, 0x01, 0x32, 0x09, 0x0a, 0x07, 0x08, 0xff, 0xff, 0xff, 0xff, 0xff, 0x01]

theorem sampleParts_reads_back : sampleParts.length < 2 ^ 63 ∧
    decode? .value sampleParts = some (.value (.list [.unset, .null (-1)])) ∧
    decode? .value (encode (.value (.list [.unset, .null (-1)]))) =
      some (.value (.list [.unset, .null (-1)])) := by
  have hlen : sampleParts.length < 2 ^ 63 := by decide
  have hread : decode? .value sampleParts = some (.value (.list [.unset, .null (-1)])) := by rfl
  exact ⟨hlen, hread, (decode?_encode_of_decode? hlen hread).1⟩

end Wire
end Telemetry
