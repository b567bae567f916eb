import Telemetry.Proofs.Wire.Number

/-!
# Reading fields back

A key reads back with its wire type, and a run of bytes with its length in front is cut off where it
ends. No reader looks beyond the bytes that it takes, which `Local` says. The fold over the fields of a
message counts its steps by the bytes it was given. As no reader leaves more bytes than it was given,
the count never runs out, and `mergeFields_of_key?` describes the fold without it: one step for the field
in front, then the fold over what is left.
-/
namespace Telemetry.Wire

theorem WireType.code_lt (type : WireType) : type.code < 6 := by
  cases type <;> decide

@[simp] theorem WireType.ofCode?_code (type : WireType) : ofCode? type.code = some type := by
  cases type <;> rfl

theorem key?_key {number : Nat} (type : WireType) (rest : Bytes) (hpos : 0 < number)
    (hlt : number < 2 ^ 29) : key? (key number type ++ rest) = some ((number, type), rest) := by
  have hcode := type.code_lt
  have hmod : (8 * number + type.code) % 8 = type.code := by omega
  have hdiv : (8 * number + type.code) / 8 = number := by omega
  have hbound : 8 * number + type.code < 2 ^ 32 ∧ 8 ≤ 8 * number + type.code := by omega
  simp only [key?, key, varint?_varint _ rest (show 8 * number + type.code < 2 ^ 64 by omega),
    Option.bind_eq_bind, Option.bind_some, hmod, WireType.ofCode?_code, hdiv, Nat.pow_eq,
    if_pos hbound, Option.pure_def]

theorem key_ne_nil (number : Nat) (type : WireType) : key number type ≠ [] := varint_ne_nil _

/-- The bytes that a key is read from decide it, and there is at least one of them. -/
theorem exists_of_key? {bytes rest : Bytes} {found : Nat × WireType}
    (h : key? bytes = some (found, rest)) :
    ∃ used, used ≠ [] ∧ bytes = used ++ rest ∧ ∀ more, key? (used ++ more) = some (found, more) := by
  simp only [key?, Option.bind_eq_bind, Option.bind_eq_some_iff, Option.pure_def] at h
  obtain ⟨⟨k, left⟩, hk, type, htype, h⟩ := h
  split_ifs at h with hbound
  obtain ⟨rfl, rfl⟩ := Prod.mk.inj (Option.some.inj h)
  obtain ⟨used, hne, rfl, hused⟩ := exists_of_varintWithin? hk
  refine ⟨used, hne, rfl, fun more => ?_⟩
  have hvarint : varint? (used ++ more) = some (k, more) := hused more
  simp only [key?, hvarint, Option.bind_eq_bind, Option.bind_some, htype, if_pos hbound,
    Option.pure_def]

theorem length_lt_of_key? {bytes rest : Bytes} {found : Nat × WireType}
    (h : key? bytes = some (found, rest)) : rest.length < bytes.length := by
  obtain ⟨used, hne, rfl, -⟩ := exists_of_key? h
  have hpos := List.length_pos_of_ne_nil hne
  rw [List.length_append]
  omega

theorem delimitedContent?_append {content : Bytes} (rest : Bytes) (h : content.length < 2 ^ 64) :
    delimitedContent? (varint content.length ++ (content ++ rest)) = some (content, rest) := by
  simp only [delimitedContent?, varint?_varint _ _ h, Option.bind_eq_bind, Option.bind_some,
    take?_append]

theorem delimitedField?_append {content : Bytes} (rest : Bytes) (h : content.length < 2 ^ 64) :
    delimitedField? .delimited (varint content.length ++ (content ++ rest)) =
      some (content, rest) := by
  rw [delimitedField?, if_pos rfl, delimitedContent?_append rest h]

theorem textField?_append {s : String} (rest : Bytes) (h : (Text.utf8 s).length < 2 ^ 64) :
    textField? .delimited (varint (Text.utf8 s).length ++ (Text.utf8 s ++ rest)) =
      some (s, rest) := by
  simp only [textField?, delimitedField?_append rest h, Option.bind_eq_bind, Option.bind_some,
    Text.ofUtf8?_utf8, Option.pure_def]

theorem varintField?_varint {n : Nat} (h : n < 2 ^ 64) :
    varintField? .varint (varint n) = some (n, []) := by
  rw [varintField?, if_pos rfl, ← List.append_nil (varint n), varint?_varint n [] h]

theorem fixed64Field?_littleEndian {n : Nat} (h : n < 2 ^ 64) :
    fixed64Field? .fixed64 (littleEndian 8 n) = some (n, []) := by
  have htake := take?_append (littleEndian 8 n) []
  rw [length_littleEndian, List.append_nil] at htake
  simp only [fixed64Field?, if_true, htake, Option.map_some,
    ofLittleEndian_littleEndian 8 n (by omega)]

theorem length_delimited (number : Nat) (content : Bytes) :
    content.length < (delimited number content).length := by
  have hkey := List.length_pos_of_ne_nil (key_ne_nil number .delimited)
  simp only [delimited, List.length_append]
  omega

/-- What a reader makes of bytes is decided by those that it takes off the front. -/
def Local {α : Type} (read : Bytes → Option (α × Bytes)) : Prop :=
  ∀ bytes a rest, read bytes = some (a, rest) →
    ∃ used, bytes = used ++ rest ∧ ∀ more, read (used ++ more) = some (a, more)

/-- What is refused or changed after it was read leaves what the reader left. -/
theorem leaves_of_bind {α β : Type} {o : Option α} {f : α → β} {left rest : Bytes} {b : β}
    (h : (o.bind fun a => some (f a, left)) = some (b, rest)) :
    rest = left ∧ ∀ more : Bytes, (o.bind fun a => some (f a, more)) = some (b, more) := by
  obtain ⟨a, rfl, he⟩ := Option.bind_eq_some_iff.mp h
  obtain ⟨rfl, rfl⟩ := Prod.mk.inj (Option.some.inj he)
  exact ⟨rfl, fun _ => rfl⟩

namespace Local

variable {α β : Type} {read : Bytes → Option (α × Bytes)}

theorem length_le (hread : Local read) {bytes rest : Bytes} {a : α}
    (h : read bytes = some (a, rest)) : rest.length ≤ bytes.length := by
  obtain ⟨used, rfl, -⟩ := hread _ _ _ h
  simp

theorem map (hread : Local read) {f : α × Bytes → β × Bytes} (g : α → β)
    (hf : ∀ a left, f (a, left) = (g a, left)) : Local fun bytes => (read bytes).map f := by
  intro bytes b rest h
  obtain ⟨⟨a, left⟩, ha, he⟩ := Option.map_eq_some_iff.mp h
  obtain ⟨rfl, rfl⟩ := Prod.mk.inj ((hf a left).symm.trans he)
  obtain ⟨used, rfl, hused⟩ := hread _ _ _ ha
  refine ⟨used, rfl, fun more => ?_⟩
  simp only [hused, Option.map_some, hf]

theorem bind (hread : Local read) {f : α × Bytes → Option (β × Bytes)}
    (hf : ∀ a left b rest, f (a, left) = some (b, rest) →
      rest = left ∧ ∀ more, f (a, more) = some (b, more)) :
    Local fun bytes => (read bytes).bind f := by
  intro bytes b rest h
  obtain ⟨⟨a, left⟩, ha, he⟩ := Option.bind_eq_some_iff.mp h
  obtain ⟨rfl, hmore⟩ := hf a left b rest he
  obtain ⟨used, rfl, hused⟩ := hread _ _ _ ha
  refine ⟨used, rfl, fun more => ?_⟩
  simp only [hused, Option.bind_some, hmore]

/-- Nothing is read by a reader that refuses everything. -/
theorem none : Local fun _ => (Option.none : Option (α × Bytes)) := fun _ _ _ h => by cases h

theorem ite {p : Prop} [Decidable p] {read' : Bytes → Option (α × Bytes)} (hread : p → Local read)
    (hread' : ¬p → Local read') : Local fun bytes => if p then read bytes else read' bytes := by
  by_cases h : p
  · simpa only [if_pos h] using hread h
  · simpa only [if_neg h] using hread' h

theorem varint : Local varint? := fun _ _ _ h =>
  let ⟨used, _, heq, hused⟩ := exists_of_varintWithin? h
  ⟨used, heq, hused⟩

theorem take (n : Nat) : Local (take? n) := by
  intro bytes taken rest h
  obtain ⟨rfl, rfl⟩ := eq_of_take? h
  exact ⟨taken, rfl, take?_append taken⟩

theorem delimitedContent : Local delimitedContent? := by
  intro bytes content rest h
  simp only [delimitedContent?, Option.bind_eq_bind, Option.bind_eq_some_iff] at h
  obtain ⟨⟨n, left⟩, hn, ht⟩ := h
  obtain ⟨used, rfl, hused⟩ := varint _ _ _ hn
  obtain ⟨used', rfl, hused'⟩ := take n _ _ _ ht
  refine ⟨used ++ used', (List.append_assoc _ _ _).symm, fun more => ?_⟩
  simp only [delimitedContent?, List.append_assoc, hused, hused', Option.bind_eq_bind,
    Option.bind_some]

theorem varintField (type : WireType) : Local (varintField? type) :=
  ite (fun _ => varint) (fun _ => none)

theorem fixed64Field (type : WireType) : Local (fixed64Field? type) :=
  ite (fun _ => (take 8).map ofLittleEndian fun _ _ => rfl) (fun _ => none)

theorem delimitedField (type : WireType) : Local (delimitedField? type) :=
  ite (fun _ => delimitedContent) (fun _ => none)

theorem textField (type : WireType) : Local (textField? type) :=
  (delimitedField type).bind fun _ _ _ _ => leaves_of_bind

end Local

/-- A reader that gives nothing but what it leaves does not look ahead. -/
def LocalSkip (skip : Bytes → Option Bytes) : Prop :=
  ∀ bytes rest, skip bytes = some rest →
    ∃ used, bytes = used ++ rest ∧ ∀ more, skip (used ++ more) = some more

theorem Local.skip {α : Type} {read : Bytes → Option (α × Bytes)} (hread : Local read) :
    LocalSkip fun bytes => (read bytes).map (·.2) := by
  intro bytes rest h
  obtain ⟨⟨a, left⟩, ha, rfl⟩ := Option.map_eq_some_iff.mp h
  obtain ⟨used, rfl, hused⟩ := hread _ _ _ ha
  refine ⟨used, rfl, fun more => ?_⟩
  simp only [hused, Option.map_some]

/-- The fields of a group are at most as many as its bytes, so these cover the steps, whatever follows. -/
theorem exists_of_skipGroup? {inner : Nat → WireType → Bytes → Option Bytes}
    (hinner : ∀ m type, LocalSkip (inner m type)) {number n : Nat} {bytes rest : Bytes}
    (h : skipGroup? inner number n bytes = some rest) :
    ∃ used, bytes = used ++ rest ∧
      ∀ steps more, used.length ≤ steps → skipGroup? inner number steps (used ++ more) = some more := by
  induction n generalizing bytes with
  | zero => simp [skipGroup?] at h
  | succ n ih =>
    simp only [skipGroup?, Option.bind_eq_bind, Option.bind_eq_some_iff, Option.pure_def] at h
    obtain ⟨⟨⟨m, type⟩, left⟩, hkey, h⟩ := h
    obtain ⟨key, hne, rfl, hused⟩ := exists_of_key? hkey
    have hpos := List.length_pos_of_ne_nil hne
    simp only at h
    split_ifs at h with hend hnumber
    · obtain rfl := Option.some.inj h
      refine ⟨key, rfl, fun steps more hsteps => ?_⟩
      obtain ⟨steps, rfl⟩ := Nat.exists_eq_succ_of_ne_zero (show steps ≠ 0 by omega)
      simp only [skipGroup?, hused, Option.bind_eq_bind, Option.bind_some, if_pos hend, if_pos hnumber,
        Option.pure_def]
    · obtain ⟨left', hskip, hnext⟩ := Option.bind_eq_some_iff.mp h
      obtain ⟨content, rfl, hcontent⟩ := hinner m type _ _ hskip
      obtain ⟨others, rfl, hothers⟩ := ih hnext
      refine ⟨key ++ (content ++ others), by simp only [List.append_assoc], fun steps more hsteps => ?_⟩
      obtain ⟨steps, rfl⟩ := Nat.exists_eq_succ_of_ne_zero (show steps ≠ 0 by
        rw [List.length_append] at hsteps
        omega)
      have hrest : others.length ≤ steps := by
        simp only [List.length_append] at hsteps
        omega
      simp only [List.append_assoc, skipGroup?, hused, Option.bind_eq_bind, Option.bind_some,
        if_neg hend, hcontent, hothers steps more hrest]

theorem localSkip_skip? (budget number : Nat) (type : WireType) : LocalSkip (skip? budget number type) := by
  induction budget generalizing number type with
  | zero => exact fun _ _ h => by simp [skip?] at h
  | succ budget ih =>
    cases type with
    | varint => exact Local.varint.skip
    | fixed64 => exact (Local.take 8).skip
    | delimited => exact Local.delimitedContent.skip
    | groupStart =>
      intro bytes rest h
      obtain ⟨used, rfl, hused⟩ := exists_of_skipGroup? ih h
      exact ⟨used, rfl, fun more => hused _ more (by simp)⟩
    | groupEnd => exact fun _ _ h => by simp [skip?] at h
    | fixed32 => exact (Local.take 4).skip

theorem Local.skipped {σ : Type} (budget number : Nat) (type : WireType) (s : σ) :
    Local (skipped budget number type s) := by
  intro bytes s' rest h
  obtain ⟨left, hskip, he⟩ := Option.map_eq_some_iff.mp h
  obtain ⟨rfl, rfl⟩ := Prod.mk.inj he
  obtain ⟨used, rfl, hused⟩ := localSkip_skip? _ _ _ _ _ hskip
  refine ⟨used, rfl, fun more => ?_⟩
  simp only [Wire.skipped, hused, Option.map_some]

/-- The later one of two readings of a field, unless it is the default, which is left out. -/
def later {α : Type} [DecidableEq α] (default first second : α) : α :=
  if second = default then first else second

@[simp] theorem later_default {α : Type} [DecidableEq α] (default a : α) :
    later default default a = a := by
  by_cases h : a = default
  · rw [later, if_pos h, h]
  · rw [later, if_neg h]

section Fold

variable {σ : Type} {step : Nat → WireType → σ → Bytes → Option (σ × Bytes)}

/-- Any count of steps that covers the bytes gives the same. -/
theorem mergeWithin_eq_mergeFields (hstep : ∀ number type s, Local (step number type s)) {n : Nat}
    {s : σ} {bytes : Bytes} (hn : bytes.length ≤ n) :
    mergeWithin step n s bytes = mergeFields step s bytes := by
  suffices h : ∀ n m s bytes, bytes.length ≤ n → bytes.length ≤ m →
      mergeWithin step n s bytes = mergeWithin step m s bytes from h n _ s bytes hn le_rfl
  clear hn bytes s n
  intro n
  induction n with
  | zero =>
    intro m s bytes hn _
    obtain rfl : bytes = [] := List.length_eq_zero_iff.mp (by omega)
    cases m <;> rfl
  | succ n ih =>
    intro m s bytes hn hm
    cases bytes with
    | nil => cases m <;> rfl
    | cons b bytes =>
      cases m with
      | zero => simp at hm
      | succ m =>
        simp only [mergeWithin, Option.bind_eq_bind]
        refine Option.bind_congr ?_
        rintro ⟨⟨number, type⟩, left⟩ hkey
        refine Option.bind_congr ?_
        rintro ⟨s', rest⟩ hrest
        have hlt := length_lt_of_key? hkey
        have hle : rest.length ≤ left.length := (hstep _ _ _).length_le hrest
        simp only [List.length_cons] at hn hm hlt
        exact ih m s' rest (by omega) (by omega)

@[simp] theorem mergeFields_nil (s : σ) : mergeFields step s [] = some s := rfl

/-- The fold takes the field in front and goes on with what that leaves. -/
theorem mergeFields_of_key? (hstep : ∀ number type s, Local (step number type s)) {bytes left : Bytes}
    {number : Nat} {type : WireType} (hkey : key? bytes = some ((number, type), left)) (s : σ) :
    mergeFields step s bytes =
      (step number type s left).bind fun (s, rest) => mergeFields step s rest := by
  have hshort := length_lt_of_key? hkey
  obtain ⟨b, tail, rfl⟩ := List.exists_cons_of_length_pos (Nat.zero_lt_of_lt hshort)
  rw [mergeFields, List.length_cons, mergeWithin, hkey]
  simp only [Option.bind_eq_bind, Option.bind_some]
  refine Option.bind_congr ?_
  rintro ⟨s', rest⟩ hrest
  have hle : rest.length ≤ left.length := (hstep _ _ _).length_le hrest
  rw [List.length_cons] at hshort
  exact mergeWithin_eq_mergeFields hstep (show rest.length ≤ tail.length by omega)

theorem mergeFields_key (hstep : ∀ number type s, Local (step number type s)) {number : Nat}
    (hpos : 0 < number) (hlt : number < 2 ^ 29) (type : WireType) (s : σ) (bytes : Bytes) :
    mergeFields step s (key number type ++ bytes) =
      (step number type s bytes).bind fun (s, rest) => mergeFields step s rest :=
  mergeFields_of_key? hstep (key?_key type bytes hpos hlt) s

/-- A message that more fields follow is the state that they are folded into. -/
theorem mergeFields_append (hstep : ∀ number type s, Local (step number type s)) {s s' : σ}
    {bytes : Bytes} (h : mergeFields step s bytes = some s') (more : Bytes) :
    mergeFields step s (bytes ++ more) = mergeFields step s' more := by
  suffices hwithin : ∀ n s bytes, mergeWithin step n s bytes = some s' →
      mergeFields step s (bytes ++ more) = mergeFields step s' more from hwithin _ s bytes h
  clear h bytes s
  intro n
  induction n with
  | zero =>
    intro s bytes h
    cases bytes with
    | nil => cases h; rfl
    | cons b bytes => cases h
  | succ n ih =>
    intro s bytes h
    cases bytes with
    | nil => cases h; rfl
    | cons b bytes =>
      simp only [mergeWithin, Option.bind_eq_bind, Option.bind_eq_some_iff] at h
      obtain ⟨⟨⟨number, type⟩, left⟩, hkey, ⟨s₁, rest⟩, hfield, hrest⟩ := h
      obtain ⟨front, -, heq, hfront⟩ := exists_of_key? hkey
      obtain ⟨content, rfl, hcontent⟩ := hstep _ _ _ _ _ _ hfield
      rw [heq, List.append_assoc, List.append_assoc, mergeFields_of_key? hstep (hfront _), hcontent]
      exact ih s₁ rest hrest

theorem mergeFields_delimited (hstep : ∀ number type s, Local (step number type s)) {number : Nat}
    (hpos : 0 < number) (hlt : number < 2 ^ 29) (s : σ) (content rest : Bytes) :
    mergeFields step s (delimited number content ++ rest) =
      (step number .delimited s (varint content.length ++ (content ++ rest))).bind
        fun (s, rest) => mergeFields step s rest := by
  rw [delimited, List.append_assoc, List.append_assoc]
  exact mergeFields_key hstep hpos hlt .delimited s _

/-- A text reads into its place in the state. An empty one is left out and leaves what was there. -/
theorem mergeFields_text (hstep : ∀ number type s, Local (step number type s)) {number : Nat}
    (hpos : 0 < number) (hlt : number < 2 ^ 29) {s : σ} {f : String → σ}
    (hfield : ∀ bytes, step number .delimited s bytes =
      (textField? .delimited bytes).map fun (t, rest) => (f t, rest))
    {old : String} (hold : f old = s) {t : String} (hlen : (Text.utf8 t).length < 2 ^ 64)
    (rest : Bytes) :
    mergeFields step s (textUnlessEmpty number t ++ rest) =
      mergeFields step (f (later "" old t)) rest := by
  by_cases ht : t = ""
  · rw [textUnlessEmpty, later, if_pos ht, if_pos ht, List.nil_append, hold]
  · rw [textUnlessEmpty, later, if_neg ht, if_neg ht, mergeFields_delimited hstep hpos hlt, hfield,
      textField?_append rest hlen]
    rfl

/-- A number reads into its place in the state. Zero is left out and leaves what was there. -/
theorem mergeFields_number (hstep : ∀ number type s, Local (step number type s)) {number : Nat}
    (hpos : 0 < number) (hlt : number < 2 ^ 29) {s : σ} {α : Type} [DecidableEq α] {f : α → σ}
    {g : Nat → α} (hfield : ∀ bytes, step number .varint s bytes =
      (varintField? .varint bytes).map fun (n, rest) => (f (g n), rest))
    {old : α} (hold : f old = s) {default a : α} {n : Int} (hzero : n = 0 ↔ a = default)
    (hread : g (twosComplement n) = a) (rest : Bytes) :
    mergeFields step s (numberUnlessZero number n ++ rest) =
      mergeFields step (f (later default old a)) rest := by
  by_cases hn : n = 0
  · rw [numberUnlessZero, later, if_pos hn, if_pos (hzero.mp hn), List.nil_append, hold]
  · rw [numberUnlessZero, later, if_neg hn, if_neg (mt hzero.mpr hn), List.append_assoc,
      mergeFields_key hstep hpos hlt, hfield, varintField?, if_pos rfl,
      varint?_varint _ _ (twosComplement_lt n), ← hread]
    rfl

end Fold

theorem length_le_textUnlessEmpty (number : Nat) (t : String) :
    (Text.utf8 t).length ≤ (textUnlessEmpty number t).length := by
  rw [textUnlessEmpty]
  split_ifs with h
  · subst h
    rfl
  · exact (length_delimited number _).le

end Telemetry.Wire
