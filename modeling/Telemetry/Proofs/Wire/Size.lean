import Telemetry.Proofs.Wire.Message

/-!
# Sizes on the wire

Canonical bytes against the bytes that were received. No number is written in more bytes than it was read
from, apart from negative numbers of 32 bits, which may double. A run of bytes whose content at most doubles
at most doubles with its key and length, also when it is added to content that was there before. So twice
the received bytes bound the canonical ones, whatever is inside.
-/
namespace Telemetry.Wire

theorem length_varint_le_iff (k n : Nat) : (varint n).length ≤ k + 1 ↔ n < 128 ^ (k + 1) := by
  induction k generalizing n with
  | zero =>
    have hpos := List.length_pos_of_ne_nil (varint_ne_nil (n / 128))
    rw [varint]
    split_ifs with hn
    · simpa using hn
    · rw [List.length_cons]
      omega
  | succ k ih =>
    have hpow : 128 ^ (k + 1 + 1) = 128 ^ (k + 1) * 128 := pow_succ _ _
    have hpos : 0 < 128 ^ (k + 1) := by positivity
    rw [varint]
    split_ifs with hn
    · simp only [List.length_singleton]
      omega
    · have hdiv : n / 128 < 128 ^ (k + 1) ↔ n < 128 ^ (k + 1) * 128 :=
        Nat.div_lt_iff_lt_mul (by decide)
      rw [List.length_cons, Nat.add_le_add_iff_right, ih, hdiv, hpow]

theorem length_varint_mono {m n : Nat} (h : m ≤ n) : (varint m).length ≤ (varint n).length := by
  obtain ⟨k, hk⟩ := Nat.exists_eq_succ_of_ne_zero (List.length_pos_of_ne_nil (varint_ne_nil n)).ne'
  rw [hk, Nat.succ_eq_add_one, length_varint_le_iff]
  exact h.trans_lt ((length_varint_le_iff k n).mp hk.le)

theorem length_varint_two_mul_le (n : Nat) : (varint (2 * n)).length ≤ (varint n).length + 1 := by
  rw [varint]
  split_ifs
  · simp
  · have := length_varint_mono (show 2 * n / 128 ≤ n by omega)
    rw [List.length_cons]
    omega

theorem length_varint_add_le (m n : Nat) :
    (varint (m + n)).length ≤ (varint m).length + (varint n).length := by
  have hm := List.length_pos_of_ne_nil (varint_ne_nil m)
  have hn := List.length_pos_of_ne_nil (varint_ne_nil n)
  obtain h | h := Nat.le_total m n
  · have := length_varint_mono (show m + n ≤ 2 * n by omega)
    have := length_varint_two_mul_le n
    omega
  · have := length_varint_mono (show m + n ≤ 2 * m by omega)
    have := length_varint_two_mul_le m
    omega

theorem length_varint_of_lt {n : Nat} (h : n < 128) : (varint n).length = 1 := by
  rw [varint, if_pos h, List.length_singleton]

theorem lt_of_varintWithin? {k n : Nat} {bytes rest : Bytes}
    (h : varintWithin? (k + 1) bytes = some (n, rest)) : n < 2 * 128 ^ k := by
  induction k generalizing bytes rest n with
  | zero =>
    cases bytes with
    | nil => simp [varintWithin?] at h
    | cons b bytes =>
      rw [varintWithin?] at h
      split_ifs at h
      · obtain ⟨rfl, -⟩ := Prod.mk.inj (Option.some.inj h)
        omega
      · simp [varintWithin?] at h
  | succ k ih =>
    cases bytes with
    | nil => simp [varintWithin?] at h
    | cons b bytes =>
      have hpow : 128 ^ (k + 1) = 128 ^ k * 128 := pow_succ _ _
      have hpos : 0 < 128 ^ k := by positivity
      rw [varintWithin?] at h
      split_ifs at h
      · obtain ⟨rfl, -⟩ := Prod.mk.inj (Option.some.inj h)
        omega
      · obtain ⟨⟨m, left⟩, hm, he⟩ := Option.map_eq_some_iff.mp h
        obtain ⟨rfl, -⟩ : b.toNat - 128 + 128 * m = n ∧ left = rest := Prod.mk.inj he
        have := ih hm
        have := b.toNat_lt
        omega

/-- No number is read from fewer bytes than its own. -/
theorem length_varint_le_of_varintWithin? {k n : Nat} {bytes rest : Bytes}
    (h : varintWithin? k bytes = some (n, rest)) : (varint n).length + rest.length ≤ bytes.length := by
  induction k generalizing bytes n with
  | zero => simp [varintWithin?] at h
  | succ k ih =>
    cases bytes with
    | nil => simp [varintWithin?] at h
    | cons b bytes =>
      simp only [varintWithin?] at h
      split_ifs at h with hb hlast
      · obtain ⟨rfl, rfl⟩ := Prod.mk.inj (Option.some.inj h)
        rw [varint, if_pos hb, List.length_singleton, List.length_cons]
        omega
      · obtain ⟨⟨m, left⟩, hm, he⟩ := Option.map_eq_some_iff.mp h
        obtain ⟨rfl, rfl⟩ : b.toNat - 128 + 128 * m = n ∧ left = rest := Prod.mk.inj he
        have hsize := ih hm
        have hdiv : (b.toNat - 128 + 128 * m) / 128 ≤ m := by
          have := b.toNat_lt
          omega
        have hmono := length_varint_mono hdiv
        rw [varint, List.length_cons]
        split_ifs
        · rw [List.length_singleton]
          omega
        · rw [List.length_cons]
          omega

theorem length_varint_twosComplement_le (n : Int) : (varint (twosComplement n)).length ≤ 10 :=
  (length_varint_le_iff 9 _).mpr ((twosComplement_lt n).trans (by norm_num))

/-- A negative number of 32 bits is read from at least five bytes and written in ten. -/
theorem length_varint_int32_le (n : Nat) :
    (varint (twosComplement (Int32.ofNat n).toInt)).length ≤ 2 * (varint n).length := by
  have hint : (Int32.ofNat n).toInt = (n : Int).bmod (2 ^ 32) := Int32.toInt_ofNat'
  rw [Int.bmod_def] at hint
  by_cases hneg : (Int32.ofNat n).toInt < 0
  · have hlarge : ¬(varint n).length ≤ 4 := by
      rw [length_varint_le_iff 3]
      split_ifs at hint <;> omega
    have := length_varint_twosComplement_le (Int32.ofNat n).toInt
    omega
  · have hle : twosComplement (Int32.ofNat n).toInt ≤ n := by
      rw [twosComplement_eq]
      split_ifs at hint <;> omega
    have := length_varint_mono hle
    omega

theorem length_varint_int64_le {n : Nat} (h : n < 2 ^ 64) :
    (varint (twosComplement (Int64.ofNat n).toInt)).length ≤ (varint n).length := by
  have hint : (Int64.ofNat n).toInt = (n : Int).bmod (2 ^ 64) := Int64.toInt_ofNat'
  rw [Int.bmod_def] at hint
  refine length_varint_mono ?_
  rw [twosComplement_eq]
  split_ifs at hint <;> omega

theorem length_key {number : Nat} (h : number < 16) (type : WireType) : (key number type).length = 1 := by
  have := type.code_lt
  rw [key, varint, if_pos (by omega), List.length_singleton]

theorem length_delimited_eq {number : Nat} (h : number < 16) (content : Bytes) :
    (delimited number content).length = 1 + (varint content.length).length + content.length := by
  rw [delimited, List.length_append, List.length_append, length_key h, Nat.add_assoc]

/-- A run of bytes that is at most doubled at most doubles with its key and length. -/
theorem length_delimited_le {number n : Nat} (h : number < 16) {content : Bytes}
    (hcontent : content.length ≤ 2 * n) :
    (delimited number content).length ≤ 2 * (1 + (varint n).length + n) := by
  have hmono := length_varint_mono hcontent
  have hdouble := length_varint_two_mul_le n
  rw [length_delimited_eq h]
  omega

/-- The same for what is added to content that was there before. -/
theorem length_delimited_le_add {number n : Nat} (h : number < 16) {held content : Bytes}
    (hcontent : content.length ≤ held.length + 2 * n) :
    (delimited number content).length ≤
      (delimited number held).length + 2 * (1 + (varint n).length + n) := by
  have hmono := length_varint_mono hcontent
  have hadd := length_varint_add_le held.length (2 * n)
  have hdouble := length_varint_two_mul_le n
  rw [length_delimited_eq h, length_delimited_eq h]
  omega

theorem length_of_delimitedContent? {bytes content rest : Bytes}
    (h : delimitedContent? bytes = some (content, rest)) :
    (varint content.length).length + content.length + rest.length ≤ bytes.length := by
  simp only [delimitedContent?, Option.bind_eq_bind, Option.bind_eq_some_iff] at h
  obtain ⟨⟨n, left⟩, hn, htake⟩ := h
  obtain ⟨rfl, rfl⟩ := eq_of_take? htake
  have := length_varint_le_of_varintWithin? hn
  rw [List.length_append] at this
  omega

theorem length_of_delimitedField? {type : WireType} {bytes content rest : Bytes}
    (h : delimitedField? type bytes = some (content, rest)) :
    (varint content.length).length + content.length + rest.length ≤ bytes.length := by
  rw [delimitedField?] at h
  split_ifs at h
  exact length_of_delimitedContent? h

theorem length_of_textField? {type : WireType} {bytes rest : Bytes} {t : String}
    (h : textField? type bytes = some (t, rest)) :
    (varint (Text.utf8 t).length).length + (Text.utf8 t).length + rest.length ≤ bytes.length := by
  simp only [textField?, Option.bind_eq_bind, Option.bind_eq_some_iff, Option.pure_def,
    Option.some.injEq, Prod.mk.injEq] at h
  obtain ⟨⟨content, left⟩, hcontent, t, htext, rfl, hrest⟩ := h
  obtain rfl : left = rest := hrest
  obtain rfl := Text.utf8_of_ofUtf8? htext
  exact length_of_delimitedField? hcontent

theorem length_textUnlessEmpty_le {number : Nat} (h : number < 16) (t : String) :
    (textUnlessEmpty number t).length ≤
      1 + (varint (Text.utf8 t).length).length + (Text.utf8 t).length := by
  rw [textUnlessEmpty]
  split_ifs
  · simp
  · rw [length_delimited_eq h]

theorem length_of_varintField? {type : WireType} {bytes rest : Bytes} {n : Nat}
    (h : varintField? type bytes = some (n, rest)) :
    (varint n).length + rest.length ≤ bytes.length := by
  rw [varintField?] at h
  split_ifs at h
  exact length_varint_le_of_varintWithin? h

theorem lt_of_varintField? {type : WireType} {bytes rest : Bytes} {n : Nat}
    (h : varintField? type bytes = some (n, rest)) : n < 2 ^ 64 := by
  rw [varintField?] at h
  split_ifs at h
  exact lt_of_varintWithin? (k := 9) h

theorem length_numberUnlessZero_le {number : Nat} (h : number < 16) (n : Int) :
    (numberUnlessZero number n).length ≤ 1 + (varint (twosComplement n)).length := by
  rw [numberUnlessZero]
  split_ifs
  · simp
  · rw [List.length_append, length_key h]

end Telemetry.Wire
