import Mathlib.Tactic
import Telemetry.Wire.Message

/-!
# Numbers on the wire

Each number reads back from its bytes, whatever follows them: groups of seven bits up to 64 bits, words
of a fixed width up to that width, and numbers with a sign through their 64-bit form. And whatever is
read as a number is read as that number again, whatever follows.
-/
namespace Telemetry.Wire

/-- The last of `k + 1` bytes holds one bit, so they hold the numbers below `2 * 128 ^ k`. -/
theorem varintWithin?_varint (k n : Nat) (rest : Bytes) (h : n < 2 * 128 ^ k) :
    varintWithin? (k + 1) (varint n ++ rest) = some (n, rest) := by
  induction k generalizing n with
  | zero =>
    have hb : (UInt8.ofNat n).toNat = n := by simp; omega
    rw [varint, if_pos (by omega)]
    simp only [List.cons_append, List.nil_append, varintWithin?, hb]
    rw [if_pos (by omega), if_neg (by omega)]
  | succ k ih =>
    by_cases hn : n < 128
    · have hb : (UInt8.ofNat n).toNat = n := by simp; omega
      rw [varint, if_pos hn]
      simp [varintWithin?, hb, hn]
    · have hb : (UInt8.ofNat (n % 128 + 128)).toNat = n % 128 + 128 := by simp; omega
      have hk : n / 128 < 2 * 128 ^ k := by rw [pow_succ] at h; omega
      rw [varint, if_neg hn, List.cons_append, varintWithin?, hb, if_neg (by omega), ih _ hk]
      simp only [Option.map_some, Option.some.injEq, Prod.mk.injEq, and_true]
      omega

theorem varint?_varint (n : Nat) (rest : Bytes) (h : n < 2 ^ 64) :
    varint? (varint n ++ rest) = some (n, rest) :=
  varintWithin?_varint 9 n rest (by omega)

theorem varint_ne_nil (n : Nat) : varint n ≠ [] := by
  rw [varint]
  split <;> simp

/-- The bytes that a number is read from decide it, whatever follows them. -/
theorem exists_of_varintWithin? {k : Nat} {bytes rest : Bytes} {n : Nat}
    (h : varintWithin? k bytes = some (n, rest)) :
    ∃ used, used ≠ [] ∧ bytes = used ++ rest ∧
      ∀ more, varintWithin? k (used ++ more) = some (n, more) := by
  induction k generalizing bytes n with
  | zero => simp [varintWithin?] at h
  | succ k ih =>
    cases bytes with
    | nil => simp [varintWithin?] at h
    | cons b bytes =>
      simp only [varintWithin?] at h
      split_ifs at h with hb hlast
      · obtain ⟨rfl, rfl⟩ := Prod.mk.inj (Option.some.inj h)
        refine ⟨[b], List.cons_ne_nil _ _, rfl, fun more => ?_⟩
        rw [List.singleton_append, varintWithin?, if_pos hb, if_neg hlast]
      · obtain ⟨⟨m, left⟩, hm, he⟩ := Option.map_eq_some_iff.mp h
        obtain ⟨rfl, rfl⟩ := Prod.mk.inj he
        obtain ⟨used, -, rfl, hused⟩ := ih hm
        refine ⟨b :: used, List.cons_ne_nil _ _, rfl, fun more => ?_⟩
        rw [List.cons_append, varintWithin?, if_neg hb, hused]
        rfl

theorem take?_eq (n : Nat) (bytes : Bytes) :
    take? n bytes = if n ≤ bytes.length then some (bytes.take n, bytes.drop n) else none := by
  induction n generalizing bytes with
  | zero => simp [take?]
  | succ n ih =>
    cases bytes with
    | nil => simp [take?]
    | cons b bytes =>
      simp only [take?, ih, List.length_cons, Nat.add_le_add_iff_right]
      split <;> simp

theorem take?_append (content rest : Bytes) :
    take? content.length (content ++ rest) = some (content, rest) := by
  simp [take?_eq]

theorem eq_of_take? {n : Nat} {bytes taken rest : Bytes} (h : take? n bytes = some (taken, rest)) :
    bytes = taken ++ rest ∧ taken.length = n := by
  rw [take?_eq] at h
  split_ifs at h with hn
  obtain ⟨rfl, rfl⟩ := Prod.mk.inj (Option.some.inj h)
  exact ⟨(List.take_append_drop n bytes).symm, List.length_take_of_le hn⟩

@[simp] theorem length_littleEndian (width n : Nat) : (littleEndian width n).length = width := by
  induction width generalizing n with
  | zero => rfl
  | succ width ih => simp [littleEndian, ih]

theorem ofLittleEndian_littleEndian (width n : Nat) (h : n < 256 ^ width) :
    ofLittleEndian (littleEndian width n) = n := by
  induction width generalizing n with
  | zero => simp_all [littleEndian, ofLittleEndian]
  | succ width ih =>
    have hb : (UInt8.ofNat (n % 256)).toNat = n % 256 := by simp
    have hn : n / 256 < 256 ^ width := by rw [pow_succ] at h; omega
    rw [littleEndian, ofLittleEndian, hb, ih _ hn]
    omega

theorem twosComplement_eq (n : Int) : twosComplement n = (n % 2 ^ 64).toNat := rfl

theorem twosComplement_lt (n : Int) : twosComplement n < 2 ^ 64 := by
  rw [twosComplement_eq]
  omega

/-- The low bits of the 64-bit form of a number that fits a narrower word are that number. -/
theorem bmod_twosComplement {n : Int} {size : Nat} (hsize : size ∣ 2 ^ 64) (hlow : -size ≤ n * 2)
    (hhigh : n * 2 < size) : (twosComplement n : Int).bmod size = n := by
  have hcast : (twosComplement n : Int) = n % 2 ^ 64 := by rw [twosComplement_eq]; omega
  have hdvd : (size : Int) ∣ 2 ^ 64 := by exact_mod_cast hsize
  calc (twosComplement n : Int).bmod size
      = (n % 2 ^ 64 % size).bmod size := by rw [hcast, Int.emod_bmod]
    _ = (n % size).bmod size := by rw [Int.emod_emod_of_dvd n hdvd]
    _ = n.bmod size := Int.emod_bmod n size
    _ = n := Int.bmod_eq_of_le_mul_two hlow hhigh

theorem int32_ofNat_twosComplement (n : Int32) : Int32.ofNat (twosComplement n.toInt) = n := by
  have hlow := n.le_toInt
  have hhigh := n.toInt_lt
  apply Int32.toInt_inj.mp
  rw [Int32.toInt_ofNat']
  exact bmod_twosComplement (by decide) (by simp only [Int32.size]; omega)
    (by simp only [Int32.size]; omega)

theorem int64_ofNat_twosComplement (n : Int64) : Int64.ofNat (twosComplement n.toInt) = n := by
  have hlow := n.le_toInt
  have hhigh := n.toInt_lt
  apply Int64.toInt_inj.mp
  rw [Int64.toInt_ofNat']
  exact bmod_twosComplement (by decide) (by simp only [Int64.size]; omega)
    (by simp only [Int64.size]; omega)

end Telemetry.Wire
