import Telemetry.Proofs.Binary64.Format
import Telemetry.Proofs.Json
import Telemetry.Value.Payload

/-!
# Numbers on every path

An integer becomes the same double whether its type is known, known at run time only, or that of a JSON
number. It is the nearest double, so integers keep their order, and those of at most 53 bits their value.
Numbers of single precision always keep theirs.
-/
namespace Telemetry

theorem IntegerType.Holds.inRange {type : IntegerType} {n : Int} (h : type.Holds n) :
    -Nat.pow 2 63 ≤ n ∧ n < Nat.pow 2 64 := by
  obtain ⟨signed, size⟩ := type
  cases signed <;> cases size <;> simp [Holds, width] at h <;> simp <;> omega

theorem IntegerType.Holds.isNearest {type : IntegerType} {n : Int} (h : type.Holds n) :
    (Binary64.ofInt n).IsNearest n :=
  Number.isNearest_ofInt h.inRange

namespace Native

open Binary64

/-- An integer of a type travels as a double. -/
structure Travels (type : IntegerType) (n : Int) (holds : type.Holds n) (x : Binary64) : Prop where
  typed : (integer type n holds).toValue = .number x
  payload : (Payload.leaf (.integer type) (integer type n holds)).toValue = .ok (.number x)
  json : ∃ inRange, Value.ofJson (.number (.integer n inRange)) = .number x
  finite : x.isFinite = true
  /-- No finite double is nearer. -/
  nearest : ∀ y : Binary64, y.isFinite = true → |x.real - n| ≤ |y.real - n|
  /-- If another one is as near, this one is even. -/
  even : ∀ y : Binary64, y.isFinite = true → y.real ≠ x.real → |y.real - n| = |x.real - n| →
    x.word % 2 = 0
  exact : |n| ≤ 2 ^ 53 → x.real = n
  document : (Value.number x).toJson = .number (.double x finite)

theorem travels {type : IntegerType} {n : Int} (holds : type.Holds n) :
    Travels type n holds (ofInt n) := by
  have hnearest := holds.isNearest
  have hpos : (0 : ℚ) < stepsPerOne := Nat.cast_pos.mpr stepsPerOne_pos
  refine ⟨rfl, rfl, ⟨holds.inRange, rfl⟩, hnearest.finite, fun y hy => ?_,
    fun y hy hne hsame => ?_, fun h => ?_, dif_pos hnearest.finite⟩
  · rw [abs_real_sub, abs_real_sub, div_le_div_iff_of_pos_right hpos, Nat.cast_le]
    exact hnearest.nearest y hy
  · rw [abs_real_sub, abs_real_sub, div_left_inj' hpos.ne', Nat.cast_inj] at hsame
    exact hnearest.even y hy (mt (real_inj y _).mpr hne) hsame
  · rw [Int.abs_eq_natAbs] at h
    rw [real_eq, value_ofInt (by omega), Int.cast_mul, Int.cast_natCast, mul_div_cancel_right₀ _ hpos.ne']

/-- How numbers of all types travel. -/
structure NumbersTravel : Prop where
  /-- Every integer of every type is one double on all paths, the nearest one. -/
  integers : ∀ type n holds, ∃ x, Travels type n holds x
  /-- Integers keep their order, whatever their types. -/
  monotone : ∀ type a ha type' b hb x y, (integer type a ha).toValue = .number x →
    (integer type' b hb).toValue = .number y → a ≤ b → x.real ≤ y.real
  /-- Numbers of single precision keep their value. -/
  singles : ∀ bits : UInt32, BinaryFormat.single.IsFinite bits.toNat →
    ∃ y, (single bits).toValue = .number y ∧
      (Payload.leaf .single (single bits)).toValue = .ok (.number y) ∧
      y.isFinite = true ∧ y.real = BinaryFormat.single.value bits.toNat

theorem numbersTravel : NumbersTravel where
  integers _ n holds := ⟨ofInt n, travels holds⟩
  monotone type a ha type' b hb x y hx hy h := by
    obtain rfl : ofInt a = x := Value.number.inj hx
    obtain rfl : ofInt b = y := Value.number.inj hy
    rw [real_le_iff]
    obtain rfl | hlt := h.eq_or_lt
    · exact le_rfl
    · exact ha.isNearest.value_le hb.isNearest hlt
  singles bits h := ⟨ofSingle bits, rfl, rfl, real_ofSingle h⟩

end Native
end Telemetry
