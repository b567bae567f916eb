import Telemetry.Proofs.Binary64

/-!
# The numbers that words stand for

A binary interchange format has a sign bit, an exponent and a fraction, and says as a formula what number a
word stands for. The doubles of this library are those of the format with 11 and 52 bits, and a number in the
format with 8 and 23 bits becomes the double of the same number.
-/
namespace Telemetry

structure BinaryFormat where
  exponentBits : Nat
  fractionBits : Nat

namespace BinaryFormat

def single : BinaryFormat := ⟨8, 23⟩

def double : BinaryFormat := ⟨11, 52⟩

variable (f : BinaryFormat) (word : Nat)

def fraction : Nat := word % 2 ^ f.fractionBits

def exponent : Nat := word / 2 ^ f.fractionBits % 2 ^ f.exponentBits

def isNegative : Bool := decide (word / 2 ^ (f.fractionBits + f.exponentBits) % 2 = 1)

def bias : Nat := 2 ^ (f.exponentBits - 1) - 1

/-- The largest exponent is that of the infinities and of what is no number. -/
def IsFinite : Prop := f.exponent word ≠ 2 ^ f.exponentBits - 1

/-- The number that a finite word stands for. -/
def value : ℚ :=
  (if f.isNegative word then -1 else 1) *
    if f.exponent word = 0 then f.fraction word * (2 : ℚ) ^ (1 - f.bias - f.fractionBits : ℤ)
    else (2 ^ f.fractionBits + f.fraction word) *
      (2 : ℚ) ^ (f.exponent word - f.bias - f.fractionBits : ℤ)

/-- The magnitude of a finite word, counted in the smallest one above zero. -/
def steps : Nat :=
  if f.exponent word = 0 then f.fraction word
  else (2 ^ f.fractionBits + f.fraction word) * 2 ^ (f.exponent word - 1)

theorem value_eq : f.value word = (if f.isNegative word then -1 else 1) *
    (f.steps word * (2 : ℚ) ^ (1 - f.bias - f.fractionBits : ℤ)) := by
  rw [value, steps]
  congr 1
  split_ifs with h
  · rfl
  · have hexponent : (f.exponent word - f.bias - f.fractionBits : ℤ) =
        (f.exponent word - 1 : ℕ) + (1 - f.bias - f.fractionBits) := by omega
    rw [hexponent, zpow_add₀ two_ne_zero, zpow_natCast]
    push_cast
    ring

/-- The steps of a word from the word without its sign, whose part above the fraction is the exponent. -/
theorem steps_eq {unsigned : Nat} (h : unsigned = word % 2 ^ (f.fractionBits + f.exponentBits)) :
    f.steps word = (unsigned - (unsigned / 2 ^ f.fractionBits - 1) * 2 ^ f.fractionBits) *
      2 ^ (unsigned / 2 ^ f.fractionBits - 1) := by
  rw [pow_add] at h
  have hexponent : unsigned / 2 ^ f.fractionBits = f.exponent word := by
    rw [h, Nat.mod_mul_right_div_self, exponent]
  have hfraction : unsigned % 2 ^ f.fractionBits = f.fraction word := by
    rw [h, Nat.mod_mul_right_mod, fraction]
  have hunsigned := Nat.div_add_mod unsigned (2 ^ f.fractionBits)
  rw [hexponent, hfraction] at hunsigned
  rw [hexponent, steps]
  split_ifs with hzero
  · rw [hzero] at hunsigned ⊢
    rw [← hunsigned]
    simp
  · obtain ⟨e, he⟩ := Nat.exists_eq_succ_of_ne_zero hzero
    rw [he] at hunsigned ⊢
    rw [← hunsigned, Nat.succ_sub_one, Nat.mul_succ, Nat.mul_comm e, Nat.add_assoc,
      Nat.add_sub_cancel_left]

/-- The steps of a word as a count, one bit longer than the fraction, in a gap below the exponent. -/
theorem exists_count : ∃ count gap, f.steps word = count * 2 ^ gap ∧ count < 2 ^ (f.fractionBits + 1) ∧
    gap < 2 ^ f.exponentBits := by
  have hfraction : f.fraction word < 2 ^ f.fractionBits := Nat.mod_lt _ (Nat.two_pow_pos _)
  have hexponent : f.exponent word < 2 ^ f.exponentBits := Nat.mod_lt _ (Nat.two_pow_pos _)
  rw [steps, pow_succ]
  split_ifs with hzero
  · exact ⟨f.fraction word, 0, by simp, by omega, Nat.two_pow_pos _⟩
  · exact ⟨_, _, rfl, by omega, by omega⟩

end BinaryFormat

namespace Binary64

open BinaryFormat

theorem isNegative_eq (x : Binary64) : x.isNegative = double.isNegative x.bits.toNat := by
  have hlt := x.bits.toNat_lt
  rw [isNegative, BinaryFormat.isNegative, decide_eq_decide]
  simp only [double, Nat.pow_eq]
  omega

theorem steps_word (x : Binary64) : steps x.word = double.steps x.bits.toNat :=
  (double.steps_eq x.bits.toNat (show x.word = _ from rfl)).symm

/-- The number that a finite double stands for. -/
def real (x : Binary64) : ℚ := double.value x.bits.toNat

theorem real_eq (x : Binary64) : x.real = x.value / stepsPerOne := by
  have hscale : (2 : ℚ) ^ (1 - double.bias - double.fractionBits : ℤ) = (stepsPerOne : ℚ)⁻¹ := by
    rw [stepsPerOne_eq, Nat.cast_pow, Nat.cast_ofNat, ← zpow_natCast, ← zpow_neg]
    rfl
  rw [real, value_eq, hscale, ← steps_word, ← isNegative_eq, value, div_eq_mul_inv]
  split_ifs <;> push_cast <;> ring

theorem real_le_iff (x y : Binary64) : x.real ≤ y.real ↔ x.value ≤ y.value := by
  have hpos : (0 : ℚ) < stepsPerOne := Nat.cast_pos.mpr stepsPerOne_pos
  rw [real_eq, real_eq, div_le_div_iff_of_pos_right hpos, Int.cast_le]

theorem real_inj (x y : Binary64) : x.real = y.real ↔ x.value = y.value := by
  rw [le_antisymm_iff, le_antisymm_iff, real_le_iff, real_le_iff]

/-- The distance from a whole number, in steps. -/
theorem abs_real_sub (x : Binary64) (n : Int) :
    |x.real - n| = ((x.value - n * stepsPerOne).natAbs : ℚ) / stepsPerOne := by
  have hpos : (0 : ℚ) < stepsPerOne := Nat.cast_pos.mpr stepsPerOne_pos
  have hdiff : x.real - n = ((x.value - n * stepsPerOne : ℤ) : ℚ) / stepsPerOne := by
    rw [real_eq, Int.cast_sub, Int.cast_mul, Int.cast_natCast, sub_div, mul_div_cancel_right₀ _ hpos.ne']
  rw [hdiff, abs_div, abs_of_pos hpos, Nat.cast_natAbs, Int.cast_abs]

/-- The smallest single above zero is `2 ^ singleGap` steps. -/
def singleGap : Nat := 1074 - 149

theorem ofSingle_of_finite {bits : UInt32} (h : single.IsFinite bits.toNat) :
    ofSingle bits = ofWord (single.isNegative bits.toNat)
      (nearestWord (single.steps bits.toNat * 2 ^ singleGap) 1) := by
  have hlt := bits.toNat_lt
  have hfinite : bits.toNat % 2 ^ 31 < 255 * 2 ^ 23 := by
    simp only [IsFinite, exponent, single] at h
    omega
  have hnegative : decide (2 ^ 31 ≤ bits.toNat) = single.isNegative bits.toNat := by
    rw [BinaryFormat.isNegative, decide_eq_decide]
    simp only [single]
    omega
  have hsteps := single.steps_eq bits.toNat (show bits.toNat % 2 ^ 31 = _ from rfl)
  rw [ofSingle, ← hnegative, hsteps]
  exact if_pos hfinite

/-- A single needs no rounding. -/
theorem nearestWord_single (bits : UInt32) :
    nearestWord (single.steps bits.toNat * 2 ^ singleGap) 1 < infinityWord ∧
      steps (nearestWord (single.steps bits.toNat * 2 ^ singleGap) 1) =
        single.steps bits.toNat * 2 ^ singleGap := by
  obtain ⟨count, gap, hsteps, hcount, hgap⟩ := single.exists_count bits.toNat
  have hmagnitude : single.steps bits.toNat * 2 ^ singleGap = count * 2 ^ (gap + singleGap) := by
    rw [hsteps, pow_add, mul_assoc]
  have hlarge : count * 2 ^ (gap + singleGap) < 2 ^ (24 + (gap + singleGap)) := by
    rw [pow_add 2 24]
    exact Nat.mul_lt_mul_of_pos_right hcount (Nat.two_pow_pos _)
  have hsize : 24 + (gap + singleGap) ≤ 2097 := by
    simp only [single, singleGap] at hgap ⊢
    omega
  have hfinite : nearestWord (count * 2 ^ (gap + singleGap)) 1 < infinityWord :=
    nearestWord_lt hsize ((Nat.div_one _).trans_lt hlarge)
  rw [hmagnitude]
  exact ⟨hfinite, steps_nearestWord (hcount.le.trans (by decide)) hfinite⟩

/-- A finite single becomes the finite double of the same number. -/
theorem real_ofSingle {bits : UInt32} (h : single.IsFinite bits.toNat) :
    (ofSingle bits).isFinite = true ∧ (ofSingle bits).real = single.value bits.toNat := by
  obtain ⟨hfinite, hsteps⟩ := nearestWord_single bits
  have hscale : (2 : ℚ) ^ (1 - single.bias - single.fractionBits : ℤ) = 2 ^ singleGap / stepsPerOne := by
    rw [stepsPerOne_eq, Nat.cast_pow, Nat.cast_ofNat, ← zpow_natCast, ← zpow_natCast,
      ← zpow_sub₀ two_ne_zero]
    rfl
  rw [ofSingle_of_finite h, real_eq, value, isNegative_ofWord _ (hfinite.trans infinityWord_lt),
    word_ofWord _ (hfinite.trans infinityWord_lt), hsteps, value_eq, hscale]
  refine ⟨isFinite_ofWord _ hfinite, ?_⟩
  split_ifs <;> push_cast <;> ring

end Binary64
end Telemetry
