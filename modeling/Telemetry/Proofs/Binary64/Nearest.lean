import Telemetry.Proofs.Binary64

/-!
# Rounding exact magnitudes

Rounding said of an exact magnitude, a rational number of steps. Every magnitude has one nearest word: two
words that were equally near would both be even, so a third one would lie between them and be nearer. A word
is the nearest one of what lies between the points half-way to its two neighbours.
-/
namespace Telemetry.Binary64

/-- No word is nearer to a magnitude, and if another one is as near, this one is even. -/
structure Rounds (q : ℚ) (word : Nat) : Prop where
  nearest : ∀ other, |(steps word : ℚ) - q| ≤ |(steps other : ℚ) - q|
  even : ∀ other, other ≠ word → |(steps other : ℚ) - q| = |(steps word : ℚ) - q| → word % 2 = 0

theorem steps_cast_lt {a b : Nat} (h : a < b) : (steps a : ℚ) < steps b :=
  Nat.cast_lt.mpr (steps_strictMono h)

theorem steps_cast_le {a b : Nat} (h : a ≤ b) : (steps a : ℚ) ≤ steps b :=
  Nat.cast_le.mpr (steps_strictMono.monotone h)

theorem Rounds.le {q : ℚ} {a b : Nat} (ha : Rounds q a) (hb : Rounds q b) : b ≤ a := by
  by_contra hlt
  rw [Nat.not_le] at hlt
  have hsame := le_antisymm (ha.nearest b) (hb.nearest a)
  have heven := ha.even b hlt.ne' hsame.symm
  have heven' := hb.even a hlt.ne hsame
  -- so they are no neighbours, and the word after the first one is nearer
  have hbetween := ha.nearest (a + 1)
  have hlow := steps_cast_lt (show a < a + 1 by omega)
  have hhigh := steps_cast_lt (show a + 1 < b by omega)
  obtain hsame | hsame := abs_eq_abs.mp hsame
  · linarith
  · cases abs_cases ((steps a : ℚ) - q) <;> cases abs_cases ((steps (a + 1) : ℚ) - q) <;> linarith

theorem Rounds.unique {q : ℚ} {a b : Nat} (ha : Rounds q a) (hb : Rounds q b) : a = b :=
  Nat.le_antisymm (hb.le ha) (ha.le hb)

theorem abs_steps_sub_div (num word : Nat) {den : Nat} (hden : 0 < den) :
    |(steps word : ℚ) - num / den| = distance num den word / den := by
  have hpos : (0 : ℚ) < den := Nat.cast_pos.mpr hden
  have hdiff : (steps word : ℚ) - num / den = (steps word * den - num) / den := by
    field_simp
  rw [hdiff, abs_div, abs_of_pos hpos, distance, Nat.cast_natAbs]
  push_cast
  rfl

theorem rounds_div_iff (num word : Nat) {den : Nat} (hden : 0 < den) :
    Rounds (num / den) word ↔ RoundsTo num den word := by
  have hpos : (0 : ℚ) < den := Nat.cast_pos.mpr hden
  have hle (other : Nat) : |(steps word : ℚ) - num / den| ≤ |(steps other : ℚ) - num / den| ↔
      distance num den word ≤ distance num den other := by
    rw [abs_steps_sub_div num word hden, abs_steps_sub_div num other hden, div_le_div_iff_of_pos_right hpos,
      Nat.cast_le]
  have heq (other : Nat) : |(steps other : ℚ) - num / den| = |(steps word : ℚ) - num / den| ↔
      distance num den other = distance num den word := by
    rw [abs_steps_sub_div num word hden, abs_steps_sub_div num other hden, div_left_inj' hpos.ne',
      Nat.cast_inj]
  constructor
  · rintro ⟨hnearest, heven⟩
    exact ⟨fun other => (hle other).mp (hnearest other),
      fun other hne h => heven other hne ((heq other).mpr h)⟩
  · rintro ⟨hnearest, heven⟩
    exact ⟨fun other => (hle other).mpr (hnearest other),
      fun other hne h => heven other hne ((heq other).mp h)⟩

/-- Rounding finds the finite word of a magnitude. -/
theorem Rounds.nearestWord_eq {num den word : Nat} (hden : 0 < den) (h : Rounds (num / den) word)
    (hfinite : word < infinityWord) : nearestWord num den = word := by
  obtain ⟨other, hother, heq⟩ := exists_roundsTo num hden
  obtain rfl := h.unique ((rounds_div_iff num other hden).mpr hother)
  rw [heq, min_eq_left hfinite.le]

theorem rounds_zero : Rounds 0 0 := by
  have hzero : |(steps 0 : ℚ) - 0| = 0 := by
    rw [show steps 0 = 0 from rfl, Nat.cast_zero, sub_zero, abs_zero]
  exact ⟨fun other => hzero.trans_le (abs_nonneg _), fun _ _ _ => rfl⟩

/-- A magnitude `q` lies at most half-way to the two neighbours of `before + 1`, and not half-way if that word
is odd. -/
structure IsBetween (q : ℚ) (before : Nat) : Prop where
  below : (steps before + steps (before + 1) : ℚ) ≤ 2 * q
  above : 2 * q ≤ (steps (before + 1) + steps (before + 2) : ℚ)
  even : (before + 1) % 2 = 0 ∨ (steps before + steps (before + 1) : ℚ) < 2 * q ∧
    2 * q < (steps (before + 1) + steps (before + 2) : ℚ)

theorem IsBetween.rounds {q : ℚ} {before : Nat} (h : IsBetween q before) : Rounds q (before + 1) := by
  have hfar (other : Nat) (hne : other ≠ before + 1) :
      |(steps (before + 1) : ℚ) - q| ≤ |(steps other : ℚ) - q| ∧
        (|(steps other : ℚ) - q| = |(steps (before + 1) : ℚ) - q| → (before + 1) % 2 = 0) := by
    obtain ⟨hbelow, habove, heven⟩ := h
    rcases Nat.lt_or_gt_of_ne hne with hlt | hgt
    · have hother := steps_cast_le (show other ≤ before by omega)
      have hword := steps_cast_lt hlt
      rw [abs_of_neg (show (steps other : ℚ) - q < 0 by linarith)]
      refine ⟨abs_le.mpr ⟨by linarith, by linarith⟩, fun hsame => heven.resolve_right fun hstrict => ?_⟩
      obtain hsame | hsame := eq_or_eq_neg_of_abs_eq hsame.symm <;> linarith [hstrict.1]
    · have hother := steps_cast_le (show before + 2 ≤ other by omega)
      have hword := steps_cast_lt hgt
      rw [abs_of_pos (show 0 < (steps other : ℚ) - q by linarith)]
      refine ⟨abs_le.mpr ⟨by linarith, by linarith⟩, fun hsame => heven.resolve_right fun hstrict => ?_⟩
      obtain hsame | hsame := eq_or_eq_neg_of_abs_eq hsame.symm <;> linarith [hstrict.2]
  refine ⟨fun other => ?_, fun other hne => (hfar other hne).2⟩
  by_cases hword : other = before + 1
  · rw [hword]
  · exact (hfar other hword).1

end Telemetry.Binary64
