import Telemetry.Decimal.Shortest
import Telemetry.Proofs.Binary64.Nearest
import Telemetry.Proofs.Decimal
import Telemetry.Proofs.Text

/-!
# The shortest decimal rounds back

Every decimal that the search for the shortest one takes rounds to the double it was made from: a number of
units that passes `roundsTo` lies between the points half-way to the two neighbours of its word, where the gap
below a power of two is half of the gap above. The digits of such a decimal, without the zeros at their end,
and the place of the first of them say the same magnitude.
-/
namespace Telemetry.Decimal

open Binary64

theorem unitsPerStep_eq : unitsPerStep = 5 ^ 1074 := by
  unfold unitsPerStep
  generalize 1074 = exponent
  exact Nat.pow_eq

theorem unitsPerStep_pos : 0 < unitsPerStep := by
  rw [unitsPerStep_eq]
  positivity

/-- The gap below a word: half of the gap above where a larger gap starts. -/
def gapBelow (word : Nat) : Nat :=
  if significand word = Nat.pow 2 52 ∧ 0 < gapExponent word then 2 ^ gapExponent word
  else 2 * 2 ^ gapExponent word

theorem steps_succ (word : Nat) : steps (word + 1) = steps word + 2 ^ gapExponent word := by
  obtain ⟨hword, hlt, hge⟩ := word_eq word
  calc steps (word + 1) = steps (gapExponent word * 2 ^ 52 + (significand word + 1)) := by
        rw [← Nat.add_assoc, ← hword]
    _ = (significand word + 1) * 2 ^ gapExponent word := steps_gap_add hlt (by omega)
    _ = steps word + 2 ^ gapExponent word := Nat.succ_mul _ _

theorem two_mul_steps_succ (before : Nat) :
    2 * steps (before + 1) = 2 * steps before + gapBelow (before + 1) := by
  rw [gapBelow, Nat.pow_eq]
  obtain ⟨hword, hlt, hge⟩ := word_eq (before + 1)
  have hsteps : steps (before + 1) = significand (before + 1) * 2 ^ gapExponent (before + 1) := rfl
  rw [hsteps]
  generalize significand (before + 1) = count at *
  generalize gapExponent (before + 1) = gap at *
  split_ifs with hhalf
  · obtain ⟨rfl, hpos⟩ := hhalf
    obtain ⟨gap, rfl⟩ := Nat.exists_eq_succ_of_ne_zero hpos.ne'
    have hbefore : before = gap * 2 ^ 52 + (2 ^ 53 - 1) := by omega
    rw [hbefore, steps_gap_add (by omega) (by omega), Nat.succ_eq_add_one, pow_succ 2 gap]
    omega
  · have hcount : 0 < count := by omega
    have hbefore : before = gap * 2 ^ 52 + (count - 1) := by omega
    obtain ⟨count, rfl⟩ := Nat.exists_eq_succ_of_ne_zero hcount.ne'
    rw [hbefore, Nat.succ_sub_one, steps_gap_add (by omega) (by omega), Nat.succ_eq_add_one]
    ring

/-- Units against steps. -/
theorem cast_le_two_mul_div_iff (a n : Nat) :
    (a : ℚ) ≤ 2 * (n / unitsPerStep : ℚ) ↔ a * unitsPerStep ≤ 2 * n := by
  have hpos : (0 : ℚ) < unitsPerStep := Nat.cast_pos.mpr unitsPerStep_pos
  rw [← mul_div_assoc, le_div_iff₀ hpos]
  exact_mod_cast Iff.rfl

theorem two_mul_div_le_cast_iff (a n : Nat) :
    2 * (n / unitsPerStep : ℚ) ≤ a ↔ 2 * n ≤ a * unitsPerStep := by
  have hpos : (0 : ℚ) < unitsPerStep := Nat.cast_pos.mpr unitsPerStep_pos
  rw [← mul_div_assoc, div_le_iff₀ hpos]
  exact_mod_cast Iff.rfl

theorem gapBelow_mul_unitsPerStep (word : Nat) :
    (if significand word = Nat.pow 2 52 ∧ 0 < gapExponent word then
      Nat.pow 2 (gapExponent word) * unitsPerStep
    else 2 * (Nat.pow 2 (gapExponent word) * unitsPerStep)) = gapBelow word * unitsPerStep := by
  rw [gapBelow]
  split_ifs
  · rw [Nat.pow_eq]
  · rw [Nat.pow_eq, Nat.mul_assoc]

theorem isBetween_of_roundsTo {before n : Nat} (h : roundsTo (before + 1) n = true) :
    IsBetween (n / unitsPerStep) before := by
  have hlower : 2 * (steps (before + 1) * unitsPerStep) =
      2 * (steps before * unitsPerStep) + gapBelow (before + 1) * unitsPerStep := by
    rw [← mul_assoc, two_mul_steps_succ, add_mul, mul_assoc]
  have hupper : steps (before + 2) * unitsPerStep =
      steps (before + 1) * unitsPerStep + 2 ^ gapExponent (before + 1) * unitsPerStep := by
    rw [steps_succ (before + 1), add_mul]
  have hbelow := cast_le_two_mul_div_iff (steps before + steps (before + 1)) n
  have hbelow' := two_mul_div_le_cast_iff (steps before + steps (before + 1)) n
  have habove := two_mul_div_le_cast_iff (steps (before + 1) + steps (before + 2)) n
  have habove' := cast_le_two_mul_div_iff (steps (before + 1) + steps (before + 2)) n
  rw [Nat.cast_add, add_mul] at hbelow hbelow' habove habove'
  simp only [roundsTo, units, gapBelow_mul_unitsPerStep] at h
  simp only [Nat.pow_eq] at h
  split_ifs at h with heven
  · obtain ⟨hlow, hhigh⟩ := of_decide_eq_true h
    exact ⟨hbelow.mpr (by omega), habove.mpr (by omega), .inl heven⟩
  · obtain ⟨hlow, hhigh⟩ := of_decide_eq_true h
    refine ⟨hbelow.mpr (by omega), habove.mpr (by omega), .inr ⟨?_, ?_⟩⟩
    · exact not_le.mp (hbelow'.not.mpr (by omega))
    · exact not_le.mp (habove'.not.mpr (by omega))

theorem rounds_of_roundsTo {word n : Nat} (hword : 0 < word) (h : roundsTo word n = true) :
    Rounds (n / unitsPerStep) word := by
  obtain ⟨before, rfl⟩ := Nat.exists_eq_succ_of_ne_zero hword.ne'
  exact (isBetween_of_roundsTo h).rounds

theorem units_pos {word : Nat} (h : 0 < word) : 0 < units word :=
  Nat.mul_pos (Nat.zero_lt_of_lt (steps_strictMono h)) unitsPerStep_pos

theorem roundsTo_units {word : Nat} (h : 0 < word) : roundsTo word (units word) = true := by
  have hunits := units_pos h
  have hgap : 0 < Nat.pow 2 (gapExponent word) * unitsPerStep :=
    Nat.mul_pos (Nat.pow_pos (by decide)) unitsPerStep_pos
  unfold roundsTo
  simp only
  split_ifs <;> rw [decide_eq_true_eq] <;> omega

theorem roundsTo_of_onGrid? {word place n : Nat} (h : onGrid? word place = some n) :
    roundsTo word (n * 10 ^ place) = true ∧ 0 < n := by
  simp only [onGrid?, Nat.pow_eq] at h
  split_ifs at h with hzero hboth _ hlower hupper
  all_goals
    obtain rfl := Option.some.inj h
    simp only [Bool.and_eq_true] at *
  · exact ⟨hboth.1, Nat.pos_of_ne_zero hzero⟩
  · exact ⟨hboth.2, Nat.succ_pos _⟩
  · exact ⟨hlower, Nat.pos_of_ne_zero hzero⟩
  · exact ⟨hupper, Nat.succ_pos _⟩

/-- A positive decimal that rounds to a word. -/
structure Grid.IsFor (grid : Grid) (word : Nat) : Prop where
  pos : 0 < grid.coefficient
  roundsTo : roundsTo word (grid.coefficient * 10 ^ grid.place) = true

/-- Whichever grid the search ends at, its decimal is a candidate. -/
theorem coarsest_induction {P : Grid → Prop} {decimal? : Nat → Option Nat} {exact : Nat}
    (hexact : P ⟨exact, 0⟩) (hdecimal : ∀ place n, decimal? place = some n → P ⟨n, place⟩)
    (place : Nat) : P (coarsest decimal? exact place) := by
  induction place with
  | zero => exact hexact
  | succ place ih =>
    rw [coarsest]
    cases hgrid : decimal? (place + 1) with
    | none => exact ih
    | some n => exact hdecimal _ n hgrid

theorem isFor_shortest {word : Nat} (h : 0 < word) : (shortest word).IsFor word := by
  refine coarsest_induction (P := (·.IsFor word)) ⟨units_pos h, ?_⟩ (fun place n hn => ?_) _
  · rw [pow_zero, mul_one]
    exact roundsTo_units h
  · obtain ⟨hrounds, hpos⟩ := roundsTo_of_onGrid? hn
    exact ⟨hpos, hrounds⟩

/-- The number that digits write when the first one has a place. -/
def valueAt (ds : List Char) (place : Int) : ℚ :=
  ofDigits ds * 10 ^ (place + 1 - ds.length)

/-- Digits, at least one, of which the first one is not zero. -/
structure Leads (ds : List Char) : Prop where
  isDigit : ∀ c ∈ ds, c.isDigit = true
  ne_nil : ds ≠ []
  head_ne : ds.head? ≠ some '0'

theorem leads_digits {n : Nat} (hn : 0 < n) : Leads (digits n) :=
  ⟨isDigit_of_mem_digits n, digits_ne_nil n, head?_digits_ne hn⟩

/-- What is dropped at the end of digits are zeros. -/
theorem exists_append_zeros (ds : List Char) : ∃ zeros,
    ds = (ds.reverse.dropWhile (· == '0')).reverse ++ List.replicate zeros '0' := by
  obtain ⟨after, hds, hafter⟩ := Text.exists_dropEnd (· == '0') ds
  have hzeros : after = List.replicate after.length '0' :=
    List.eq_replicate_of_mem fun c hc => by simpa using List.all_eq_true.mp hafter c hc
  exact ⟨after.length, hzeros ▸ hds⟩

theorem Leads.of_append_zeros {ds : List Char} {zeros : Nat}
    (h : Leads (ds ++ List.replicate zeros '0')) : Leads ds := by
  obtain ⟨hdigit, hne, hhead⟩ := h
  cases ds with
  | nil =>
    cases zeros with
    | zero => exact absurd rfl hne
    | succ zeros => exact absurd rfl hhead
  | cons d ds =>
    exact ⟨fun c hc => hdigit c (List.mem_append_left _ hc), List.cons_ne_nil _ _, hhead⟩

theorem Grid.leads_significant {grid : Grid} (h : 0 < grid.coefficient) :
    Leads grid.significant.1 := by
  obtain ⟨zeros, hzeros⟩ := exists_append_zeros (digits grid.coefficient)
  exact Leads.of_append_zeros (hzeros ▸ leads_digits h)

theorem Grid.valueAt_significant (grid : Grid) :
    valueAt grid.significant.1 grid.significant.2 = grid.coefficient * 10 ^ ((grid.place : Int) - 1074) := by
  obtain ⟨zeros, hzeros⟩ := exists_append_zeros (digits grid.coefficient)
  simp only [Grid.significant, valueAt]
  generalize ((digits grid.coefficient).reverse.dropWhile (· == '0')).reverse = kept at *
  have hcoefficient : grid.coefficient = ofDigits kept * 10 ^ zeros := by
    rw [← ofDigits_append_zeros, ← hzeros, ofDigits_digits]
  have hplace : ((digits grid.coefficient).length : Int) - 1 + grid.place - 1074 + 1 - kept.length =
      zeros + (grid.place - 1074) := by
    rw [hzeros, List.length_append, List.length_replicate]
    push_cast
    ring
  rw [hplace, zpow_add₀ (by norm_num), zpow_natCast, ← mul_assoc]
  congr 1
  exact_mod_cast hcoefficient.symm

/-- From units of `10 ^ (-1074)` to steps. -/
theorem cast_mul_stepsPerOne (n place : Nat) :
    (n * 10 ^ ((place : Int) - 1074) * stepsPerOne : ℚ) = (n * 10 ^ place : Nat) / unitsPerStep := by
  have hten (exponent : Nat) : (10 : ℚ) ^ exponent = 2 ^ exponent * 5 ^ exponent := by
    rw [← mul_pow]
    norm_num
  rw [stepsPerOne_eq, unitsPerStep_eq, zpow_sub₀ (by norm_num), zpow_natCast, Nat.cast_mul,
    Nat.cast_pow, Nat.cast_pow, Nat.cast_pow, Nat.cast_ofNat, Nat.cast_ofNat, Nat.cast_ofNat]
  rw [show (1074 : ℤ) = (1074 : ℕ) from rfl, zpow_natCast]
  generalize 1074 = exponent
  rw [hten exponent]
  field_simp

/-- The digits of the shortest decimal write a number that rounds to the word. -/
theorem rounds_shortest {word : Nat} (h : 0 < word) :
    Rounds (valueAt (shortest word).significant.1 (shortest word).significant.2 * stepsPerOne) word := by
  rw [Grid.valueAt_significant, cast_mul_stepsPerOne]
  exact rounds_of_roundsTo h (isFor_shortest h).roundsTo

end Telemetry.Decimal
