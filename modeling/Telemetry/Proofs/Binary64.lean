import Mathlib.Tactic
import Telemetry.Binary64

/-!
# Rounding to doubles

The words of finite doubles are numbered in the order of their magnitudes, and `nearestWord` gives the
one that is nearest to a quotient, the even one where two are equally near. So a whole number that is
not too large becomes the nearest double.
-/
namespace Telemetry.Binary64

/-- A word counted in gaps. The count may reach the first word with the next larger gap. -/
theorem steps_gap_add {gap count : Nat} (hle : count ≤ 2 ^ 53) (hge : gap = 0 ∨ 2 ^ 52 ≤ count) :
    steps (gap * 2 ^ 52 + count) = count * 2 ^ gap := by
  unfold steps significand
  rcases Nat.lt_or_eq_of_le hle with hlt | rfl
  · have hgap : gapExponent (gap * 2 ^ 52 + count) = gap := by
      simp only [gapExponent, Nat.pow_eq]
      omega
    rw [hgap, Nat.pow_eq, Nat.pow_eq, Nat.add_sub_cancel_left]
  · have hgap : gapExponent (gap * 2 ^ 52 + 2 ^ 53) = gap + 1 := by
      simp only [gapExponent, Nat.pow_eq]
      omega
    have hcount : gap * 2 ^ 52 + 2 ^ 53 - (gap + 1) * 2 ^ 52 = 2 ^ 52 := by omega
    rw [hgap, Nat.pow_eq, Nat.pow_eq, hcount, pow_succ 2 gap, pow_succ 2 52]
    ring

theorem word_eq (word : Nat) : word = gapExponent word * 2 ^ 52 + significand word ∧
    significand word < 2 ^ 53 ∧ (gapExponent word = 0 ∨ 2 ^ 52 ≤ significand word) := by
  simp only [significand, gapExponent, Nat.pow_eq]
  omega

theorem exists_gap (word : Nat) : ∃ gap count, word = gap * 2 ^ 52 + count ∧ count < 2 ^ 53 ∧
    (gap = 0 ∨ 2 ^ 52 ≤ count) :=
  ⟨_, _, word_eq word⟩

theorem steps_strictMono : StrictMono steps := by
  refine strictMono_nat_of_lt_succ fun word => ?_
  obtain ⟨gap, count, rfl, hlt, hge⟩ := exists_gap word
  have hpos := Nat.two_pow_pos gap
  rw [steps_gap_add hlt.le hge, Nat.add_assoc, steps_gap_add hlt (by omega), Nat.succ_mul]
  omega

/-- How far a word lies from `num / den` steps, times `den`. -/
def distance (num den word : Nat) : Nat := ((steps word * den : Nat) - num : Int).natAbs

/-- No word is nearer to `num / den`, and if another one is as near, this one is even. -/
structure RoundsTo (num den word : Nat) : Prop where
  nearest : ∀ other, distance num den word ≤ distance num den other
  even : ∀ other, other ≠ word → distance num den other = distance num den word → word % 2 = 0

theorem distance_of_le {num den word : Nat} (h : steps word * den ≤ num) :
    distance num den word = num - steps word * den := by
  rw [distance]
  omega

theorem distance_of_ge {num den word : Nat} (h : num ≤ steps word * den) :
    distance num den word = steps word * den - num := by
  rw [distance]
  omega

theorem distance_zero (num den : Nat) : distance num den 0 = num := by
  rw [distance, show steps 0 = 0 from rfl]
  omega

/-- Between two neighbours, the nearer one is nearest of all; half-way, it is the even one. -/
theorem roundsTo_of_between {den : Nat} (num word : Nat) (hden : 0 < den) (hle : steps word * den ≤ num)
    (hlt : num < steps (word + 1) * den) :
    RoundsTo num den (if 2 * (num - steps word * den) < steps (word + 1) * den - steps word * den ∨
      2 * (num - steps word * den) = steps (word + 1) * den - steps word * den ∧ word % 2 = 0
      then word else word + 1) := by
  have hbelow := distance_of_le hle
  have habove := distance_of_ge hlt.le
  -- any other word lies beyond one of the two neighbours
  have hfar {other : Nat} (h : other ≠ word) (h' : other ≠ word + 1) :
      distance num den word < distance num den other ∨
        distance num den (word + 1) < distance num den other := by
    rcases Nat.lt_or_gt_of_ne h with hother | hother
    · have hsteps := Nat.mul_lt_mul_of_pos_right (steps_strictMono hother) hden
      have hdist := distance_of_le (hsteps.le.trans hle)
      omega
    · have hsteps := Nat.mul_lt_mul_of_pos_right
        (steps_strictMono (show word + 1 < other by omega)) hden
      have hdist := distance_of_ge (hlt.le.trans hsteps.le)
      omega
  split_ifs with h
  · refine ⟨fun other => ?_, fun other hne hdist => ?_⟩
    · by_cases hword : other = word
      · rw [hword]
      · by_cases hnext : other = word + 1
        · rw [hnext]; omega
        · have := hfar hword hnext; omega
    · by_cases hnext : other = word + 1
      · rw [hnext] at hdist; omega
      · have := hfar hne hnext; omega
  · refine ⟨fun other => ?_, fun other hne hdist => ?_⟩
    · by_cases hword : other = word
      · rw [hword]; omega
      · by_cases hnext : other = word + 1
        · rw [hnext]
        · have := hfar hword hnext; omega
    · by_cases hword : other = word
      · rw [hword] at hdist; omega
      · have := hfar hword hne; omega

/-- A number in gaps that are chosen by its logarithm has 53 bits. -/
theorem div_gap_bounds (q : Nat) : q / 2 ^ (q.log2 - 52) < 2 ^ 53 ∧
    (q.log2 - 52 = 0 ∨ 2 ^ 52 ≤ q / 2 ^ (q.log2 - 52)) := by
  have hpos := Nat.two_pow_pos (q.log2 - 52)
  constructor
  · rw [Nat.div_lt_iff_lt_mul hpos, ← pow_add]
    calc q < 2 ^ (q.log2 + 1) := Nat.lt_log2_self
      _ ≤ 2 ^ (53 + (q.log2 - 52)) := Nat.pow_le_pow_right (by decide) (by omega)
  · rcases Nat.eq_zero_or_pos (q.log2 - 52) with hgap | hgap
    · exact .inl hgap
    · have hne : q ≠ 0 := by
        rintro rfl
        simp at hgap
      have hlog : 52 + (q.log2 - 52) = q.log2 := by omega
      right
      rw [Nat.le_div_iff_mul_le hpos, ← pow_add, hlog]
      exact Nat.log2_self_le hne

/-- The scale of words goes on beyond infinity, where rounding stops. -/
theorem exists_roundsTo (num : Nat) {den : Nat} (hden : 0 < den) :
    ∃ word, RoundsTo num den word ∧ nearestWord num den = min word infinityWord := by
  obtain ⟨hlt, hge⟩ := div_gap_bounds (num / den)
  rw [Nat.div_div_eq_div_mul] at hlt hge
  unfold nearestWord
  simp only [Nat.pow_eq] at *
  generalize (num / den).log2 - 52 = gap at *
  have hunit : 0 < den * 2 ^ gap := Nat.mul_pos hden (Nat.two_pow_pos gap)
  have hdiv := Nat.div_add_mod num (den * 2 ^ gap)
  have hleft := Nat.mod_lt num hunit
  generalize num / (den * 2 ^ gap) = below at *
  generalize num % (den * 2 ^ gap) = left at *
  subst hdiv
  -- `below` gaps and one more are neighbours, also where the upper one starts a larger gap
  have hsteps : steps (gap * 2 ^ 52 + below) * den = den * 2 ^ gap * below := by
    rw [steps_gap_add hlt.le hge]
    ring
  have hnext : steps (gap * 2 ^ 52 + below + 1) * den = den * 2 ^ gap * below + den * 2 ^ gap := by
    rw [Nat.add_assoc, steps_gap_add (Nat.succ_le_of_lt hlt) (by omega), Nat.succ_eq_add_one]
    ring
  have hrounds := roundsTo_of_between _ (gap * 2 ^ 52 + below) hden
    (hsteps ▸ Nat.le_add_right _ _) (hnext ▸ Nat.add_lt_add_left hleft _)
  rw [hsteps, hnext, Nat.add_sub_cancel_left, Nat.add_sub_cancel_left] at hrounds
  have heven : (gap * 2 ^ 52 + below) % 2 = below % 2 := by omega
  rw [heven] at hrounds
  refine ⟨_, hrounds, ?_⟩
  split_ifs
  · rfl
  · rw [Nat.add_assoc]

theorem roundsTo_nearestWord {num den : Nat} (hden : 0 < den)
    (hfinite : nearestWord num den < infinityWord) : RoundsTo num den (nearestWord num den) := by
  obtain ⟨word, hrounds, hword⟩ := exists_roundsTo num hden
  rw [hword, min_eq_left (by omega)]
  exact hrounds

/-- Every count of at most 53 bits in any gap is that of a word. -/
theorem exists_steps_eq {count : Nat} (hcount : count ≤ 2 ^ 53) (gap : Nat) :
    ∃ word, steps word = count * 2 ^ gap := by
  induction gap generalizing count with
  | zero => exact ⟨0 * 2 ^ 52 + count, steps_gap_add hcount (.inl rfl)⟩
  | succ gap ih =>
    by_cases hlarge : 2 ^ 52 ≤ count
    · exact ⟨(gap + 1) * 2 ^ 52 + count, steps_gap_add hcount (.inr hlarge)⟩
    · obtain ⟨word, hword⟩ := ih (show 2 * count ≤ 2 ^ 53 by omega)
      exact ⟨word, by rw [hword, pow_succ]; ring⟩

/-- What needs no rounding is not rounded. -/
theorem steps_nearestWord {count gap : Nat} (hcount : count ≤ 2 ^ 53)
    (hfinite : nearestWord (count * 2 ^ gap) 1 < infinityWord) :
    steps (nearestWord (count * 2 ^ gap) 1) = count * 2 ^ gap := by
  obtain ⟨word, hword⟩ := exists_steps_eq hcount gap
  have hnearest := (roundsTo_nearestWord Nat.one_pos hfinite).nearest word
  simp only [distance, hword] at hnearest
  omega

theorem nearestWord_lt {num den size : Nat} (hsize : size ≤ 2097) (h : num / den < 2 ^ size) :
    nearestWord num den < infinityWord := by
  obtain ⟨hlt, -⟩ := div_gap_bounds (num / den)
  rw [Nat.div_div_eq_div_mul] at hlt
  have hlog : (num / den).log2 - 52 ≤ 2044 := by
    by_cases hzero : num / den = 0
    · rw [hzero, Nat.log2_zero]
      omega
    · have := (Nat.log2_lt hzero).mpr h
      omega
  unfold nearestWord infinityWord
  simp only [Nat.pow_eq]
  generalize (num / den).log2 - 52 = gap at *
  have hcount (p : Prop) [Decidable p] : (if p then num / (den * 2 ^ gap) else
      num / (den * 2 ^ gap) + 1) ≤ 2 ^ 53 := by
    split_ifs <;> omega
  refine min_lt_of_left_lt ?_
  calc _ ≤ 2044 * 2 ^ 52 + 2 ^ 53 := Nat.add_le_add (Nat.mul_le_mul_right _ hlog) (hcount _)
    _ < 2047 * 2 ^ 52 := by norm_num

/-- The value of a finite double, in steps. -/
def value (x : Binary64) : Int := if x.isNegative then -(steps x.word : Int) else steps x.word

/-- The double of a whole number: no finite double is nearer, if another one is as near then its word
is even, and zero has no minus sign. -/
structure IsNearest (n : Int) (x : Binary64) : Prop where
  finite : x.isFinite = true
  nearest : ∀ y : Binary64, y.isFinite = true →
    (x.value - n * stepsPerOne).natAbs ≤ (y.value - n * stepsPerOne).natAbs
  even : ∀ y : Binary64, y.isFinite = true → y.value ≠ x.value →
    (y.value - n * stepsPerOne).natAbs = (x.value - n * stepsPerOne).natAbs → x.word % 2 = 0
  isNegative_iff : x.isNegative = true ↔ n < 0

theorem toNat_bits_ofWord (negative : Bool) {word : Nat} (h : word < 2 ^ 63) :
    (ofWord negative word).bits.toNat = if negative then 2 ^ 63 + word else word := by
  refine UInt64.toNat_ofNat_of_lt' ?_
  change _ < 2 ^ 64
  simp only [Nat.pow_eq]
  split_ifs <;> omega

theorem word_ofWord (negative : Bool) {word : Nat} (h : word < 2 ^ 63) :
    (ofWord negative word).word = word := by
  rw [Binary64.word, toNat_bits_ofWord negative h, Nat.pow_eq]
  split_ifs <;> omega

theorem isNegative_ofWord (negative : Bool) {word : Nat} (h : word < 2 ^ 63) :
    (ofWord negative word).isNegative = negative := by
  rw [isNegative, toNat_bits_ofWord negative h, Nat.pow_eq]
  cases negative <;> simp
  omega

theorem ofWord_word (x : Binary64) : ofWord x.isNegative x.word = x := by
  have hlt := x.bits.toNat_lt
  have hword : x.word < 2 ^ 63 := Nat.mod_lt _ (by decide)
  have hbits : (ofWord x.isNegative x.word).bits.toNat = x.bits.toNat := by
    rw [toNat_bits_ofWord _ hword]
    simp only [isNegative, word, Nat.pow_eq, decide_eq_true_eq]
    split_ifs <;> omega
  exact congrArg Binary64.mk (UInt64.toNat_inj.mp hbits)

theorem infinityWord_lt : infinityWord < 2 ^ 63 := by decide

theorem isFinite_ofWord (negative : Bool) {word : Nat} (h : word < infinityWord) :
    (ofWord negative word).isFinite = true := by
  rw [isFinite, word_ofWord negative (h.trans infinityWord_lt), decide_eq_true h]

theorem stepsPerOne_eq : stepsPerOne = 2 ^ 1074 := by
  unfold stepsPerOne
  generalize 1074 = exponent
  exact Nat.pow_eq

theorem stepsPerOne_pos : 0 < stepsPerOne := by
  rw [stepsPerOne_eq]
  positivity

theorem mul_stepsPerOne (n : Int) : n * stepsPerOne =
    if n < 0 then -((n.natAbs * stepsPerOne : Nat) : Int) else (n.natAbs * stepsPerOne : Nat) := by
  split_ifs with h
  · rw [Nat.cast_mul, Int.ofNat_natAbs_of_nonpos h.le, neg_mul, neg_neg]
  · rw [Nat.cast_mul, Int.natAbs_of_nonneg (Int.not_lt.mp h)]

/-- A value of the sign of a whole number is as far from it as the magnitudes are from one another. -/
theorem natAbs_value_sub {n : Int} {x : Binary64} (h : x.isNegative = true ↔ n < 0) :
    (x.value - n * stepsPerOne).natAbs = distance (n.natAbs * stepsPerOne) 1 x.word := by
  rw [mul_stepsPerOne, value, distance]
  generalize n.natAbs * stepsPerOne = m
  split_ifs with hx hn hn
  · omega
  · exact absurd (h.mp hx) hn
  · exact absurd (h.mpr hn) hx
  · omega

/-- A value of any sign is at least as far away. -/
theorem distance_le_natAbs_value_sub (n : Int) (x : Binary64) :
    distance (n.natAbs * stepsPerOne) 1 x.word ≤ (x.value - n * stepsPerOne).natAbs := by
  rw [mul_stepsPerOne, value, distance]
  generalize n.natAbs * stepsPerOne = m
  split_ifs <;> omega

theorem isNearest_of_roundsTo {n : Int} {x : Binary64} (hfinite : x.isFinite = true)
    (hnegative : x.isNegative = true ↔ n < 0)
    (hrounds : RoundsTo (n.natAbs * stepsPerOne) 1 x.word) : x.IsNearest n := by
  have hx := natAbs_value_sub hnegative
  refine ⟨hfinite, fun y _ => ?_, fun y _ hne hsame => ?_, hnegative⟩
  · rw [hx]
    exact (hrounds.nearest y.word).trans (distance_le_natAbs_value_sub n y)
  · by_cases hword : y.word = x.word
    · -- then the two values have opposite signs, so both are zero
      have hzero := (hrounds.nearest 0).trans_eq (distance_zero _ _)
      rw [mul_stepsPerOne] at hsame
      simp only [value, distance, hword] at *
      generalize n.natAbs * stepsPerOne = m at *
      split_ifs at * <;> omega
    · have hle := distance_le_natAbs_value_sub n y
      have hnearest := hrounds.nearest y.word
      exact hrounds.even y.word hword (by omega)

/-- The magnitude of the double of a whole number of the usual sizes is finite. -/
theorem nearestWord_natAbs_lt {n : Int} {size : Nat} (hsize : size ≤ 1023) (h : n.natAbs < 2 ^ size) :
    nearestWord (n.natAbs * stepsPerOne) 1 < infinityWord := by
  refine nearestWord_lt (show size + 1074 ≤ 2097 by omega) ?_
  calc n.natAbs * stepsPerOne / 1 = n.natAbs * stepsPerOne := Nat.div_one _
    _ < 2 ^ size * stepsPerOne := Nat.mul_lt_mul_of_pos_right h stepsPerOne_pos
    _ = 2 ^ (size + 1074) := by rw [stepsPerOne_eq, pow_add]

theorem isNegative_ofInt {n : Int} {size : Nat} (hsize : size ≤ 1023) (h : n.natAbs < 2 ^ size) :
    (ofInt n).isNegative = decide (n < 0) :=
  isNegative_ofWord _ ((nearestWord_natAbs_lt hsize h).trans infinityWord_lt)

theorem roundsTo_ofInt {n : Int} {size : Nat} (hsize : size ≤ 1023) (h : n.natAbs < 2 ^ size) :
    RoundsTo (n.natAbs * stepsPerOne) 1 (ofInt n).word := by
  have hlt := nearestWord_natAbs_lt hsize h
  rw [ofInt, word_ofWord _ (hlt.trans infinityWord_lt)]
  exact roundsTo_nearestWord Nat.one_pos hlt

/-- Whole numbers of the usual sizes become the nearest double, a tie going to the even word. -/
theorem isNearest_ofInt {n : Int} {size : Nat} (hsize : size ≤ 1023) (h : n.natAbs < 2 ^ size) :
    (ofInt n).IsNearest n :=
  isNearest_of_roundsTo (isFinite_ofWord _ (nearestWord_natAbs_lt hsize h))
    (by simp [isNegative_ofInt hsize h]) (roundsTo_ofInt hsize h)

example : ofInt (2 ^ 53 + 1) = ⟨0x4340000000000000⟩ := by decide +kernel

/-- The smaller of two whole numbers has no larger double. If it had, it would lie above the point half-way
between the doubles, and the larger one below. -/
theorem IsNearest.value_le {a b : Int} {x y : Binary64} (hx : x.IsNearest a) (hy : y.IsNearest b)
    (h : a < b) : x.value ≤ y.value := by
  have hscaled : a * stepsPerOne < b * stepsPerOne :=
    Int.mul_lt_mul_of_pos_right h (by exact_mod_cast stepsPerOne_pos)
  have habove := hx.nearest y hy.finite
  have hbelow := hy.nearest x hx.finite
  omega

theorem value_ofInt {n : Int} (h : n.natAbs ≤ 2 ^ 53) : (ofInt n).value = n * stepsPerOne := by
  have hsize : n.natAbs < 2 ^ 54 := by omega
  have hlt := nearestWord_natAbs_lt (by decide) hsize
  have hsteps : steps (ofInt n).word = n.natAbs * stepsPerOne := by
    rw [ofInt, word_ofWord _ (hlt.trans infinityWord_lt)]
    rw [stepsPerOne_eq] at hlt ⊢
    exact steps_nearestWord h hlt
  rw [value, isNegative_ofInt (by decide) hsize, hsteps, mul_stepsPerOne]
  simp only [decide_eq_true_eq]

theorem steps_one : steps (1023 * 2 ^ 52) = stepsPerOne := by
  calc steps (1022 * 2 ^ 52 + 2 ^ 52) = 2 ^ 52 * 2 ^ 1022 := steps_gap_add (by decide) (.inr le_rfl)
    _ = stepsPerOne := by rw [stepsPerOne_eq, ← pow_add]

/-- One is nearer to a whole number of its sign than zero is. -/
theorem IsNearest.value_eq_zero_iff {n : Int} {x : Binary64} (h : x.IsNearest n) :
    x.value = 0 ↔ n = 0 := by
  constructor
  · intro hvalue
    by_contra hne
    have hone : 1023 * 2 ^ 52 < infinityWord := by decide
    have hsign := isNegative_ofWord (decide (n < 0)) (hone.trans infinityWord_lt)
    have hnearest := h.nearest _ (isFinite_ofWord (decide (n < 0)) hone)
    have hpos := stepsPerOne_pos
    have hle : 1 * stepsPerOne ≤ n.natAbs * stepsPerOne :=
      Nat.mul_le_mul_right _ (Int.natAbs_pos.mpr hne)
    have hdist := natAbs_value_sub (hsign ▸ decide_eq_true_iff)
    rw [word_ofWord _ (hone.trans infinityWord_lt), distance_of_le (by rw [steps_one]; omega),
      steps_one] at hdist
    rw [hvalue, zero_sub, Int.natAbs_neg, Int.natAbs_mul, Int.natAbs_natCast] at hnearest
    omega
  · rintro rfl
    have hzero := h.nearest (ofWord false 0) (by decide)
    rw [show (ofWord false 0).value = 0 by decide] at hzero
    omega

end Telemetry.Binary64
