import Telemetry.Json.Printer
import Telemetry.Proofs.Decimal.Shortest
import Telemetry.Proofs.Json
import Telemetry.Proofs.Json.Grammar

/-!
# The text of a number says its double

Positional and scientific texts write the digits of a decimal so that the first one has its place, whichever
digits stand before the point. For the shortest decimal of a double that is a number that rounds to the
double, for an integer the integer itself.
-/
namespace Telemetry.Json

open Decimal

/-- A text of a number without a sign, with its exact value. -/
def Writes (text : List Char) (q : ℚ) : Prop :=
  ∀ negative, ∃ l, IsUnsigned negative text l ∧ l.magnitude = q

theorem isWhole_of_leads {ds : List Char} (h : Leads ds) : IsWhole ds :=
  ⟨⟨h.isDigit, h.ne_nil⟩, fun hzero => absurd hzero h.head_ne⟩

theorem isDigits_digits (n : Nat) : IsDigits (digits n) := ⟨isDigit_of_mem_digits n, digits_ne_nil n⟩

theorem isWhole_digits (n : Nat) : IsWhole (digits n) := by
  obtain rfl | hn := Nat.eq_zero_or_pos n
  · refine ⟨isDigits_digits 0, fun _ => ?_⟩
    rw [digits]
    rfl
  · exact isWhole_of_leads (leads_digits hn)

theorem writes_of_parts {whole fractionText exponentText : List Char} {fraction : Option (List Char)}
    {exponent : Option Int} (hwhole : IsWhole whole) (hfraction : IsFraction fractionText fraction)
    (hexponent : IsExponent exponentText exponent) {q : ℚ}
    (hq : (ofDigits (whole ++ fraction.getD []) : ℚ) *
      10 ^ (exponent.getD 0 - (fraction.getD []).length) = q) :
    Writes (whole ++ (fractionText ++ exponentText)) q :=
  fun _ => ⟨_, .mk hwhole hfraction hexponent, hq⟩

theorem writes_digits (n : Nat) : Writes (digits n) n := by
  have hwrites := writes_of_parts (isWhole_digits n) .absent .absent rfl
  simpa [ofDigits_digits] using hwrites

/-- A scale by a power of ten, moved from the digits to the exponent. -/
theorem cast_mul_zpow {a b n : Nat} (h : a = b * 10 ^ n) {e e' : Int} (he : e' = n + e) :
    (a : ℚ) * 10 ^ e = b * 10 ^ e' := by
  rw [h, he, zpow_add₀ (by norm_num), zpow_natCast, Nat.cast_mul, Nat.cast_pow, Nat.cast_ofNat, mul_assoc]

theorem isDigit_of_mem_zeros {n : Nat} {c : Char} (h : c ∈ List.replicate n '0') : c.isDigit = true := by
  rw [List.eq_of_mem_replicate h]
  rfl

theorem isWhole_zero : IsWhole ['0'] :=
  ⟨⟨List.forall_mem_singleton.mpr rfl, List.cons_ne_nil _ _⟩, fun _ => rfl⟩

/-- The first digit stands after the point. -/
theorem writes_below_one {ds : List Char} (h : Leads ds) {place : Int} (hplace : place < 0) :
    Writes ('0' :: '.' :: (List.replicate (place.natAbs - 1) '0' ++ ds)) (valueAt ds place) := by
  have hfraction : IsDigits (List.replicate (place.natAbs - 1) '0' ++ ds) := by
    refine ⟨fun c hc => ?_, by simp [h.ne_nil]⟩
    obtain hc | hc := List.mem_append.mp hc
    · exact isDigit_of_mem_zeros hc
    · exact h.isDigit c hc
  have hexponent : 0 - ((List.replicate (place.natAbs - 1) '0' ++ ds).length : Int) =
      place + 1 - ds.length := by
    rw [List.length_append, List.length_replicate]
    omega
  have hdigits : ofDigits (['0'] ++ (List.replicate (place.natAbs - 1) '0' ++ ds)) = ofDigits ds := by
    rw [← List.replicate_one, ofDigits_zeros_append, ofDigits_zeros_append]
  have hwrites := writes_of_parts isWhole_zero (.present hfraction) .absent rfl
  rw [Option.getD_some, Option.getD_none, hdigits, hexponent] at hwrites
  simpa [valueAt] using hwrites

/-- The digits end before the point, and zeros fill the places that are left. -/
theorem writes_above_digits {ds : List Char} (h : Leads ds) {whole : Nat} (hlength : ds.length ≤ whole) :
    Writes (ds ++ List.replicate (whole - ds.length) '0' ++ '.' :: ['0']) (valueAt ds (whole - 1)) := by
  have hwhole : IsWhole (ds ++ List.replicate (whole - ds.length) '0') := by
    refine ⟨⟨fun c hc => ?_, by simp [h.ne_nil]⟩, fun hzero => ?_⟩
    · obtain hc | hc := List.mem_append.mp hc
      · exact h.isDigit c hc
      · exact isDigit_of_mem_zeros hc
    · rw [List.head?_append_of_ne_nil _ h.ne_nil] at hzero
      exact absurd hzero h.head_ne
  have hdigits : ofDigits (ds ++ List.replicate (whole - ds.length) '0' ++ ['0']) =
      ofDigits ds * 10 ^ (whole - ds.length + 1) := by
    rw [← List.replicate_one, List.append_assoc, List.replicate_append_replicate, ofDigits_append_zeros]
  refine writes_of_parts hwhole (.present isWhole_zero.toIsDigits) .absent ?_
  rw [valueAt]
  refine cast_mul_zpow hdigits ?_
  rw [Option.getD_none, Option.getD_some, List.length_singleton]
  omega

/-- The point stands between the digits. -/
theorem writes_inside {ds : List Char} (h : Leads ds) {whole : Nat} (hwhole : 0 < whole)
    (hlength : whole < ds.length) :
    Writes (ds.take whole ++ '.' :: ds.drop whole) (valueAt ds (whole - 1)) := by
  have hfront : IsWhole (ds.take whole) := by
    refine ⟨⟨fun c hc => h.isDigit c (List.mem_of_mem_take hc), ?_⟩, fun hzero => ?_⟩
    · rw [Ne, List.take_eq_nil_iff]
      exact not_or.mpr ⟨hwhole.ne', h.ne_nil⟩
    · rw [List.head?_take, if_neg hwhole.ne'] at hzero
      exact absurd hzero h.head_ne
  have hback : IsDigits (ds.drop whole) := by
    refine ⟨fun c hc => h.isDigit c (List.mem_of_mem_drop hc), ?_⟩
    rw [Ne, List.drop_eq_nil_iff]
    omega
  have hexponent : 0 - ((ds.drop whole).length : Int) = whole - 1 + 1 - ds.length := by
    rw [List.length_drop]
    omega
  have hwrites := writes_of_parts hfront (.present hback) .absent rfl
  rw [Option.getD_some, Option.getD_none, List.take_append_drop, hexponent] at hwrites
  simpa [valueAt] using hwrites

theorem writes_positional {ds : List Char} (h : Leads ds) (place : Int) :
    Writes (positional ds place) (valueAt ds place) := by
  unfold positional
  split_ifs with hplace
  · exact writes_below_one h hplace
  · obtain ⟨n, rfl⟩ := Int.eq_ofNat_of_zero_le (not_lt.mp hplace)
    have hvalue : valueAt ds n = valueAt ds ((n + 1 : Nat) - 1) := by
      congr 1
      omega
    rw [hvalue, Int.toNat_natCast]
    by_cases hlength : ds.length ≤ n + 1
    · simp only [List.take_of_length_le hlength, List.drop_of_length_le hlength, List.isEmpty_nil, if_true]
      exact writes_above_digits h hlength
    · have hfraction : ¬(ds.drop (n + 1)).isEmpty = true := by
        rw [List.isEmpty_iff, List.drop_eq_nil_iff]
        exact hlength
      have hzeros : n + 1 - ds.length = 0 := by omega
      simp only [hzeros, List.replicate_zero, List.append_nil, if_neg hfraction]
      exact writes_inside h (Nat.succ_pos n) (not_le.mp hlength)

theorem isExponent_place (place : Int) :
    IsExponent ('e' :: (if place < 0 then '-' else '+') :: digits place.natAbs) (some place) := by
  split_ifs with h
  · have hminus := IsExponent.minus (.inl rfl : 'e' = 'e' ∨ 'e' = 'E') (isDigits_digits place.natAbs)
    rwa [ofDigits_digits, Int.ofNat_natAbs_of_nonpos h.le, neg_neg] at hminus
  · have hplus := IsExponent.plus (.inl rfl : 'e' = 'e' ∨ 'e' = 'E') (isDigits_digits place.natAbs)
    rwa [ofDigits_digits, Int.natAbs_of_nonneg (not_lt.mp h)] at hplus

theorem writes_scientific {ds : List Char} (h : Leads ds) (place : Int) :
    Writes (scientific ds place) (valueAt ds place) := by
  have hexponent := isExponent_place place
  obtain ⟨hdigit, hne, hhead⟩ := h
  obtain ⟨d, rest, rfl⟩ := List.exists_cons_of_ne_nil hne
  have hwhole : IsWhole [d] := by
    refine ⟨⟨List.forall_mem_singleton.mpr (hdigit d List.mem_cons_self), List.cons_ne_nil _ _⟩, ?_⟩
    exact fun hzero => absurd hzero hhead
  cases rest with
  | nil =>
    refine writes_of_parts hwhole .absent hexponent ?_
    simp [valueAt]
  | cons e rest =>
    have hfraction : IsDigits (e :: rest) :=
      ⟨fun c hc => hdigit c (List.mem_cons_of_mem _ hc), List.cons_ne_nil _ _⟩
    refine writes_of_parts hwhole (.present hfraction) hexponent ?_
    simp only [valueAt, Option.getD_some, List.singleton_append, List.length_cons]
    congr 2
    push_cast
    ring

theorem exists_writes_magnitudeText (word : Nat) :
    ∃ q, Writes (magnitudeText word) q ∧ Binary64.Rounds (q * Binary64.stepsPerOne) word := by
  obtain rfl | hpos := Nat.eq_zero_or_pos word
  · refine ⟨0, ?_, ?_⟩
    · refine writes_of_parts isWhole_zero (.present isWhole_zero.toIsDigits) .absent ?_
      rw [Option.getD_some, ← List.replicate_one, List.replicate_append_replicate, ofDigits_replicate_zero,
        Nat.cast_zero, zero_mul]
    · rw [zero_mul]
      exact Binary64.rounds_zero
  · have hleads := Grid.leads_significant (isFor_shortest hpos).pos
    refine ⟨_, ?_, rounds_shortest hpos⟩
    rw [magnitudeText, if_neg hpos.ne']
    dsimp only
    split_ifs
    · exact writes_positional hleads _
    · exact writes_scientific hleads _

example : magnitudeText 1 = ['5', 'e', '-', '3', '2', '4'] := by decide +kernel

theorem Writes.denotes {text : List Char} {q : ℚ} (h : Writes text q) {x : Binary64}
    (hfinite : x.isFinite = true) (hrounds : Binary64.Rounds (q * Binary64.stepsPerOne) x.word) :
    Denotes (if x.isNegative then '-' :: text else text) (.number (.double x hfinite)) := by
  obtain ⟨l, hl, rfl⟩ := h x.isNegative
  have hx : l.Denotes x := ⟨hfinite, hl.negative_eq.symm, hrounds⟩
  split_ifs with hnegative
  · rw [hnegative] at hl
    exact .number (.minus hl) hx
  · rw [Bool.not_eq_true] at hnegative
    rw [hnegative] at hl
    exact .number (.plain hl) hx

theorem denotes_numberText (n : Number) : Denotes (numberText n) (.number n.rounded) := by
  cases n with
  | integer n hn =>
    have hsmall : n.natAbs < 2 ^ 65 := by
      simp only [Nat.pow_eq] at hn
      omega
    have hnegative := Binary64.isNegative_ofInt (show 65 ≤ 1023 by decide) hsmall
    have hrounds := (Binary64.rounds_div_iff _ _ Nat.one_pos).mpr
      (Binary64.roundsTo_ofInt (show 65 ≤ 1023 by decide) hsmall)
    rw [Nat.cast_one, div_one, Nat.cast_mul] at hrounds
    have hdenotes := (writes_digits n.natAbs).denotes (Number.isNearest_ofInt hn).finite hrounds
    rw [hnegative] at hdenotes
    simpa [numberText, signed, Number.rounded] using hdenotes
  | double x hx =>
    obtain ⟨q, hwrites, hrounds⟩ := exists_writes_magnitudeText x.word
    exact hwrites.denotes hx hrounds

end Telemetry.Json
