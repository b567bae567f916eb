import Mathlib.Tactic
import Telemetry.Decimal

/-!
# Decimal digits read back

The digits of a number are digits, at least one, and the number that they write is the one they were made
from.
-/
namespace Telemetry.Decimal

theorem toNat_ofDigit {d : Nat} (h : d < 10) : (ofDigit d).toNat = 48 + d := by
  have hall : ∀ d < 10, (ofDigit d).toNat = 48 + d := by decide
  exact hall d h

theorem isDigit_ofDigit {d : Nat} (h : d < 10) : (ofDigit d).isDigit = true := by
  have hall : ∀ d < 10, (ofDigit d).isDigit = true := by decide
  exact hall d h

theorem digits_ne_nil (n : Nat) : digits n ≠ [] := by
  rw [digits]
  split <;> simp

theorem length_digits_le {n k : Nat} (hk : 0 < k) (hn : n < 10 ^ k) : (digits n).length ≤ k := by
  induction k generalizing n with
  | zero => exact absurd hk (lt_irrefl 0)
  | succ k ih =>
    rw [digits]
    split
    · simp
    · next hge =>
      have hk : 0 < k := Nat.pos_of_ne_zero fun hzero => hge (by simpa [hzero] using hn)
      have hlength := ih hk (show n / 10 < 10 ^ k by rw [pow_succ] at hn; omega)
      rw [List.length_append, List.length_singleton]
      omega

theorem isDigit_of_mem_digits (n : Nat) : ∀ c ∈ digits n, c.isDigit = true := by
  induction n using Nat.strong_induction_on with
  | _ n ih =>
    rw [digits]
    split
    · next hn => simpa using isDigit_ofDigit hn
    · next hn =>
      intro c hc
      obtain hc | rfl : c ∈ digits (n / 10) ∨ c = ofDigit (n % 10) := by simpa using hc
      · exact ih _ (by omega) c hc
      · exact isDigit_ofDigit (by omega)

theorem ofDigits_append_singleton (ds : List Char) (c : Char) :
    ofDigits (ds ++ [c]) = 10 * ofDigits ds + (c.toNat - 48) := by
  rw [ofDigits, appendDigits, List.foldl_append]
  rfl

theorem ofDigits_digits (n : Nat) : ofDigits (digits n) = n := by
  induction n using Nat.strong_induction_on with
  | _ n ih =>
    rw [digits]
    split
    · next hn =>
      have hdigit := ofDigits_append_singleton [] (ofDigit n)
      rw [List.nil_append, toNat_ofDigit hn] at hdigit
      rw [hdigit]
      simp [ofDigits, appendDigits]
    · next hn =>
      rw [ofDigits_append_singleton, ih _ (by omega), toNat_ofDigit (by omega)]
      omega

theorem ofDigits_append (ds es : List Char) :
    ofDigits (ds ++ es) = ofDigits ds * 10 ^ es.length + ofDigits es := by
  induction es using List.reverseRecOn with
  | nil => simp [ofDigits, appendDigits]
  | append_singleton es c ih =>
    rw [← List.append_assoc, ofDigits_append_singleton, ofDigits_append_singleton, ih,
      List.length_append, List.length_singleton, pow_succ]
    ring

theorem ofDigits_replicate_zero (n : Nat) : ofDigits (List.replicate n '0') = 0 := by
  induction n with
  | zero => rfl
  | succ n ih =>
    rw [List.replicate_succ', ofDigits_append_singleton, ih]
    rfl

theorem ofDigits_append_zeros (ds : List Char) (n : Nat) :
    ofDigits (ds ++ List.replicate n '0') = ofDigits ds * 10 ^ n := by
  rw [ofDigits_append, ofDigits_replicate_zero, List.length_replicate, Nat.add_zero]

theorem ofDigits_zeros_append (n : Nat) (ds : List Char) :
    ofDigits (List.replicate n '0' ++ ds) = ofDigits ds := by
  rw [ofDigits_append, ofDigits_replicate_zero, Nat.zero_mul, Nat.zero_add]

theorem head?_digits_ne {n : Nat} (hn : 0 < n) : (digits n).head? ≠ some '0' := by
  induction n using Nat.strong_induction_on with
  | _ n ih =>
    rw [digits]
    split
    · next hlt =>
      have hall : ∀ d < 10, 0 < d → [ofDigit d].head? ≠ some '0' := by decide
      exact hall n hlt hn
    · next hge =>
      rw [List.head?_append_of_ne_nil _ (digits_ne_nil _)]
      exact ih _ (by omega) (by omega)

theorem natural?_digits (n : Nat) : natural? (digits n) = some n := by
  have hdigits : (digits n).all Char.isDigit = true :=
    List.all_eq_true.mpr (isDigit_of_mem_digits n)
  rw [natural?, if_neg (by simp [digits_ne_nil]), if_pos hdigits, ofDigits_digits]

theorem ofDigits_padded (width n : Nat) : ofDigits (padded width n) = n := by
  rw [padded, ofDigits_zeros_append, ofDigits_digits]

theorem isDigit_of_mem_padded (width n : Nat) : ∀ c ∈ padded width n, c.isDigit = true := by
  intro c hc
  obtain hzero | hdigit := List.mem_append.mp hc
  · rw [List.eq_of_mem_replicate hzero]
    rfl
  · exact isDigit_of_mem_digits n c hdigit

theorem le_length_padded (width n : Nat) : width ≤ (padded width n).length := by
  rw [padded, List.length_append, List.length_replicate]
  omega

theorem length_padded {width n : Nat} (hwidth : 0 < width) (h : n < 10 ^ width) :
    (padded width n).length = width := by
  have hdigits := length_digits_le hwidth h
  rw [padded, List.length_append, List.length_replicate]
  omega

end Telemetry.Decimal
