import Telemetry.Proofs.Text
import Telemetry.Text.Hex

/-!
# Hexadecimal digits read back

Digits write a number whatever their letter case: they are read as the number whose digits in small letters
they are.
-/
namespace Telemetry.Text.Hex

theorem toNat_ofDigit {d : Nat} (h : d < 16) :
    (ofDigit d).toNat = if d < 10 then 48 + d else 87 + d := by
  have hall : ∀ d < 16, (ofDigit d).toNat = if d < 10 then 48 + d else 87 + d := by decide
  exact hall d h

theorem digit?_eq_some_iff (c : Char) (d : Nat) :
    digit? c = some d ↔ d < 16 ∧ c.toLower = ofDigit d := by
  have hlower := toNat_toLower c
  have hdigit : ('0' ≤ c ∧ c ≤ '9') ↔ 48 ≤ c.toNat ∧ c.toNat ≤ 57 := Iff.rfl
  have hsmall : ('a' ≤ c ∧ c ≤ 'f') ↔ 97 ≤ c.toNat ∧ c.toNat ≤ 102 := Iff.rfl
  have hcapital : ('A' ≤ c ∧ c ≤ 'F') ↔ 65 ≤ c.toNat ∧ c.toNat ≤ 70 := Iff.rfl
  have hzero : '0'.toNat = 48 := rfl
  have ha : 'a'.toNat = 97 := rfl
  have hA : 'A'.toNat = 65 := rfl
  simp only [digit?, hdigit, hsmall, hcapital, hzero, ha, hA]
  constructor
  · intro h
    have hd : d < 16 := by split_ifs at h <;> simp at h <;> omega
    refine ⟨hd, Char.toNat_inj.mp ?_⟩
    rw [hlower, toNat_ofDigit hd]
    split_ifs at h <;> simp at h <;> split_ifs <;> omega
  · rintro ⟨hd, h⟩
    rw [h, toNat_ofDigit hd] at hlower
    split_ifs at hlower ⊢ <;> first | omega | (congr 1; omega)

theorem isAlphanum_of_digit? {c : Char} (h : (digit? c).isSome = true) : c.isAlphanum = true := by
  have hdigit : ('0' ≤ c ∧ c ≤ '9') ↔ 48 ≤ c.toNat ∧ c.toNat ≤ 57 := Iff.rfl
  have hsmall : ('a' ≤ c ∧ c ≤ 'f') ↔ 97 ≤ c.toNat ∧ c.toNat ≤ 102 := Iff.rfl
  have hcapital : ('A' ≤ c ∧ c ≤ 'F') ↔ 65 ≤ c.toNat ∧ c.toNat ≤ 70 := Iff.rfl
  rw [isAlphanum_iff]
  simp only [digit?, hdigit, hsmall, hcapital] at h
  split_ifs at h
  case neg => exact absurd h (by decide)
  all_goals omega

theorem length_padded (width n : Nat) : (padded width n).length = width := by
  induction width generalizing n with
  | zero => rfl
  | succ width ih => simp [padded, ih]

theorem le_of_mem_padded {width n : Nat} {c : Char} (h : c ∈ padded width n) : 48 ≤ c.toNat := by
  induction width generalizing n with
  | zero => simp [padded] at h
  | succ width ih =>
    rw [padded, List.mem_append, List.mem_singleton] at h
    obtain h | rfl := h
    · exact ih h
    · rw [toNat_ofDigit (Nat.mod_lt _ (by decide))]
      split_ifs <;> omega

theorem value?_append_singleton (cs : List Char) (c : Char) :
    value? (cs ++ [c]) = (value? cs).bind fun n => (digit? c).map (16 * n + ·) := by
  rw [value?, List.foldlM_append]
  simp [value?]

/-- Digits in any letter case write the number whose digits in small letters they are. -/
theorem value?_eq_some_iff (cs : List Char) (n : Nat) :
    value? cs = some n ↔ n < 16 ^ cs.length ∧ cs.map Char.toLower = padded cs.length n := by
  induction cs using List.reverseRecOn generalizing n with
  | nil => simp [value?, padded, eq_comm]
  | append_singleton cs c ih =>
    rw [value?_append_singleton, List.length_append, List.length_singleton, List.map_append, padded,
      List.map_singleton, pow_succ]
    constructor
    · intro h
      obtain ⟨m, hm, hc⟩ := Option.bind_eq_some_iff.mp h
      obtain ⟨d, hd, rfl⟩ := Option.map_eq_some_iff.mp hc
      obtain ⟨hmlt, hcs⟩ := (ih m).mp hm
      obtain ⟨hdlt, hlast⟩ := (digit?_eq_some_iff c d).mp hd
      have hhigh : (16 * m + d) / 16 = m := by omega
      have hlow : (16 * m + d) % 16 = d := by omega
      exact ⟨by omega, by rw [hhigh, hlow, hcs, hlast]⟩
    · rintro ⟨hn, h⟩
      have hlen : (cs.map Char.toLower).length = (padded cs.length (n / 16)).length := by
        rw [List.length_map, length_padded]
      obtain ⟨hcs, hlast⟩ := List.append_inj h hlen
      have hm := (ih (n / 16)).mpr ⟨by omega, hcs⟩
      have hd := (digit?_eq_some_iff c (n % 16)).mpr ⟨by omega, List.singleton_inj.mp hlast⟩
      rw [hm, Option.bind_some, hd, Option.map_some, Nat.div_add_mod]

/-- The digits of a number are small letters. -/
theorem map_toLower_padded (width n : Nat) : (padded width n).map Char.toLower = padded width n := by
  induction width generalizing n with
  | zero => rfl
  | succ width ih =>
    have hall : ∀ d < 16, (ofDigit d).toLower = ofDigit d := by decide
    rw [padded, List.map_append, ih, List.map_singleton, hall _ (Nat.mod_lt _ (by decide))]

end Telemetry.Text.Hex
