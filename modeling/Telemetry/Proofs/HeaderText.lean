import Telemetry.HeaderText
import Telemetry.Proofs.Text

/-!
# What may be sent in a header

Whether a text may be sent in a header can be seen from its bytes: a control character is one byte, and
the bytes of longer characters are all above them.
-/
namespace Telemetry

/-- The bytes that may not be sent: the control characters except the tab. -/
def IsForbidden (b : UInt8) : Prop := (b.toNat < 32 ∧ b.toNat ≠ 9) ∨ b.toNat = 127

theorem isForbidden_utf8EncodeChar (c : Char) : (∃ b ∈ String.utf8EncodeChar c, IsForbidden b) ↔
    (c.toNat < 32 ∧ c.toNat ≠ 9) ∨ c.toNat = 127 := by
  by_cases hc : c.toNat < 128
  · have hb : (UInt8.ofNat c.toNat).toNat = c.toNat :=
      UInt8.toNat_ofNat_of_lt' (hc.trans (by decide))
    simp [utf8EncodeChar_of_lt hc, IsForbidden, hb]
  · refine iff_of_false ?_ (by omega)
    rintro ⟨b, hb, hforbidden⟩
    have hhigh := le_of_mem_utf8EncodeChar (by omega) hb
    unfold IsForbidden at hforbidden
    omega

/-- A text may not be sent if one of its bytes is forbidden. -/
theorem isHeaderText_eq_false_iff (s : String) :
    isHeaderText s = false ↔ ∃ b ∈ Text.utf8 s, IsForbidden b := by
  have hchar (c : Char) : (c = '\t' || decide (32 ≤ c.toNat ∧ c.toNat ≠ 127)) = false ↔
      (c.toNat < 32 ∧ c.toNat ≠ 9) ∨ c.toNat = 127 := by
    have htab : c = '\t' ↔ c.toNat = 9 := by
      rw [Char.ext_iff, UInt32.toNat_inj.symm]
      rfl
    simp only [Bool.or_eq_false_iff, decide_eq_false_iff_not, htab]
    omega
  calc isHeaderText s = false
      ↔ ∃ c ∈ s.toList, (c.toNat < 32 ∧ c.toNat ≠ 9) ∨ c.toNat = 127 := by
        simp only [isHeaderText, List.all_eq_false, Bool.not_eq_true, hchar]
    _ ↔ ∃ c ∈ s.toList, ∃ b ∈ String.utf8EncodeChar c, IsForbidden b := by
        simp only [isForbidden_utf8EncodeChar]
    _ ↔ ∃ b ∈ Text.utf8 s, IsForbidden b := by
        rw [utf8_eq_flatMap]
        simp only [List.mem_flatMap]
        constructor
        · rintro ⟨c, hc, b, hb, hforbidden⟩
          exact ⟨b, ⟨c, hc, hb⟩, hforbidden⟩
        · rintro ⟨b, ⟨c, hc, hb⟩, hforbidden⟩
          exact ⟨c, hc, b, hb, hforbidden⟩

end Telemetry
