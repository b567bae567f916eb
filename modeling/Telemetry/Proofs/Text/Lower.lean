import Mathlib
import Telemetry.Proofs.Text
import Telemetry.Text.Lower

/-!
# What lower case leaves in place

The lower-case form of a text has a character below the letters only where the text has it. So a
separator of such characters stands in the lower-case form of a text only if it stands in the text.
-/
namespace Telemetry.Text.Lower

/-- No letter of the runs beyond ASCII has a lower-case form below the letters. -/
theorem le_of_image? {r : Run} (hr : r ∈ runs) {n m : Nat} (hn : 0x80 ≤ n) (h : r.image? n = some m) :
    0x41 ≤ m := by
  have hall : ∀ r ∈ runs, r.last < 0x80 ∨ (0x41 : Int) ≤ r.first + r.shift := by decide +kernel
  unfold Run.image? at h
  split_ifs at h with hin
  obtain rfl := Option.some.inj h
  obtain hlast | hfirst := hall r hr <;> omega

/-- The characters below the letters, which no lower-case form brings in. -/
def IsBelow (x : Char) : Prop := 0 < x.toNat ∧ x.toNat < 0x41

/-- Only a character itself has it in its lower-case form, if it is below the letters. -/
theorem eq_of_mem_ofChar {c x : Char} (hx : IsBelow x) (h : x ∈ ofChar c) :
    c = x ∧ ofChar c = [x] := by
  obtain ⟨hpos, hlt⟩ := hx
  unfold ofChar at h ⊢
  split_ifs at h ⊢ with hascii hdotted
  · obtain rfl := List.mem_singleton.mp h
    have hc : c = c.toLower := eq_of_toLower_eq rfl (.inl (by omega))
    exact ⟨hc, rfl⟩
  · obtain rfl | rfl : x = 'i' ∨ x = Char.ofNat 0x307 := by simpa using h
    · exact absurd hlt (by decide)
    · exact absurd hlt (by decide)
  · obtain rfl := List.mem_singleton.mp h
    have hlarge : 0x41 ≤ (runs.findSome? (·.image? c.toNat)).getD c.toNat := by
      cases himage : runs.findSome? (·.image? c.toNat) with
      | none => exact (by omega : 0x41 ≤ c.toNat)
      | some m =>
        obtain ⟨r, hr, hm⟩ := List.exists_of_findSome?_eq_some himage
        exact le_of_image? hr (by omega) hm
    have hnat := Char.toNat_ofNat ((runs.findSome? (·.image? c.toNat)).getD c.toNat)
    split_ifs at hnat <;> omega

theorem not_isBelow_sigma (before after : List Char) : ¬ IsBelow (sigma before after) := by
  rintro ⟨-, hlt⟩
  unfold sigma at hlt
  split_ifs at hlt <;> exact absurd hlt (by decide)

/-- What the first character of a text turns to. -/
def front (passed : List Char) (c : Char) (rest : List Char) : List Char :=
  if c = capitalSigma then [sigma passed rest] else ofChar c

theorem after_cons (passed : List Char) (c : Char) (rest : List Char) :
    after passed (c :: rest) = front passed c rest ++ after (c :: passed) rest := rfl

theorem front_ne_nil (passed : List Char) (c : Char) (rest : List Char) : front passed c rest ≠ [] := by
  unfold front ofChar
  split_ifs <;> simp

theorem eq_of_mem_front {passed rest : List Char} {c x : Char} (hx : IsBelow x)
    (h : x ∈ front passed c rest) : c = x ∧ front passed c rest = [x] := by
  unfold front at h ⊢
  split_ifs at h ⊢ with hsigma
  · obtain rfl := List.mem_singleton.mp h
    exact absurd hx (not_isBelow_sigma passed rest)
  · exact eq_of_mem_ofChar hx h

variable {separator : List Char}

theorem prefix_of_prefix_after (hsep : ∀ x ∈ separator, IsBelow x) {passed cs : List Char}
    (h : separator <+: after passed cs) : separator <+: cs := by
  induction separator generalizing passed cs with
  | nil => exact List.nil_prefix
  | cons x separator ih =>
    obtain ⟨hx, hrest⟩ := List.forall_mem_cons.mp hsep
    cases cs with
    | nil => exact absurd (List.prefix_nil.mp h) (by simp)
    | cons c cs =>
      rw [after_cons] at h
      obtain ⟨y, ys, hfront⟩ := List.exists_cons_of_ne_nil (front_ne_nil passed c cs)
      have hy : x = y := by
        rw [hfront, List.cons_append] at h
        exact (List.cons_prefix_cons.mp h).1
      obtain ⟨rfl, hsingle⟩ := eq_of_mem_front hx (by rw [hfront, hy]; exact List.mem_cons_self)
      rw [hsingle] at h
      exact List.cons_prefix_cons.mpr ⟨rfl, ih hrest (List.cons_prefix_cons.mp h).2⟩

/-- A text has a separator below the letters if its lower-case form has it. -/
theorem infix_of_infix_after (hsep : ∀ x ∈ separator, IsBelow x) (hne : separator ≠ [])
    {passed cs : List Char} (h : separator <:+: after passed cs) : separator <:+: cs := by
  induction cs generalizing passed with
  | nil => exact h
  | cons c cs ih =>
    rw [after_cons] at h
    by_cases hbelow : ∃ x ∈ front passed c cs, IsBelow x
    · obtain ⟨x, hmem, hx⟩ := hbelow
      obtain ⟨rfl, hsingle⟩ := eq_of_mem_front hx hmem
      rw [hsingle, List.singleton_append, List.infix_cons_iff] at h
      obtain hprefix | hwithin := h
      · have hafter : separator <+: after passed (c :: cs) := by rwa [after_cons, hsingle]
        exact (prefix_of_prefix_after hsep hafter).isInfix
      · exact (ih hwithin).trans (List.suffix_cons c cs).isInfix
    · -- no occurrence starts in what the character turns to
      have hskip (ys : List Char) (hys : ∀ y ∈ ys, ¬ IsBelow y)
          (h : separator <:+: ys ++ after (c :: passed) cs) :
          separator <:+: after (c :: passed) cs := by
        induction ys with
        | nil => exact h
        | cons y ys ih' =>
          obtain ⟨hy, hrest⟩ := List.forall_mem_cons.mp hys
          obtain hprefix | hwithin := List.infix_cons_iff.mp h
          · obtain ⟨x, separator', rfl⟩ := List.exists_cons_of_ne_nil hne
            obtain ⟨rfl, -⟩ := List.cons_prefix_cons.mp hprefix
            exact absurd (hsep _ List.mem_cons_self) hy
          · exact ih' hrest hwithin
      have hrest := hskip _ (fun y hy hbelow' => hbelow ⟨y, hy, hbelow'⟩) h
      exact (ih hrest).trans (List.suffix_cons c cs).isInfix

/-- In ASCII the lower-case form is that of every character. -/
theorem lower_of_ascii {cs : List Char} (h : ∀ c ∈ cs, c.toNat < 0x80) :
    lower cs = cs.map Char.toLower := by
  have hafter (passed : List Char) : after passed cs = cs.map Char.toLower := by
    induction cs generalizing passed with
    | nil => rfl
    | cons c cs ih =>
      obtain ⟨hc, hrest⟩ := List.forall_mem_cons.mp h
      have hsigma : c ≠ capitalSigma := fun heq => absurd (heq ▸ hc) (by decide)
      rw [after, if_neg hsigma, ofChar, if_pos hc, ih hrest]
      rfl
  exact hafter []

end Telemetry.Text.Lower
