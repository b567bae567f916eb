import Telemetry.Log.Directive
import Telemetry.Proofs.Text

/-!
# Plain directives

A directive without brackets gives a threshold to everything or to a target. `Writes` is the grammar of their
texts, and each of them is read as the directive that it writes.
-/
namespace Telemetry

namespace Threshold

/-- The texts for a threshold: its name in any letter case, and its number. -/
inductive Spells : List Char → Threshold → Prop
  | name {cs : List Char} {t : Threshold} (h : cs.map Char.toLower = t.text.toList) : Spells cs t
  | number {ds : List Char} {t : Threshold} (hne : ds ≠ []) (hds : ∀ c ∈ ds, c.isDigit = true)
    (h : all[Decimal.ofDigits ds]? = some t) : Spells ds t

theorem spells_text (l : Level) : Spells l.text.toList (some l) := by
  refine .name ?_
  cases l <;> decide

theorem text_ne_nil (t : Threshold) : t.text.toList ≠ [] := by
  rcases t with _ | l
  · decide
  · cases l <;> decide

/-- Names have small letters only. -/
theorem letters_text (t : Threshold) : ∀ c ∈ t.text.toList, 97 ≤ c.toNat ∧ c.toNat ≤ 122 := by
  have hall : t.text.toList.all (fun c => 97 ≤ c.toNat && c.toNat ≤ 122) = true := by
    rcases t with _ | l
    · decide
    · cases l <;> decide
  simpa using hall

theorem Spells.ne_nil {cs : List Char} {t : Threshold} (h : Spells cs t) : cs ≠ [] := by
  cases h with
  | name h =>
    rintro rfl
    exact t.text_ne_nil h.symm
  | number hne => exact hne

theorem Spells.isAlphanum {cs : List Char} {t : Threshold} (h : Spells cs t) :
    ∀ c ∈ cs, c.isAlphanum = true := by
  intro c hc
  cases h with
  | name h =>
    have hmem : c.toLower ∈ t.text.toList := h ▸ List.mem_map_of_mem hc
    rw [← Text.isAlphanum_toLower_iff, Text.isAlphanum_iff]
    exact .inl (.inr (t.letters_text _ hmem))
  | number hne hds => rw [Char.isAlphanum, hds c hc, Bool.or_true]

/-- A name is no number, since its first letter is no digit. -/
theorem natural?_of_name {cs : List Char} {t : Threshold} (h : cs.map Char.toLower = t.text.toList) :
    Decimal.natural? cs = none := by
  obtain ⟨c, cs, rfl⟩ := List.exists_cons_of_ne_nil (Spells.name h).ne_nil
  have hlower := Text.toNat_toLower c
  have hletter : 97 ≤ c.toLower.toNat ∧ c.toLower.toNat ≤ 122 := by
    refine t.letters_text _ ?_
    rw [← h]
    exact List.mem_cons_self
  have hdigit : c.isDigit = false := by
    simp only [Char.isDigit, Bool.and_eq_false_iff, decide_eq_false_iff_not, ge_iff_le,
      UInt32.le_iff_toNat_le]
    right
    change ¬ c.toNat ≤ 57
    split_ifs at hlower <;> omega
  simp [Decimal.natural?, hdigit]

theorem Spells.ofText? {cs : List Char} {t : Threshold} (h : Spells cs t) : ofText? cs = some t := by
  have hplus : cs.head? ≠ some '+' := by
    intro hhead
    exact absurd (h.isAlphanum '+' (List.mem_of_head? hhead)) (by decide)
  rw [Threshold.ofText?, if_neg hplus]
  cases h with
  | name h =>
    rw [natural?_of_name h]
    simp only [Text.sameLetters, h]
    rcases t with _ | l
    · decide
    · cases l <;> decide
  | number hne hds h =>
    rw [Decimal.natural?, if_neg (by simpa using hne), if_pos (List.all_eq_true.mpr hds)]
    exact h

end Threshold

namespace Log

/-- The characters of names are letters and digits of ASCII and the underscore. -/
def IsNameChar (c : Char) : Prop := c.isAlphanum = true ∨ c = '_'

instance : DecidablePred IsNameChar := fun _ => inferInstanceAs (Decidable (_ ∨ _))

@[mk_iff]
structure IsName (name : String) : Prop where
  ne_nil : name.toList ≠ []
  char : ∀ c ∈ name.toList, IsNameChar c

instance : DecidablePred IsName := fun name =>
  decidable_of_iff (name.toList ≠ [] ∧ name.toList.all (IsNameChar ·) = true) (by simp [isName_iff])

theorem IsNameChar.toNat_spec {c : Char} (h : IsNameChar c) :
    (0x30 ≤ c.toNat ∧ c.toNat ≤ 0x7A) ∧ c ≠ '=' ∧ c ≠ '[' := by
  obtain h | rfl := h
  · rw [Text.isAlphanum_iff] at h
    refine ⟨by omega, ?_, ?_⟩
    · rintro rfl
      exact absurd h (by decide)
    · rintro rfl
      exact absurd h (by decide)
  · decide

theorem IsNameChar.isBlank {c : Char} (h : IsNameChar c) : Text.isBlank c = false := by
  obtain ⟨hrange, -, -⟩ := h.toNat_spec
  exact Text.isBlank_of_ascii ⟨by omega, by omega⟩

theorem IsNameChar.ne_comma {c : Char} (h : IsNameChar c) : c ≠ ',' := by
  rintro rfl
  exact absurd h.toNat_spec.1 (by decide)

theorem IsNameChar.utf8Size_eq {c : Char} (h : IsNameChar c) : c.utf8Size = 1 := by
  obtain ⟨hrange, -, -⟩ := h.toNat_spec
  rw [Char.utf8Size_eq_one_iff, UInt32.le_iff_toNat_le]
  exact hrange.2.trans (by decide)

theorem IsNameChar.startsTarget {c : Char} (h : IsNameChar c) : Directive.startsTarget c = true := by
  obtain h | rfl := h
  · have hascii : c.toNat < 0x80 := by
      rw [Text.isAlphanum_iff] at h
      omega
    have hletter : Text.isAlphanumeric c = c.isAlphanum := by
      rw [Text.isAlphanumeric, Text.isAlphabetic, Text.isNumeric, if_pos hascii, if_pos hascii]
      rfl
    simp [Directive.startsTarget, hletter, h]
  · decide

namespace Directive

theorem takeBytes?_append {front : List Char} (h : ∀ c ∈ front, IsNameChar c) (rest : List Char) :
    takeBytes? front.length (front ++ rest) = some front := by
  induction front with
  | nil => simp [takeBytes?]
  | cons c front ih =>
    obtain ⟨hc, hfront⟩ := List.forall_mem_cons.mp h
    simp [takeBytes?, hc.utf8Size_eq, ih hfront]

theorem piece_append {front : List Char} (h : ∀ c ∈ front, IsNameChar c) (rest : List Char) :
    piece (front ++ rest) 0 front.length = .ok front := by
  simp [piece, dropBytes?, takeBytes?_append h]

theorem pieceFrom_zero (whole : List Char) : pieceFrom whole 0 = .ok whole := by
  simp [pieceFrom, dropBytes?]

/-- The piece behind an equals sign. -/
theorem pieceFrom_append {front : List Char} (h : ∀ c ∈ front, IsNameChar c) (rest : List Char) :
    pieceFrom (front ++ '=' :: rest) (front.length + 1) = .ok rest := by
  have hdrop : dropBytes? (front.length + 1) (front ++ '=' :: rest) = some rest := by
    induction front with
    | nil =>
      have hsize : '='.utf8Size = 1 := by decide
      simp [dropBytes?, hsize]
    | cons c front ih =>
      obtain ⟨hc, hfront⟩ := List.forall_mem_cons.mp h
      simp [dropBytes?, hc.utf8Size_eq, ih hfront]
  rw [pieceFrom, hdrop]

namespace Draft

/-- A name goes on as long as its characters do. -/
theorem steps_name_append (whole : List Char) (first place : Nat) (d : Directive) {cs : List Char}
    (h : ∀ c ∈ cs, IsNameChar c) (rest : List Char) :
    steps whole place ⟨.name first, d⟩ (cs ++ rest) =
      steps whole (place + cs.length) ⟨.name first, d⟩ rest := by
  induction cs generalizing place with
  | nil => simp
  | cons c cs ih =>
    obtain ⟨hc, hcs⟩ := List.forall_mem_cons.mp h
    obtain ⟨-, hequals, hbracket⟩ := hc.toNat_spec
    have hstep : step whole place c ⟨.name first, d⟩ = .ok ⟨.name first, d⟩ := by
      simp [step, onName, hequals, hbracket, hc.ne_comma]
      rfl
    rw [List.cons_append, steps, hstep, hc.utf8Size_eq, List.length_cons, Nat.add_comm cs.length 1,
      ← Nat.add_assoc]
    exact ih (place + 1) hcs

/-- So does a level. -/
theorem steps_level (whole : List Char) (first place : Nat) (d : Directive) {cs : List Char}
    (h : ∀ c ∈ cs, IsNameChar c) :
    steps whole place ⟨.level first, d⟩ cs = .ok ⟨.level first, d⟩ := by
  induction cs generalizing place with
  | nil => rfl
  | cons c cs ih =>
    obtain ⟨hc, hcs⟩ := List.forall_mem_cons.mp h
    have hstep : step whole place c ⟨.level first, d⟩ = .ok ⟨.level first, d⟩ := by
      simp [step, onLevel, hc.ne_comma]
      rfl
    rw [steps, hstep]
    exact ih _ hcs

theorem steps_start_append (whole : List Char) {cs : List Char} (hne : cs ≠ [])
    (h : ∀ c ∈ cs, IsNameChar c) (rest : List Char) :
    steps whole 0 start (cs ++ rest) = steps whole cs.length ⟨.name 0, plain (some .trace)⟩ rest := by
  cases cs with
  | nil => exact absurd rfl hne
  | cons c cs =>
    obtain ⟨hc, hcs⟩ := List.forall_mem_cons.mp h
    obtain ⟨-, -, hbracket⟩ := hc.toNat_spec
    have hstep : step whole 0 c start = .ok ⟨.name 0, plain (some .trace)⟩ := by
      simp [step, start, hbracket, hc.startsTarget]
    rw [List.cons_append, steps, hstep, hc.utf8Size_eq, List.length_cons, Nat.add_comm cs.length 1]
    exact steps_name_append whole 0 (0 + 1) _ hcs rest

end Draft

/-- The texts of directives without brackets: a threshold for everything, or a target and its threshold. -/
inductive Writes : List Char → Directive → Prop
  | plain {cs : List Char} {t : Threshold} (h : Threshold.Spells cs t) : Writes cs (.plain t)
  | ofTarget {name : String} {cs : List Char} {t : Threshold} (hname : IsName name)
    (h : Threshold.Spells cs t) : Writes (name.toList ++ '=' :: cs) (.ofTarget name t)

theorem isNameChar_of_spells {cs : List Char} {t : Threshold} (h : Threshold.Spells cs t) :
    ∀ c ∈ cs, IsNameChar c := fun c hc => .inl (h.isAlphanum c hc)

theorem Writes.char {cs : List Char} {d : Directive} (h : Writes cs d) :
    ∀ c ∈ cs, IsNameChar c ∨ c = '=' := by
  intro c hc
  cases h with
  | plain h => exact .inl (isNameChar_of_spells h c hc)
  | ofTarget hname h =>
    rw [List.mem_append, List.mem_cons] at hc
    obtain hc | rfl | hc := hc
    · exact .inl (hname.char c hc)
    · exact .inr rfl
    · exact .inl (isNameChar_of_spells h c hc)

theorem Writes.ne_nil {cs : List Char} {d : Directive} (h : Writes cs d) : cs ≠ [] := by
  cases h with
  | plain h => exact h.ne_nil
  | ofTarget hname h => simp

theorem Writes.comma_not_mem {cs : List Char} {d : Directive} (h : Writes cs d) : ',' ∉ cs := by
  intro hmem
  obtain hc | hc := h.char ',' hmem
  · exact hc.ne_comma rfl
  · exact absurd hc (by decide)

theorem Writes.trim_eq {cs : List Char} {d : Directive} (h : Writes cs d) : Text.trim cs = cs := by
  refine Text.trim_eq_self fun c hc => ?_
  obtain hc | rfl := h.char c hc
  · exact hc.isBlank
  · decide

/-- A text is read as the directive that it writes. -/
theorem Writes.parse {cs : List Char} {d : Directive} (h : Writes cs d) : parse cs = .ok d := by
  have htrim := h.trim_eq
  cases h with
  | plain h =>
    have hsteps := Draft.steps_start_append cs h.ne_nil (isNameChar_of_spells h) []
    rw [List.append_nil] at hsteps
    rw [Directive.parse, htrim, hsteps]
    simp [Draft.steps, Draft.finish, pieceFrom_zero, named, h.ofText?, bind, Except.bind, Except.map]
  | @ofTarget name cs t hname h =>
    have hsteps := Draft.steps_start_append (name.toList ++ '=' :: cs) hname.ne_nil hname.char ('=' :: cs)
    have hequals : Draft.step (name.toList ++ '=' :: cs) name.toList.length '='
        ⟨.name 0, .plain (some .trace)⟩ =
          .ok ⟨.level (name.toList.length + 1), .ofTarget name (some .trace)⟩ := by
      simp only [Draft.step, Draft.onName, piece_append hname.char, bind, Except.bind]
      simp [Directive.plain, Directive.ofTarget]
      rfl
    have hthreshold : threshold? cs = .ok t := by
      rw [threshold?, if_neg (by simpa using h.ne_nil), h.ofText?]
    rw [Directive.parse, htrim, hsteps, Draft.steps, hequals]
    simp only [bind, Except.bind]
    rw [Draft.steps_level _ _ _ _ (isNameChar_of_spells h)]
    simp only [Draft.finish, pieceFrom_append hname.char, hthreshold, bind, Except.bind]
    rfl

end Directive
end Log
end Telemetry
