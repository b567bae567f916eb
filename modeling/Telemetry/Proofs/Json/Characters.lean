import Telemetry.Proofs.Json.Printing

/-!
# The characters of a compact text

The compact text of a document has no control characters: those of its strings are escaped, a number has
digits and marks only, and nothing stands at line breaks. So it is a single line, whatever the document holds.
-/
namespace Telemetry

namespace Json

/-- The control characters are those before the blank. -/
def NoControl (cs : List Char) : Prop := ∀ c ∈ cs, 0x20 ≤ c.toNat

theorem noControl_cons {c : Char} {cs : List Char} : NoControl (c :: cs) ↔ 0x20 ≤ c.toNat ∧ NoControl cs :=
  List.forall_mem_cons

theorem noControl_append {cs ds : List Char} : NoControl (cs ++ ds) ↔ NoControl cs ∧ NoControl ds :=
  List.forall_mem_append

theorem NoControl.lineFeed_not_mem {cs : List Char} (h : NoControl cs) : '\n' ∉ cs := by
  intro hmem
  exact absurd (h '\n' hmem) (by decide)

theorem noControl_escaped (c : Char) : NoControl (escaped c) := by
  have hnil : NoControl [] := by simp [NoControl]
  have hhex : NoControl (Text.Hex.padded 4 c.toNat) := fun d hd =>
    le_trans (by decide) (Text.Hex.le_of_mem_padded hd)
  unfold escaped
  split_ifs with hquote hbackslash hfeed hreturn htab hback hform hcontrol
  case neg => exact noControl_cons.mpr ⟨not_lt.mp hcontrol, hnil⟩
  all_goals simp [noControl_cons, hnil, hhex]

theorem noControl_quoted (s : String) : NoControl (quoted s) := by
  have hbody : NoControl (s.toList.flatMap escaped) := by
    intro d hd
    obtain ⟨c, -, hc⟩ := List.mem_flatMap.mp hd
    exact noControl_escaped c d hc
  have hquote : NoControl ['"'] := by simp [NoControl]
  exact noControl_cons.mpr ⟨by decide, noControl_append.mpr ⟨hbody, hquote⟩⟩

theorem IsDigits.noControl {ds : List Char} (h : IsDigits ds) : NoControl ds := by
  intro c hc
  have hdigit := h.isDigit c hc
  rw [Char.isDigit, Bool.and_eq_true, decide_eq_true_eq] at hdigit
  exact le_trans (by decide) (UInt32.le_iff_toNat_le.mp hdigit.1)

theorem IsFraction.noControl {text : List Char} {fraction : Option (List Char)}
    (h : IsFraction text fraction) : NoControl text := by
  cases h with
  | absent => simp [NoControl]
  | present hds => exact noControl_cons.mpr ⟨by decide, hds.noControl⟩

theorem IsExponent.noControl {text : List Char} {exponent : Option Int} (h : IsExponent text exponent) :
    NoControl text := by
  have hmarked {mark : Char} {rest : List Char} (hmark : mark = 'e' ∨ mark = 'E') (hrest : NoControl rest) :
      NoControl (mark :: rest) := by
    refine noControl_cons.mpr ⟨?_, hrest⟩
    obtain rfl | rfl := hmark <;> decide
  cases h with
  | absent => simp [NoControl]
  | unsigned hmark hds => exact hmarked hmark hds.noControl
  | plus hmark hds => exact hmarked hmark (noControl_cons.mpr ⟨by decide, hds.noControl⟩)
  | minus hmark hds => exact hmarked hmark (noControl_cons.mpr ⟨by decide, hds.noControl⟩)

theorem IsUnsigned.noControl {negative : Bool} {text : List Char} {l : Literal}
    (h : IsUnsigned negative text l) : NoControl text := by
  cases h with
  | mk hwhole hfraction hexponent =>
    exact noControl_append.mpr
      ⟨hwhole.noControl, noControl_append.mpr ⟨hfraction.noControl, hexponent.noControl⟩⟩

theorem IsLiteral.noControl {text : List Char} {l : Literal} (h : IsLiteral text l) : NoControl text := by
  cases h with
  | plain h => exact h.noControl
  | minus h => exact noControl_cons.mpr ⟨by decide, h.noControl⟩

theorem Denotes.exists_isLiteral {text : List Char} {n : Number} (h : Denotes text (.number n)) :
    ∃ l, IsLiteral text l := by
  cases h with
  | number hl hx => exact ⟨_, hl⟩

theorem noControl_numberText (n : Number) : NoControl (numberText n) := by
  obtain ⟨l, hl⟩ := (denotes_numberText n).exists_isLiteral
  exact hl.noControl

theorem noControl_enclose {left right : Char} {texts : List (List Char)} (depth : Nat)
    (hleft : 0x20 ≤ left.toNat) (hright : 0x20 ≤ right.toNat) (htexts : ∀ text ∈ texts, NoControl text) :
    NoControl (Layout.compact.enclose depth left right texts) := by
  intro c hc
  rw [Layout.enclose] at hc
  split_ifs at hc with hempty
  · simp only [List.mem_cons, List.not_mem_nil, or_false] at hc
    obtain rfl | rfl := hc
    · exact hleft
    · exact hright
  · simp only [Layout.lineBreak, List.nil_append, List.mem_cons, List.mem_append, List.not_mem_nil,
      or_false] at hc
    obtain rfl | hc | rfl := hc
    · exact hleft
    · obtain rfl | ⟨text, htext, hc⟩ := Text.mem_intercalate hc
      · decide
      · exact htexts text htext c hc
    · exact hright

theorem noControl_print (depth : Nat) (j : Json) : NoControl (print .compact depth j) := by
  induction j using induction generalizing depth with
  | null => simp [NoControl, print]
  | bool b => cases b <;> simp [NoControl, print]
  | number n => exact noControl_numberText n
  | string s => exact noControl_quoted s
  | array items ih =>
    rw [print, printItems_eq_map]
    exact noControl_enclose depth (by decide) (by decide)
      (List.forall_mem_map.mpr fun j hj => ih j hj (depth + 1))
  | object members ih =>
    rw [print, printMembers_eq_map]
    refine noControl_enclose depth (by decide) (by decide) (List.forall_mem_map.mpr fun e he => ?_)
    exact noControl_append.mpr
      ⟨noControl_quoted e.1, noControl_cons.mpr ⟨by decide, ih e he (depth + 1)⟩⟩

theorem noControl_compact (j : Json) : NoControl j.compact.toList := by
  rw [compact, String.toList_ofList]
  exact noControl_print 0 j

end Json
end Telemetry
