import Telemetry.Proofs.Json.NumberText
import Telemetry.Proofs.Json.Reading

/-!
# What a printed text says

The text of a document says it in both layouts, with its numbers as doubles: every character of a string is
written so that it stands for itself, and what stands at line breaks and after colons are blanks.
-/
namespace Telemetry.Json

theorem isCodeUnit_padded {n : Nat} (h : n < 32) : IsCodeUnit (Text.Hex.padded 4 n) n := by
  refine ⟨Text.Hex.length_padded 4 n, (Text.Hex.value?_eq_some_iff _ _).mpr ?_⟩
  rw [Text.Hex.length_padded, Text.Hex.map_toLower_padded]
  exact ⟨h.trans (by norm_num), rfl⟩

theorem standsFor_escaped (c : Char) : StandsFor (escaped c) c := by
  unfold escaped
  split_ifs with hquote hbackslash hfeed hreturn htab hback hform hcontrol
  · subst hquote
    exact .escape (by decide)
  · subst hbackslash
    exact .escape (by decide)
  · subst hfeed
    exact .escape (by decide)
  · subst hreturn
    exact .escape (by decide)
  · subst htab
    exact .escape (by decide)
  · have hc : c = Char.ofNat 8 := by rw [← hback, Char.ofNat_toNat]
    exact hc ▸ .escape (by decide)
  · have hc : c = Char.ofNat 12 := by rw [← hform, Char.ofNat_toNat]
    exact hc ▸ .escape (by decide)
  · exact .codeUnit (isCodeUnit_padded hcontrol)
  · exact .plain (not_lt.mp hcontrol) hquote hbackslash

theorem isBody_escaped (cs : List Char) : IsBody (cs.flatMap escaped) cs := by
  induction cs with
  | nil => exact .nil
  | cons c cs ih => exact .cons (standsFor_escaped c) ih

theorem isQuoted_quoted (s : String) : IsQuoted (quoted s) s := .mk (isBody_escaped s.toList)

theorem blanks_nil : Blanks [] := fun _ h => absurd h List.not_mem_nil

theorem blanks_lineBreak (layout : Layout) (depth : Nat) : Blanks (layout.lineBreak depth) := by
  cases layout with
  | compact => exact blanks_nil
  | indented =>
    intro c hc
    obtain rfl | hc := List.mem_cons.mp hc
    · exact .inr (.inr (.inl rfl))
    · exact .inl (List.eq_of_mem_replicate hc)

/-- What stands after a colon. -/
theorem exists_colon (layout : Layout) : ∃ gap, layout.colon = ':' :: gap ∧ Blanks gap := by
  cases layout with
  | compact => exact ⟨[], rfl, blanks_nil⟩
  | indented => exact ⟨[' '], rfl, fun c hc => .inl (List.mem_singleton.mp hc)⟩

/-- The line breaks between items may be counted as the beginnings of the items. -/
theorem append_intercalate (blanks : List Char) {texts : List (List Char)} (h : texts ≠ []) :
    blanks ++ List.intercalate (',' :: blanks) texts =
      List.intercalate [','] (texts.map (blanks ++ ·)) := by
  induction texts with
  | nil => exact absurd rfl h
  | cons t texts ih =>
    cases texts with
    | nil => simp
    | cons u texts =>
      have hrest := ih (List.cons_ne_nil _ _)
      rw [List.map_cons] at hrest
      rw [List.intercalate_cons_cons, List.map_cons, List.map_cons, List.intercalate_cons_cons, ← hrest]
      simp

theorem exists_enclose (layout : Layout) (depth : Nat) (left right : Char) (texts : List (List Char)) :
    ∃ closing, Blanks closing ∧ layout.enclose depth left right texts =
      left :: (List.intercalate [','] (texts.map (layout.lineBreak (depth + 1) ++ ·)) ++
        (closing ++ [right])) := by
  by_cases h : texts = []
  · subst h
    exact ⟨[], blanks_nil, rfl⟩
  · refine ⟨layout.lineBreak depth, blanks_lineBreak layout depth, ?_⟩
    rw [Layout.enclose, if_neg (by simpa using h), ← append_intercalate _ h, List.append_assoc]

theorem printItems_eq_map (layout : Layout) (depth : Nat) (items : List Json) :
    printItems layout depth items = items.map (print layout depth) :=
  eq_map rfl (fun _ _ => rfl) items

theorem printMembers_eq_map (layout : Layout) (depth : Nat) (members : List (String × Json)) :
    printMembers layout depth members =
      members.map fun e => quoted e.1 ++ (layout.colon ++ print layout depth e.2) :=
  eq_map rfl (fun _ _ => rfl) members

namespace Layout

/-- The text of a document after blanks. -/
def spaced (layout : Layout) (depth : Nat) {before : List Char} (hbefore : Blanks before) (j : Json) :
    Spaced :=
  ⟨before, print layout depth j, [], j.mapNumbers Number.rounded, hbefore, blanks_nil⟩

/-- A member on a line of its own. -/
def member (layout : Layout) (depth : Nat) {gap : List Char} (hgap : Blanks gap) (e : String × Json) :
    Member :=
  ⟨layout.lineBreak depth, quoted e.1, e.1, [], layout.spaced depth hgap e.2,
    blanks_lineBreak layout depth, isQuoted_quoted e.1, blanks_nil⟩

end Layout

theorem denotes_print (layout : Layout) (depth : Nat) (j : Json) :
    Denotes (print layout depth j) (j.mapNumbers Number.rounded) := by
  induction j using induction generalizing depth with
  | null => exact .null
  | bool b =>
    cases b with
    | false => exact .boolFalse
    | true => exact .boolTrue
  | number n => exact denotes_numberText n
  | string s => exact .string (isQuoted_quoted s)
  | array items ih =>
    have hblanks := blanks_lineBreak layout (depth + 1)
    have hitems : ∀ v ∈ items.map (layout.spaced (depth + 1) hblanks), Denotes v.text v.value :=
      List.forall_mem_map.mpr fun j hj => ih j hj (depth + 1)
    obtain ⟨closing, hclosing, henclose⟩ :=
      exists_enclose layout depth '[' ']' (printItems layout (depth + 1) items)
    have hdenotes := Denotes.array hitems hclosing
    have hwhole : (items.map (layout.spaced (depth + 1) hblanks)).map Spaced.whole =
        (printItems layout (depth + 1) items).map (layout.lineBreak (depth + 1) ++ ·) := by
      simp [printItems_eq_map, Layout.spaced, Spaced.whole]
    rw [hwhole, ← henclose, List.map_map] at hdenotes
    rw [print, mapNumbers, mapItems_eq_map]
    exact hdenotes
  | object members ih =>
    obtain ⟨gap, hcolon, hgap⟩ := exists_colon layout
    have hmembers : ∀ m ∈ members.map (layout.member (depth + 1) hgap), Denotes m.item.text m.item.value :=
      List.forall_mem_map.mpr fun e he => ih e he (depth + 1)
    obtain ⟨closing, hclosing, henclose⟩ :=
      exists_enclose layout depth '\x7b' '\x7d' (printMembers layout (depth + 1) members)
    have hdenotes := Denotes.object hmembers hclosing
    have hwhole : (members.map (layout.member (depth + 1) hgap)).map Member.whole =
        (printMembers layout (depth + 1) members).map (layout.lineBreak (depth + 1) ++ ·) := by
      simp [printMembers_eq_map, Layout.member, Layout.spaced, Member.whole, Spaced.whole, hcolon]
    rw [hwhole, ← henclose, List.map_map] at hdenotes
    rw [print, mapNumbers, mapMembers_eq_map]
    exact hdenotes

/-- A printed text says its document, with the numbers as doubles, and no other one. -/
theorem says_print_iff (layout : Layout) (j j' : Json) :
    Says (.ofList (print layout 0 j)) j' ↔ j' = j.mapNumbers Number.rounded := by
  have hsays : Says (.ofList (print layout 0 j)) (j.mapNumbers Number.rounded) := by
    refine ⟨layout.spaced 0 blanks_nil j, ?_, rfl, denotes_print layout 0 j⟩
    rw [String.toList_ofList, Spaced.whole, Layout.spaced, List.append_nil, List.nil_append]
  exact ⟨fun h => h.unique hsays, fun h => h ▸ hsays⟩

end Telemetry.Json
