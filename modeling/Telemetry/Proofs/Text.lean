import Mathlib.Data.List.TakeWhile
import Mathlib.Tactic
import Telemetry.Text.Blank
import Telemetry.Text.Utf8

/-!
# Texts and their bytes

The bytes of a text are those of its characters, one after the other, and texts are in the order of their
bytes. A text is split at the first occurrence of a separator, which `SplitsAt` describes, and trimming takes
the white space off its ends and nothing else.
-/
namespace Telemetry

theorem utf8_eq_flatMap (s : String) : Text.utf8 s = s.toList.flatMap String.utf8EncodeChar := by
  rw [Text.utf8, String.toUTF8_eq_toByteArray, ← String.utf8Encode_toList, List.utf8Encode,
    List.toList_data_toByteArray]

theorem utf8_append (s s' : String) : Text.utf8 (s ++ s') = Text.utf8 s ++ Text.utf8 s' := by
  rw [utf8_eq_flatMap, utf8_eq_flatMap, utf8_eq_flatMap, String.toList_append, List.flatMap_append]

/-- No character has more than four bytes. -/
theorem utf8ByteSize_ofList_le (cs : List Char) : (String.ofList cs).utf8ByteSize ≤ 4 * cs.length := by
  have hbytes : (String.ofList cs).utf8ByteSize = (cs.flatMap String.utf8EncodeChar).length := by
    have hlist := utf8_eq_flatMap (.ofList cs)
    rw [String.toList_ofList] at hlist
    rw [← hlist, Text.utf8, String.toUTF8_eq_toByteArray]
    rfl
  have hsum := List.sum_le_card_nsmul (cs.map fun c => (String.utf8EncodeChar c).length) 4 <|
    List.forall_mem_map.mpr fun c _ => (String.length_utf8EncodeChar c).trans_le c.utf8Size_le_four
  rw [List.length_map, smul_eq_mul, Nat.mul_comm] at hsum
  rwa [hbytes, List.length_flatMap]

theorem utf8EncodeChar_of_lt {c : Char} (hc : c.toNat < 128) :
    String.utf8EncodeChar c = [UInt8.ofNat c.toNat] := by
  rw [String.utf8EncodeChar]
  exact if_pos (Nat.le_of_lt_succ hc)

theorem le_of_mem_utf8EncodeChar {c : Char} (hc : 128 ≤ c.toNat) {b : UInt8}
    (hb : b ∈ String.utf8EncodeChar c) : 128 ≤ b.toNat := by
  have hhigh (n : Nat) (h : 128 ≤ n % 256) : 128 ≤ (UInt8.ofNat n).toNat := by simpa using h
  rw [String.utf8EncodeChar] at hb
  have hv : ¬ c.val.toNat ≤ 0x7f := Nat.not_le.mpr hc
  rw [if_neg hv] at hb
  split at hb
  · simp only [List.mem_cons, List.not_mem_nil, or_false] at hb
    obtain rfl | rfl := hb <;> exact hhigh _ (by omega)
  · split at hb
    · simp only [List.mem_cons, List.not_mem_nil, or_false] at hb
      obtain rfl | rfl | rfl := hb <;> exact hhigh _ (by omega)
    · simp only [List.mem_cons, List.not_mem_nil, or_false] at hb
      obtain rfl | rfl | rfl | rfl := hb <;> exact hhigh _ (by omega)

/-- Whatever follows, the bytes of a character come before those of a greater one: the first byte tells how
many there are, and the digits base 64 follow from the most significant one. -/
theorem utf8EncodeChar_append_lt {c d : Char} (h : c < d) (s t : List UInt8) :
    String.utf8EncodeChar c ++ s < String.utf8EncodeChar d ++ t := by
  have hlt : c.val.toNat < d.val.toNat := h
  have hmax : d.val.toNat < 0x110000 := by
    have hvalid := d.valid
    simp only [UInt32.isValidChar, Nat.isValidChar] at hvalid
    omega
  have hdigit (k : Nat) : k / 4096 = k / 64 / 64 ∧ k / 262144 = k / 64 / 64 / 64 := by omega
  have hbyte (k : Nat) : (k % 64 + 128) % 2 ^ 8 = k % 64 + 128 ∧ (k % 32 + 192) % 2 ^ 8 = k % 32 + 192 ∧
      (k % 16 + 224) % 2 ^ 8 = k % 16 + 224 ∧ (k % 8 + 240) % 2 ^ 8 = k % 8 + 240 := by omega
  rw [String.utf8EncodeChar, String.utf8EncodeChar]
  generalize c.val.toNat = m at *
  generalize d.val.toNat = n at *
  split_ifs <;>
    simp only [List.cons_append, List.nil_append, List.cons_lt_cons_iff, UInt8.lt_iff_toNat_lt,
      ← UInt8.toNat_inj, UInt8.toNat_ofNat', hdigit, hbyte] <;>
    clear hdigit hbyte <;> omega

namespace Text

theorem utf8_injective {s s' : String} (h : utf8 s = utf8 s') : s = s' :=
  Option.some.inj (by rw [← ofUtf8?_utf8, ← ofUtf8?_utf8, h])

/-- The order by code points is the order by bytes. -/
theorem utf8_lt_utf8 {s s' : String} (h : s < s') : utf8 s < utf8 s' := by
  rw [String.lt_iff] at h
  rw [utf8_eq_flatMap, utf8_eq_flatMap]
  generalize s.toList = cs at *
  generalize s'.toList = ds at *
  induction cs generalizing ds with
  | nil =>
    cases ds with
    | nil => simp at h
    | cons d ds =>
      obtain ⟨b, bs, hd⟩ := List.exists_cons_of_ne_nil (@String.utf8EncodeChar_ne_nil d)
      simp [hd]
  | cons c cs ih =>
    cases ds with
    | nil => simp at h
    | cons d ds =>
      rw [List.flatMap_cons, List.flatMap_cons]
      obtain hlt | ⟨rfl, hrest⟩ := List.cons_lt_cons_iff.mp h
      · exact utf8EncodeChar_append_lt hlt _ _
      · exact List.append_left_lt (ih ds hrest)

/-- A text is what stands before the first occurrence of a separator, the separator, and what stands
after it. -/
structure SplitsAt (separator cs before after : List Char) : Prop where
  eq : cs = before ++ (separator ++ after)
  first : ∀ b a, cs = b ++ (separator ++ a) → before.length ≤ b.length

theorem SplitsAt.unique {separator cs before after before' after' : List Char}
    (h : SplitsAt separator cs before after) (h' : SplitsAt separator cs before' after') :
    before = before' ∧ after = after' := by
  have hlen := Nat.le_antisymm (h.first _ _ h'.eq) (h'.first _ _ h.eq)
  obtain ⟨hbefore, hrest⟩ := List.append_inj (h.eq.symm.trans h'.eq) hlen
  exact ⟨hbefore, List.append_cancel_left hrest⟩

theorem splitsAt_of_splitOnce? {separator cs before after : List Char} (hne : separator ≠ [])
    (h : splitOnce? separator cs = some (before, after)) : SplitsAt separator cs before after := by
  induction cs generalizing before with
  | nil => simp [splitOnce?, hne] at h
  | cons c cs ih =>
    rw [splitOnce?] at h
    split_ifs at h with hp
    · obtain ⟨rfl, rfl⟩ := Prod.mk.inj (Option.some.inj h)
      obtain ⟨rest, hrest⟩ := List.isPrefixOf_iff_prefix.mp hp
      rw [← hrest, List.drop_left]
      exact ⟨rfl, fun _ _ _ => Nat.zero_le _⟩
    · obtain ⟨⟨before', after'⟩, hsplit, heq⟩ := Option.map_eq_some_iff.mp h
      obtain ⟨rfl, rfl⟩ := Prod.mk.inj heq
      have hcs := ih hsplit
      refine ⟨by rw [hcs.eq]; rfl, fun b a hb => ?_⟩
      cases b with
      | nil => exact absurd (List.isPrefixOf_iff_prefix.mpr ⟨a, hb.symm⟩) hp
      | cons d b => exact Nat.succ_le_succ (hcs.first b a (List.cons.inj hb).2)

theorem splitOnce?_eq_none {separator cs : List Char} (hne : separator ≠ []) :
    splitOnce? separator cs = none ↔ ¬ separator <:+: cs := by
  induction cs with
  | nil => simp [splitOnce?, hne]
  | cons c cs ih =>
    rw [splitOnce?, List.infix_cons_iff, ← List.isPrefixOf_iff_prefix]
    split_ifs with hp <;> simp [hp, ih]

theorem splitOnce?_eq_some_iff {separator cs before after : List Char} (hne : separator ≠ []) :
    splitOnce? separator cs = some (before, after) ↔ SplitsAt separator cs before after := by
  refine ⟨splitsAt_of_splitOnce? hne, fun h => ?_⟩
  cases hsplit : splitOnce? separator cs with
  | none =>
    have hinfix : separator <:+: cs := ⟨before, after, by rw [h.eq, List.append_assoc]⟩
    exact absurd hinfix ((splitOnce?_eq_none hne).mp hsplit)
  | some parts =>
    obtain ⟨rfl, rfl⟩ := h.unique (splitsAt_of_splitOnce? hne hsplit)
    rfl

/-- A separator first occurs where its first character does not stand before. -/
theorem splitsAt_of_not_mem {c : Char} {before : List Char} (hnot : c ∉ before)
    (separator after : List Char) :
    SplitsAt (c :: separator) (before ++ (c :: separator ++ after)) before after := by
  refine ⟨rfl, fun b a hb => ?_⟩
  by_contra hlt
  have hc : (before ++ (c :: separator ++ after))[b.length]? = some c := by rw [hb]; simp
  rw [List.getElem?_append_left (by omega)] at hc
  exact hnot (List.mem_of_getElem? hc)

theorem splitsAt_singleton_iff {c : Char} {cs before after : List Char} :
    SplitsAt [c] cs before after ↔ cs = before ++ c :: after ∧ c ∉ before := by
  constructor
  · intro h
    refine ⟨h.eq, fun hmem => ?_⟩
    obtain ⟨b, a, rfl⟩ := List.append_of_mem hmem
    have hfirst := h.first b (a ++ c :: after) (by rw [h.eq]; simp)
    simp at hfirst
  · rintro ⟨rfl, hnot⟩
    exact splitsAt_of_not_mem hnot [] after

theorem mem_intercalate {separator c : Char} {parts : List (List Char)}
    (h : c ∈ [separator].intercalate parts) : c = separator ∨ ∃ part ∈ parts, c ∈ part := by
  induction parts with
  | nil => simp at h
  | cons part parts ih =>
    cases parts with
    | nil => exact .inr ⟨part, List.mem_cons_self, by simpa using h⟩
    | cons part' parts =>
      rw [List.intercalate_cons_cons, List.append_assoc, List.mem_append, List.mem_append] at h
      obtain h | h | h := h
      · exact .inr ⟨part, List.mem_cons_self, h⟩
      · exact .inl (List.mem_singleton.mp h)
      · obtain heq | ⟨part'', hmem, hc⟩ := ih h
        · exact .inl heq
        · exact .inr ⟨part'', List.mem_cons_of_mem _ hmem, hc⟩

/-- No character of ASCII above the blank is white space. -/
theorem isBlank_of_ascii {c : Char} (h : 0x20 < c.toNat ∧ c.toNat < 0x80) : isBlank c = false := by
  refine decide_eq_false ?_
  omega

theorem exists_dropEnd (p : Char → Bool) (cs : List Char) :
    ∃ after : List Char, cs = dropEnd p cs ++ after ∧ after.all p = true := by
  refine ⟨(cs.reverse.takeWhile p).reverse, ?_, ?_⟩
  · rw [dropEnd, ← List.reverse_append, List.takeWhile_append_dropWhile, List.reverse_reverse]
  · simp

theorem exists_trim (cs : List Char) : ∃ before after : List Char, cs = before ++ (trim cs ++ after) ∧
    before.all isBlank = true ∧ after.all isBlank = true := by
  obtain ⟨after, hafter, hblank⟩ := exists_dropEnd isBlank (cs.dropWhile isBlank)
  refine ⟨cs.takeWhile isBlank, after, ?_, ?_, hblank⟩
  · rw [trim, ← hafter, List.takeWhile_append_dropWhile]
  · simp

theorem trim_append {before body after : List Char} (hbefore : before.all isBlank = true)
    (hafter : after.all isBlank = true) (hbody : ∀ c ∈ body, isBlank c = false) :
    trim (before ++ (body ++ after)) = body := by
  rw [List.all_eq_true] at hbefore hafter
  cases body with
  | nil =>
    have hall : ∀ c ∈ before ++ after, isBlank c = true := by
      simpa [or_imp, forall_and] using ⟨hbefore, hafter⟩
    rw [trim, List.nil_append, List.dropWhile_eq_nil_iff.mpr hall]
    rfl
  | cons c body =>
    have hc := hbody c List.mem_cons_self
    have hstart : (before ++ (c :: body ++ after)).dropWhile isBlank = c :: body ++ after := by
      rw [List.dropWhile_append_of_pos hbefore, List.cons_append,
        List.dropWhile_cons_of_neg (by simp [hc])]
    have hend : (c :: body).reverse.dropWhile isBlank = (c :: body).reverse := by
      refine List.dropWhile_eq_self_iff.mpr fun hlen => ?_
      have hmem : (c :: body).reverse[0] ∈ c :: body := List.mem_reverse.mp (List.getElem_mem hlen)
      rw [hbody _ hmem]
      exact Bool.false_ne_true
    rw [trim, hstart, dropEnd, List.reverse_append,
      List.dropWhile_append_of_pos fun d hd => hafter d (List.mem_reverse.mp hd), hend,
      List.reverse_reverse]

theorem trim_eq_self {cs : List Char} (h : ∀ c ∈ cs, isBlank c = false) : trim cs = cs := by
  have htrim : trim ([] ++ (cs ++ [])) = cs := trim_append rfl rfl h
  rwa [List.nil_append, List.append_nil] at htrim

theorem dropEnd_eq_self {p : Char → Bool} {cs : List Char} (h : ∀ c ∈ cs.getLast?, p c = false) :
    dropEnd p cs = cs := by
  rw [dropEnd]
  cases hcs : cs.reverse with
  | nil => exact (List.reverse_eq_nil_iff.mp hcs).symm
  | cons c rest =>
    have hlast : c ∈ cs.getLast? := by rw [← List.head?_reverse, hcs]; rfl
    rw [List.dropWhile_cons_of_neg (by simp [h c hlast]), ← hcs, List.reverse_reverse]

/-- Trimming stops at a character that is not white space. -/
theorem trim_append_cons {front rest : List Char} {c : Char} (hc : isBlank c = false)
    (hlast : ∀ d ∈ (c :: rest).getLast?, isBlank d = false) :
    trim (front ++ c :: rest) = front.dropWhile isBlank ++ c :: rest := by
  have hstart : (front ++ c :: rest).dropWhile isBlank = front.dropWhile isBlank ++ c :: rest := by
    rw [List.dropWhile_append]
    split_ifs with hempty
    · rw [List.isEmpty_iff.mp hempty, List.dropWhile_cons_of_neg (by simp [hc]), List.nil_append]
    · rfl
  rw [trim, hstart]
  refine dropEnd_eq_self fun d hd => hlast d ?_
  simpa [List.getLast?_append] using hd

theorem toNat_toLower (c : Char) :
    c.toLower.toNat = if 65 ≤ c.toNat ∧ c.toNat ≤ 90 then c.toNat + 32 else c.toNat := by
  have hupper : (c.val ≥ 'A'.val ∧ c.val ≤ 'Z'.val) ↔ 65 ≤ c.toNat ∧ c.toNat ≤ 90 := Iff.rfl
  unfold Char.toLower
  split_ifs with h h' h'
  · exact Nat.mod_eq_of_lt (show c.toNat + 32 < 2 ^ 32 by omega)
  · exact absurd (hupper.mp h) h'
  · exact absurd (hupper.mpr h') h
  · rfl

theorem isAlphanum_iff (c : Char) : c.isAlphanum = true ↔
    (65 ≤ c.toNat ∧ c.toNat ≤ 90 ∨ 97 ≤ c.toNat ∧ c.toNat ≤ 122) ∨ 48 ≤ c.toNat ∧ c.toNat ≤ 57 := by
  change ((decide (65 ≤ c.val ∧ c.val ≤ 90) || (decide (97 ≤ c.val) && decide (c.val ≤ 122))) ||
    (decide (48 ≤ c.val) && decide (c.val ≤ 57))) = true ↔ _
  simp only [Bool.or_eq_true, Bool.and_eq_true, decide_eq_true_eq, UInt32.le_iff_toNat_le]
  rfl

theorem isAlphanum_toLower_iff (c : Char) : c.toLower.isAlphanum = true ↔ c.isAlphanum = true := by
  rw [isAlphanum_iff, isAlphanum_iff, toNat_toLower]
  split_ifs <;> omega

/-- A character that is no small letter has no other letter case. -/
theorem eq_of_toLower_eq {c x : Char} (h : c.toLower = x) (hx : x.toNat < 97 ∨ 122 < x.toNat) :
    c = x := by
  have hlower := toNat_toLower c
  rw [h] at hlower
  refine Char.toNat_inj.mp ?_
  split_ifs at hlower <;> omega

theorem sameLetters_iff {a b : List Char} :
    sameLetters a b = true ↔ a.map Char.toLower = b.map Char.toLower := by
  rw [sameLetters, beq_iff_eq]

theorem sameLetters_append_iff {cs a b : List Char} : sameLetters cs (a ++ b) = true ↔
    ∃ p q, cs = p ++ q ∧ sameLetters p a = true ∧ sameLetters q b = true := by
  simp only [sameLetters_iff, List.map_append]
  exact List.map_eq_append_iff

/-- The characters in front of the letters have no other letter case. -/
theorem eq_of_sameLetters {cs text : List Char} (h : sameLetters cs text = true)
    (htext : ∀ c ∈ text, c.toNat < 65) : cs = text := by
  rw [sameLetters_iff] at h
  induction text generalizing cs with
  | nil => exact List.map_eq_nil_iff.mp h
  | cons c text ih =>
    obtain ⟨d, cs, rfl, hhead, htail⟩ := List.map_eq_cons_iff.mp h
    obtain ⟨hc, hrest⟩ := List.forall_mem_cons.mp htext
    have hlower : c.toLower = c := by
      rw [← Char.toNat_inj, toNat_toLower, if_neg (by omega)]
    rw [eq_of_toLower_eq (hhead.trans hlower) (by omega), ih htail hrest]

end Text
end Telemetry
