import Telemetry.Credential.Uuid
import Telemetry.Proofs.Text.Hex

/-!
# Spellings of identifiers

An identifier has three spellings, in each of which letters may have any case. `parse_eq_ok_iff` says that
it is read from these texts and from no others. Digits write a number whatever their letter case
(`value?_eq_some_iff`), and the layouts around them are told apart by their lengths.
-/
namespace Telemetry

namespace Uuid

open Text Text.Hex

/-- The 32 digits of an identifier in small letters. -/
def digits (u : Uuid) : List Char := padded 32 u.bits.toNat

/-- The forms in which an identifier is read, in small letters: hyphenated, digits alone, or
hyphenated in braces. -/
def spellings (u : Uuid) : List (List Char) :=
  [hyphenate u.digits, u.digits, '\x7b' :: (hyphenate u.digits ++ ['\x7d'])]

/-- A text is one of the forms of an identifier, with letters in any case. -/
def Spells (u : Uuid) (cs : List Char) : Prop := ∃ s ∈ u.spellings, Text.sameLetters cs s = true

theorem length_digits (u : Uuid) : u.digits.length = 32 := length_padded _ _

theorem map_toLower_digits (u : Uuid) : u.digits.map Char.toLower = u.digits :=
  map_toLower_padded _ _

theorem take_groups (ds : List Char) : ds.take 8 ++ ((ds.drop 8).take 4 ++ ((ds.drop 12).take 4 ++
    ((ds.drop 16).take 4 ++ ds.drop 20))) = ds := by
  have hgroup (i j : Nat) : (ds.drop i).take j ++ ds.drop (i + j) = ds.drop i := by
    rw [← List.drop_drop, List.take_append_drop]
  rw [hgroup 16 4, hgroup 12 4, hgroup 8 4, List.take_append_drop]

section

variable {a b c d : List Char} (ha : a.length = 8) (hb : b.length = 4) (hc : c.length = 4)
  (hd : d.length = 4)

include ha hb hc hd

theorem hyphenate_append (e : List Char) : hyphenate (a ++ (b ++ (c ++ (d ++ e)))) =
    a ++ '-' :: (b ++ '-' :: (c ++ '-' :: (d ++ '-' :: e))) := by
  simp (disch := omega) [hyphenate, List.drop_append, List.drop_eq_nil_of_le, ha, hb, hc]

theorem unhyphenate_append (w x y z : Char) (e : List Char) :
    unhyphenate (a ++ w :: (b ++ x :: (c ++ y :: (d ++ z :: e)))) =
      a ++ (b ++ (c ++ (d ++ e))) := by
  simp (disch := omega) [unhyphenate, List.drop_append, List.drop_eq_nil_of_le, ha, hb, hc, hd]

end

theorem map_toLower_hyphenate (ds : List Char) :
    (hyphenate ds).map Char.toLower = hyphenate (ds.map Char.toLower) := by
  simp [hyphenate, List.map_take, List.map_drop]

theorem length_hyphenate (u : Uuid) : (hyphenate u.digits).length = 36 := by
  simp [hyphenate, length_digits]

theorem hyphenate_unhyphenate {cs ds : List Char} (hlen : ds.length = 32)
    (h : cs.map Char.toLower = hyphenate ds) :
    cs = hyphenate (unhyphenate cs) ∧ (unhyphenate cs).map Char.toLower = ds := by
  rw [hyphenate] at h
  obtain ⟨a, r, rfl, ha, h⟩ := List.map_eq_append_iff.mp h
  obtain ⟨w, r, rfl, hw, h⟩ := List.map_eq_cons_iff.mp h
  obtain ⟨b, r, rfl, hb, h⟩ := List.map_eq_append_iff.mp h
  obtain ⟨x, r, rfl, hx, h⟩ := List.map_eq_cons_iff.mp h
  obtain ⟨c, r, rfl, hc, h⟩ := List.map_eq_append_iff.mp h
  obtain ⟨y, r, rfl, hy, h⟩ := List.map_eq_cons_iff.mp h
  obtain ⟨d, r, rfl, hd, h⟩ := List.map_eq_append_iff.mp h
  obtain ⟨z, e, rfl, hz, he⟩ := List.map_eq_cons_iff.mp h
  obtain rfl := eq_of_toLower_eq hw (by decide)
  obtain rfl := eq_of_toLower_eq hx (by decide)
  obtain rfl := eq_of_toLower_eq hy (by decide)
  obtain rfl := eq_of_toLower_eq hz (by decide)
  have halen : a.length = 8 := by rw [← List.length_map Char.toLower, ha]; simp [hlen]
  have hblen : b.length = 4 := by rw [← List.length_map Char.toLower, hb]; simp [hlen]
  have hclen : c.length = 4 := by rw [← List.length_map Char.toLower, hc]; simp [hlen]
  have hdlen : d.length = 4 := by rw [← List.length_map Char.toLower, hd]; simp [hlen]
  rw [unhyphenate_append halen hblen hclen hdlen, hyphenate_append halen hblen hclen hdlen]
  refine ⟨rfl, ?_⟩
  simp only [List.map_append, ha, hb, hc, hd, he]
  exact take_groups ds

theorem ofDigits?_eq_some_iff (cs : List Char) (u : Uuid) :
    ofDigits? cs = some u ↔ cs.map Char.toLower = u.digits := by
  have hmax : (16 : Nat) ^ 32 = 2 ^ 128 := by norm_num
  have hu : u.bits.toNat < 2 ^ 128 := u.bits.isLt
  constructor
  · intro h
    rw [ofDigits?] at h
    split_ifs at h with hlen
    obtain ⟨n, hn, rfl⟩ := Option.map_eq_some_iff.mp h
    obtain ⟨hlt, hcs⟩ := (value?_eq_some_iff cs n).mp hn
    rw [hlen] at hlt hcs
    rw [hcs, digits, BitVec.toNat_ofNat, Nat.mod_eq_of_lt (hmax ▸ hlt)]
  · intro h
    have hlen : cs.length = 32 := by
      rw [← List.length_map Char.toLower, h, length_digits]
    have hvalue : value? cs = some u.bits.toNat :=
      (value?_eq_some_iff cs _).mpr ⟨by rw [hlen, hmax]; exact hu, by rw [hlen, h, digits]⟩
    rw [ofDigits?, if_pos hlen, hvalue, Option.map_some, BitVec.ofNat_toNat, BitVec.setWidth_eq]

theorem ofHyphenated?_eq_some_iff (cs : List Char) (u : Uuid) :
    ofHyphenated? cs = some u ↔ cs.map Char.toLower = hyphenate u.digits := by
  constructor
  · intro h
    rw [ofHyphenated?] at h
    split_ifs at h with hcs
    have hdigits := (ofDigits?_eq_some_iff _ _).mp h
    calc cs.map Char.toLower = (hyphenate (unhyphenate cs)).map Char.toLower := by rw [← hcs]
      _ = hyphenate u.digits := by rw [map_toLower_hyphenate, hdigits]
  · intro h
    obtain ⟨hcs, hdigits⟩ := hyphenate_unhyphenate u.length_digits h
    rw [ofHyphenated?, if_pos hcs, ofDigits?_eq_some_iff, hdigits]

theorem unbrace?_eq_some_iff (cs inner : List Char) :
    unbrace? cs = some inner ↔ cs = '\x7b' :: (inner ++ ['\x7d']) := by
  constructor
  · intro h
    unfold unbrace? at h
    split at h
    · next rest =>
      split_ifs at h with hlast
      obtain rfl := Option.some.inj h
      rw [List.dropLast_append_getLast? _ hlast]
    · cases h
  · rintro rfl
    simp [unbrace?]

theorem unbraced_eq_some_iff (cs : List Char) (u : Uuid) : (unbrace? cs).bind ofHyphenated? = some u ↔
    cs.map Char.toLower = '\x7b' :: (hyphenate u.digits ++ ['\x7d']) := by
  constructor
  · intro h
    obtain ⟨inner, hinner, hu⟩ := Option.bind_eq_some_iff.mp h
    rw [(unbrace?_eq_some_iff cs inner).mp hinner, List.map_cons, List.map_append,
      (ofHyphenated?_eq_some_iff inner u).mp hu]
    rfl
  · intro h
    obtain ⟨x, r, rfl, hx, h⟩ := List.map_eq_cons_iff.mp h
    obtain ⟨inner, r, rfl, hinner, h⟩ := List.map_eq_append_iff.mp h
    obtain ⟨y, r, rfl, hy, hr⟩ := List.map_eq_cons_iff.mp h
    obtain rfl := List.map_eq_nil_iff.mp hr
    obtain rfl := eq_of_toLower_eq hx (by decide)
    obtain rfl := eq_of_toLower_eq hy (by decide)
    rw [(unbrace?_eq_some_iff _ inner).mpr rfl, Option.bind_some, ofHyphenated?_eq_some_iff, hinner]

/-- The forms have different lengths, so no text has two of them. -/
theorem ofList?_eq_some_iff (cs : List Char) (u : Uuid) : ofList? cs = some u ↔
    cs.map Char.toLower = u.digits ∨ cs.map Char.toLower = hyphenate u.digits ∨
      cs.map Char.toLower = '\x7b' :: (hyphenate u.digits ++ ['\x7d']) := by
  have hlen : cs.length = (cs.map Char.toLower).length := (List.length_map _).symm
  have hdigits (h : cs.length ≠ 32) : ofDigits? cs = none := if_neg h
  have hhyphenated (h : cs.length ≠ 36) : ofHyphenated? cs = none := by
    refine Option.eq_none_iff_forall_ne_some.mpr fun v hv => h ?_
    rw [hlen, (ofHyphenated?_eq_some_iff cs v).mp hv, length_hyphenate]
  rw [ofList?, Option.or_eq_some_iff, Option.or_eq_some_iff, ofDigits?_eq_some_iff,
    ofHyphenated?_eq_some_iff, unbraced_eq_some_iff]
  constructor
  · rintro (h | ⟨-, h | ⟨-, h⟩⟩)
    · exact .inl h
    · exact .inr (.inl h)
    · exact .inr (.inr h)
  · rintro (h | h | h)
    · exact .inl h
    · rw [h, length_hyphenate] at hlen
      exact .inr ⟨hdigits (by omega), .inl h⟩
    · rw [h, List.length_cons, List.length_append, length_hyphenate] at hlen
      have hne : cs.length = 38 := hlen
      exact .inr ⟨hdigits (by omega), .inr ⟨hhyphenated (by omega), h⟩⟩

theorem spells_iff (cs : List Char) (u : Uuid) : u.Spells cs ↔
    cs.map Char.toLower = hyphenate u.digits ∨ cs.map Char.toLower = u.digits ∨
      cs.map Char.toLower = '\x7b' :: (hyphenate u.digits ++ ['\x7d']) := by
  have hbraces : ('\x7b' :: (hyphenate u.digits ++ ['\x7d'])).map Char.toLower =
      '\x7b' :: (hyphenate u.digits ++ ['\x7d']) := by
    rw [List.map_cons, List.map_append, map_toLower_hyphenate, map_toLower_digits]
    rfl
  simp only [Spells, spellings, List.mem_cons, List.not_mem_nil, or_false, exists_eq_or_imp,
    exists_eq_left, sameLetters_iff, map_toLower_hyphenate, map_toLower_digits, hbraces]

/-- An identifier is read from its spellings and from nothing else. -/
theorem parse_eq_ok_iff (cs : List Char) (u : Uuid) : parse cs = .ok u ↔ u.Spells cs := by
  have hread : parse cs = .ok u ↔ ofList? cs = some u := by
    cases h : ofList? cs <;> simp [parse, h]
  rw [hread, ofList?_eq_some_iff, spells_iff, or_left_comm]

end Uuid
end Telemetry
