import Telemetry.Proofs.Text
import Telemetry.Uri

/-!
# The scheme and the authority of an identifier

Whether the normal form of an identifier starts with the scheme of the web's secure protocol can be seen at
the first occurrence of `://` in the text that it was read from, whatever kind of identifier the text is.
Its authority is what follows there, up to the next slash, question mark or number sign.
-/
namespace Telemetry.Uri

open Text

theorem schemeEnd_ne_nil : schemeEnd ≠ [] := List.cons_ne_nil _ _

theorem toList_text (uri : Uri) : uri.text.toList = uri.toList := String.toList_ofList

def https : List Char := "https".toList

/-- The text starts with the secure scheme, in any letter case. -/
def StartsHttps (cs : List Char) : Prop := sameLetters (cs.take 8) (https ++ schemeEnd) = true

instance : DecidablePred StartsHttps := fun _ => inferInstanceAs (Decidable (_ = true))

theorem splitsAt_schemeEnd {scheme : List Char} (h : ':' ∉ scheme) (rest : List Char) :
    SplitsAt schemeEnd (scheme ++ (schemeEnd ++ rest)) scheme rest :=
  splitsAt_of_not_mem h ['/', '/'] rest

/-- A text is split after one that does not have `://`, even if that has a colon. -/
theorem splitsAt_of_absent {before : List Char} (h : ¬ schemeEnd <:+: before) (after : List Char) :
    SplitsAt schemeEnd (before ++ (schemeEnd ++ after)) before after := by
  refine ⟨rfl, fun b a hb => ?_⟩
  by_contra hlt
  obtain ⟨c, rfl, hc⟩ | ⟨c, rfl, -⟩ := List.append_eq_append_iff.mp hb.symm
  -- an occurrence that starts in the text before ends in it, for only its first character is a colon
  · match c with
    | [] => simp at hlt
    | [x] => simp [schemeEnd] at hc
    | [x, y] => simp [schemeEnd] at hc
    | x :: y :: z :: c =>
      obtain ⟨rfl, rfl, rfl, -⟩ : ':' = x ∧ '/' = y ∧ '/' = z ∧ _ := by simpa [schemeEnd] using hc
      exact h ⟨b, c, by simp [schemeEnd]⟩
  · simp at hlt

/-- A text that starts with the name of a scheme, in any letter case, and `://` is split after the name. -/
theorem splitsAt_of_sameLetters {name cs : List Char} {n : Nat}
    (hname : ':' ∉ name.map Char.toLower) (h : sameLetters (cs.take n) (name ++ schemeEnd) = true) :
    ∃ before, sameLetters before name = true ∧ SplitsAt schemeEnd cs before (cs.drop n) := by
  obtain ⟨before, separator, htake, hbefore, hseparator⟩ := sameLetters_append_iff.mp h
  obtain rfl := eq_of_sameLetters hseparator (by simp [schemeEnd])
  have hcolon : ':' ∉ before := by
    intro hmem
    have hlower := List.mem_map_of_mem (f := Char.toLower) hmem
    rw [sameLetters_iff.mp hbefore] at hlower
    exact hname hlower
  have hcs : cs = before ++ (schemeEnd ++ cs.drop n) := by
    rw [← List.append_assoc, ← htake, List.take_append_drop]
  have hsplits := splitsAt_schemeEnd hcolon (cs.drop n)
  rw [← hcs] at hsplits
  exact ⟨before, hbefore, hsplits⟩

theorem startsHttps_iff {cs scheme rest : List Char} (h : SplitsAt schemeEnd cs scheme rest) :
    StartsHttps cs ↔ sameLetters scheme https = true := by
  constructor
  · intro hstarts
    obtain ⟨before, hbefore, hsplits⟩ := splitsAt_of_sameLetters (by decide) hstarts
    rwa [← (hsplits.unique h).1]
  · intro hscheme
    have hlength : scheme.length = 5 := by
      simpa [https] using congrArg List.length (sameLetters_iff.mp hscheme)
    have htake : cs.take 8 = scheme ++ schemeEnd := by
      rw [h.eq, ← List.append_assoc, List.take_left' (by rw [List.length_append, hlength]; rfl)]
    rw [StartsHttps, htake]
    exact sameLetters_append_iff.mpr ⟨_, _, rfl, hscheme, by decide⟩

theorem scheme?_of_startsHttps {cs : List Char} (h : StartsHttps cs) :
    scheme? cs = some (some (https, cs.drop 8)) := by
  have hplain : ¬ sameLetters (cs.take 7) "http://".toList = true := by
    -- the texts of the two schemes differ in their fifth character
    intro hplain
    have hsecure := congrArg (List.take 7) (sameLetters_iff.mp h)
    rw [← List.map_take, List.take_take] at hsecure
    exact absurd (hsecure.symm.trans (sameLetters_iff.mp hplain)) (by decide)
  rw [scheme?, if_neg hplain]
  exact if_pos h

/-- The scheme that is read is the secure one exactly if the text starts with it. -/
theorem scheme?_spec {cs scheme rest : List Char} (h : scheme? cs = some (some (scheme, rest))) :
    ':' ∉ scheme ∧ (scheme = https ↔ StartsHttps cs) := by
  by_cases hstarts : StartsHttps cs
  · rw [scheme?_of_startsHttps hstarts] at h
    cases h
    exact ⟨by decide, iff_of_true rfl hstarts⟩
  · simp only [scheme?] at h
    split_ifs at h with hplain hsecure hend hlength
    · cases h
      exact ⟨by decide, iff_of_false (by decide) hstarts⟩
    · exact absurd hsecure hstarts
    · cases h
      have hcs := List.takeWhile_append_dropWhile (p := isSchemeChar) (l := cs)
      refine ⟨fun hmem => absurd (List.mem_takeWhile_imp hmem) (by decide), iff_of_false ?_ hstarts⟩
      intro hscheme
      obtain ⟨rest, hrest⟩ := List.isPrefixOf_iff_prefix.mp (Bool.and_eq_true_iff.mp hend).1
      rw [hscheme, ← hrest] at hcs
      exact hstarts (hcs ▸ (startsHttps_iff (splitsAt_schemeEnd (by decide) rest)).mpr (by decide))
    · cases h

theorem prefix_iff {scheme : List Char} (h : ':' ∉ scheme) (rest : List Char) :
    https ++ schemeEnd <+: scheme ++ (schemeEnd ++ rest) ↔ scheme = https := by
  constructor
  · rintro ⟨after, hafter⟩
    rw [List.append_assoc] at hafter
    have hsplits := splitsAt_schemeEnd (by decide : ':' ∉ https) after
    rw [hafter] at hsplits
    exact (splitsAt_schemeEnd h rest).unique hsplits |>.1
  · rintro rfl
    exact ⟨rest, List.append_assoc _ _ _⟩

/-- A text that is no path, and not empty, is read as an identifier with the scheme that it starts with. -/
theorem prefix_toList_iff_of_full? {cs : List Char} {uri : Uri} (h : full? cs = some uri) :
    https ++ schemeEnd <+: uri.toList ↔ StartsHttps cs := by
  unfold full? at h
  split at h
  case h_1 => cases h
  case h_2 hscheme =>
    have hstarts : ¬ StartsHttps cs := by
      intro hstarts
      rw [scheme?_of_startsHttps hstarts] at hscheme
      cases hscheme
    refine iff_of_false (fun hprefix => ?_) hstarts
    split at h
    case h_1 authority hauthority =>
      split_ifs at h
      cases h
      have hslash : '/' ∈ authority := hprefix.subset (by decide)
      simp only [readAuthority?] at hauthority
      split_ifs at hauthority
      obtain ⟨rfl, -⟩ := Prod.mk.inj (Option.some.inj hauthority)
      exact absurd (List.mem_takeWhile_imp hslash) (by decide)
    case h_2 => cases h
  case h_3 scheme rest hscheme =>
    obtain ⟨hcolon, hiff⟩ := scheme?_spec hscheme
    split at h
    case h_1 => cases h
    case h_2 authority rest hauthority =>
      split_ifs at h
      obtain ⟨⟨path, query⟩, -, rfl⟩ := Option.map_eq_some_iff.mp h
      rw [← hiff]
      exact prefix_iff hcolon _

/-- The normal form of a path starts as the path does. -/
theorem toList_of_path? {rest path : List Char} {query : Option (List Char)}
    (h : path? ('/' :: rest) = some (path, query)) :
    ∃ after, (pathOnly path query).toList = '/' :: after := by
  have hpath : path = ('/' :: rest).takeWhile fun c => c ≠ '?' && c ≠ '#' := by
    simp only [path?] at h
    split_ifs at h
    split at h
    case h_1 =>
      obtain ⟨query, -, heq⟩ := Option.map_eq_some_iff.mp h
      exact (Prod.mk.inj heq).1.symm
    case h_2 => exact (Prod.mk.inj (Option.some.inj h)).1.symm
  rw [List.takeWhile_cons_of_pos (by decide)] at hpath
  subst hpath
  exact ⟨_, rfl⟩

/-- The normal form starts with the secure scheme exactly if the text does, in any letter case. -/
theorem prefix_toList_iff {s : String} {uri : Uri} (h : parse? s = some uri) :
    https ++ schemeEnd <+: uri.toList ↔ StartsHttps s.toList := by
  unfold parse? at h
  split_ifs at h
  split at h
  case h_1 => cases h
  case h_2 htext =>
    cases h
    rw [htext]
    decide
  case h_3 rest htext =>
    obtain ⟨⟨path, query⟩, hpath, rfl⟩ := Option.map_eq_some_iff.mp h
    obtain ⟨after, hafter⟩ := toList_of_path? hpath
    rw [htext, hafter]
    refine iff_of_false (fun hprefix => ?_) (fun hstarts => ?_)
    · exact absurd (List.cons_prefix_cons.mp hprefix).1 (by decide)
    · have hhead := (List.cons.inj (sameLetters_iff.mp hstarts)).1
      exact absurd hhead (by decide)
  case h_4 => exact prefix_toList_iff_of_full? h

theorem splitsAt_of_scheme? {cs scheme rest : List Char} (h : scheme? cs = some (some (scheme, rest))) :
    ∃ written, SplitsAt schemeEnd cs written rest := by
  simp only [scheme?] at h
  split_ifs at h with hplain hsecure hend hlength
  · cases h
    obtain ⟨written, -, hsplits⟩ :=
      splitsAt_of_sameLetters (show ':' ∉ "http".toList.map Char.toLower by decide) hplain
    exact ⟨written, hsplits⟩
  · cases h
    obtain ⟨written, -, hsplits⟩ :=
      splitsAt_of_sameLetters (show ':' ∉ https.map Char.toLower by decide) hsecure
    exact ⟨written, hsplits⟩
  · cases h
    have hcs := List.takeWhile_append_dropWhile (p := isSchemeChar) (l := cs)
    have hcolon : ':' ∉ cs.takeWhile isSchemeChar := fun hmem =>
      absurd (List.mem_takeWhile_imp hmem) (by decide)
    obtain ⟨rest, hrest⟩ := List.isPrefixOf_iff_prefix.mp (Bool.and_eq_true_iff.mp hend).1
    have hsplits := splitsAt_schemeEnd hcolon rest
    rw [hrest, hcs] at hsplits
    rw [← hrest]
    exact ⟨_, hsplits⟩
  · cases h

theorem eq_of_readAuthority? {cs authority rest : List Char}
    (h : readAuthority? cs = some (authority, rest)) :
    authority = cs.takeWhile (!endsAuthority ·) ∧ rest = cs.dropWhile (!endsAuthority ·) := by
  simp only [readAuthority?] at h
  split_ifs at h
  obtain ⟨rfl, rfl⟩ := Prod.mk.inj (Option.some.inj h)
  exact ⟨rfl, rfl⟩

/-- The authority, the path and the query that are read behind a scheme. -/
def behindScheme? (cs : List Char) : Option (List Char × List Char × Option (List Char)) :=
  (readAuthority? cs).bind fun (authority, rest) =>
    (path? rest).map fun (path, query) => (authority, path, query)

theorem absolute_of_full? {cs before after : List Char} {uri : Uri}
    (hsplits : SplitsAt schemeEnd cs before after) (h : full? cs = some uri) :
    ∃ scheme authority path query, uri = .absolute scheme authority path query ∧
      behindScheme? after = some (authority, path, query) := by
  unfold full? at h
  split at h
  case h_1 => cases h
  case h_2 =>
    split at h
    case h_1 authority hauthority =>
      -- an authority on its own is the whole text, but this text has slashes
      have hall := List.dropWhile_eq_nil_iff.mp (eq_of_readAuthority? hauthority).2.symm
      have hslash : '/' ∈ cs := by simp [hsplits.eq, schemeEnd]
      exact absurd (hall _ hslash) (by decide)
    case h_2 => cases h
  case h_3 scheme rest hscheme =>
    obtain ⟨written, hwritten⟩ := splitsAt_of_scheme? hscheme
    obtain ⟨-, rfl⟩ := hwritten.unique hsplits
    split at h
    case h_1 => cases h
    case h_2 authority behind hauthority =>
      split_ifs at h
      obtain ⟨⟨path, query⟩, hpath, rfl⟩ := Option.map_eq_some_iff.mp h
      have hbehind : behindScheme? rest = some (authority, path, query) := by
        simp only [behindScheme?, hauthority, Option.bind_some, hpath, Option.map_some]
      exact ⟨scheme, authority, path, query, rfl, hbehind⟩

/-- A text with `://` in it that does not start with a slash has a scheme and an authority, and what it
says behind the scheme is read from the text behind `://`. -/
theorem absolute_of_parse? {s : String} {uri : Uri} {before after : List Char}
    (hsplits : SplitsAt schemeEnd s.toList before after) (hslash : s.toList.head? ≠ some '/')
    (h : parse? s = some uri) : ∃ scheme authority path query,
      uri = .absolute scheme authority path query ∧
        behindScheme? after = some (authority, path, query) := by
  unfold parse? at h
  split_ifs at h
  split at h
  case h_1 => cases h
  case h_2 htext =>
    have hlength := congrArg List.length (htext.symm.trans hsplits.eq)
    simp only [schemeEnd, List.length_append, List.length_cons, List.length_nil] at hlength
    omega
  case h_3 rest htext => exact absurd (congrArg List.head? htext) hslash
  case h_4 => exact absolute_of_full? hsplits h

theorem authority?_of_slash {s : String} {uri : Uri} (hslash : s.toList.head? = some '/')
    (h : parse? s = some uri) : uri.authority? = none := by
  obtain ⟨rest, htext⟩ := List.head?_eq_some_iff.mp hslash
  simp only [parse?, htext] at h
  split_ifs at h
  obtain ⟨⟨path, query⟩, -, rfl⟩ := Option.map_eq_some_iff.mp h
  rfl

/-- A text with `://` in it is a path if it starts with a slash, and otherwise has an authority. -/
theorem authority?_of_parse? {s : String} {uri : Uri} {before after : List Char}
    (hsplits : SplitsAt schemeEnd s.toList before after) (h : parse? s = some uri) :
    uri.authority? = if s.toList.head? = some '/' then none
      else some (after.takeWhile (!endsAuthority ·)) := by
  split_ifs with hslash
  · exact authority?_of_slash hslash h
  · obtain ⟨scheme, authority, path, query, rfl, hbehind⟩ := absolute_of_parse? hsplits hslash h
    obtain ⟨⟨authority', rest⟩, hauthority, hpath⟩ := Option.bind_eq_some_iff.mp hbehind
    obtain ⟨⟨path', query'⟩, -, heq⟩ := Option.map_eq_some_iff.mp hpath
    obtain ⟨rfl, -⟩ := Prod.mk.inj heq
    rw [authority?, (eq_of_readAuthority? hauthority).1]

end Telemetry.Uri
