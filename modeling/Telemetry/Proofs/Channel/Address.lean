import Telemetry.Proofs.Channel.Port

/-!
# The port of a site is replaced

A site is a host with a scheme in front of it and a port behind it, or without them. The settings for
a site and a port have the site's address with that port in place of its own.
-/
namespace Telemetry

open Text

namespace Channel

/-- A host with a scheme in front of it and a port behind it, or without them. -/
structure Site where
  scheme : Option (List Char)
  host : List Char
  port : Option (List Char)

namespace Site

def text (s : Site) : List Char :=
  s.scheme.elim [] (· ++ Uri.schemeEnd) ++ (s.host ++ s.port.elim [] (':' :: ·))

def IsSchemeChar (c : Char) : Prop := c.isAlphanum ∨ c ∈ ['+', '-', '.']

instance : DecidablePred IsSchemeChar := fun _ => inferInstanceAs (Decidable (_ ∨ _))

/-- A name, or four numbers with dots between them. -/
def IsName (host : List Char) : Prop :=
  host ≠ [] ∧ ∀ c ∈ host, isBlank c = false ∧ c ∉ [':', '/', '[', ']']

/-- Something in brackets. -/
def IsLiteral (host : List Char) : Prop :=
  ∃ inner, host = '[' :: (inner ++ [']']) ∧ ∀ c ∈ inner, isBlank c = false ∧ c ∉ ['/', ']']

structure WellFormed (s : Site) : Prop where
  scheme : ∀ scheme ∈ s.scheme, scheme ≠ [] ∧ ∀ c ∈ scheme, IsSchemeChar c
  host : IsName s.host ∨ IsLiteral s.host
  port : ∀ port ∈ s.port, port ≠ [] ∧ ∀ c ∈ port, c.isDigit = true

/-- The scheme in lower case. -/
def lowerScheme (s : Site) : List Char := (s.scheme.map (·.map Char.toLower)).getD "http".toList

/-- A site with another port. -/
def withPort (s : Site) (port : UInt16) : Site :=
  ⟨some s.lowerScheme, s.host, some (Decimal.digits port.toNat)⟩

theorem map_toLower_lowerScheme (s : Site) : s.lowerScheme.map Char.toLower = s.lowerScheme := by
  rw [lowerScheme]
  cases s.scheme with
  | none => decide
  | some scheme => simp

theorem text_withPort (s : Site) (port : UInt16) : (s.withPort port).text =
    s.lowerScheme ++ (Uri.schemeEnd ++ (s.host ++ ':' :: Decimal.digits port.toNat)) := by
  simp [text, withPort]

theorem withPort_withPort (s : Site) (port port' : UInt16) :
    (s.withPort port).withPort port' = s.withPort port' := by
  have hscheme : (s.withPort port).lowerScheme = s.lowerScheme := s.map_toLower_lowerScheme
  rw [withPort, hscheme]
  rfl

theorem IsSchemeChar.range {c : Char} (h : IsSchemeChar c) :
    (0x20 < c.toNat ∧ c.toNat < 0x80) ∧ c ≠ ':' ∧ c ≠ '/' := by
  obtain h | h := h
  · rw [isAlphanum_iff] at h
    refine ⟨by omega, ?_, ?_⟩
    · rintro rfl
      exact absurd h (by decide)
    · rintro rfl
      exact absurd h (by decide)
  · obtain rfl | rfl | rfl : c = '+' ∨ c = '-' ∨ c = '.' := by simpa using h
    all_goals decide

theorem IsSchemeChar.toLower {c : Char} (h : IsSchemeChar c) : IsSchemeChar c.toLower := by
  obtain h | h := h
  · exact .inl ((isAlphanum_toLower_iff c).mpr h)
  · obtain rfl | rfl | rfl : c = '+' ∨ c = '-' ∨ c = '.' := by simpa using h
    all_goals decide

theorem range_of_isDigit {c : Char} (h : c.isDigit = true) :
    (0x20 < c.toNat ∧ c.toNat < 0x80) ∧ c ≠ ':' ∧ c ≠ '/' :=
  IsSchemeChar.range (.inl (by simp [Char.isAlphanum, h]))

namespace WellFormed

variable {s : Site}

theorem isBlank_host (hs : s.WellFormed) {c : Char} (hc : c ∈ s.host) : isBlank c = false := by
  obtain hname | ⟨inner, hhost, hinner⟩ := hs.host
  · exact (hname.2 c hc).1
  · rw [hhost] at hc
    obtain rfl | hc := List.mem_cons.mp hc
    · decide
    · obtain hc | hc := List.mem_append.mp hc
      · exact (hinner c hc).1
      · obtain rfl := List.mem_singleton.mp hc
        decide

theorem slash_not_mem_host (hs : s.WellFormed) : '/' ∉ s.host := by
  obtain hname | ⟨inner, hhost, hinner⟩ := hs.host
  · exact fun hmem => absurd (hname.2 _ hmem).2 (by decide)
  · rw [hhost]
    intro hmem
    obtain hmem | hmem : '/' ∈ inner ∨ '/' ∈ [']'] := by simpa using hmem
    · exact absurd (hinner _ hmem).2 (by decide)
    · exact absurd hmem (by decide)

/-- The host with the port behind it, if there is one. -/
theorem mem_authority (hs : s.WellFormed) {c : Char} (hc : c ∈ s.host ++ s.port.elim [] (':' :: ·)) :
    isBlank c = false ∧ c ≠ '/' := by
  obtain hc | hc := List.mem_append.mp hc
  · exact ⟨hs.isBlank_host hc, fun heq => hs.slash_not_mem_host (heq ▸ hc)⟩
  · cases hport : s.port with
    | none => simp [hport] at hc
    | some port =>
      rw [hport] at hc
      obtain rfl | hc := List.mem_cons.mp hc
      · decide
      · obtain ⟨hrange, -, hslash⟩ := range_of_isDigit ((hs.port port hport).2 c hc)
        exact ⟨isBlank_of_ascii hrange, hslash⟩

theorem isBlank_text (hs : s.WellFormed) : ∀ c ∈ s.text, isBlank c = false := by
  intro c hc
  obtain hc | hc := List.mem_append.mp hc
  · cases hscheme : s.scheme with
    | none => simp [hscheme] at hc
    | some scheme =>
      rw [hscheme] at hc
      obtain hc | hc := List.mem_append.mp hc
      · exact isBlank_of_ascii ((hs.scheme scheme hscheme).2 c hc).range.1
      · obtain rfl | rfl : c = ':' ∨ c = '/' := by simpa [Uri.schemeEnd] using hc
        all_goals decide
  · exact (hs.mem_authority hc).1

theorem splitScheme_text (hs : s.WellFormed) : Config.splitScheme s.text =
    (s.scheme, s.host ++ s.port.elim [] (':' :: ·)) := by
  cases hscheme : s.scheme with
  | none =>
    have hnone : splitOnce? Uri.schemeEnd s.text = none := by
      refine (splitOnce?_eq_none Uri.schemeEnd_ne_nil).mpr fun hwithin => ?_
      have hslash : '/' ∈ s.text := hwithin.subset (by decide)
      rw [text, hscheme] at hslash
      exact (hs.mem_authority hslash).2 rfl
    rw [Config.splitScheme, hnone, text, hscheme]
    rfl
  | some scheme =>
    have hcolon : ':' ∉ scheme := fun hmem =>
      ((hs.scheme scheme hscheme).2 _ hmem).range.2.1 rfl
    refine Config.splitScheme_of_splitsAt ?_
    have hsplits := Uri.splitsAt_schemeEnd hcolon (s.host ++ s.port.elim [] (':' :: ·))
    rwa [text, hscheme, Option.elim_some, List.append_assoc]

/-- A host loses its own port and nothing else. -/
theorem hostWithoutPort_authority (hs : s.WellFormed) :
    Config.hostWithoutPort (s.host ++ s.port.elim [] (':' :: ·)) = s.host := by
  obtain ⟨hne, hname⟩ | ⟨inner, hhost, hinner⟩ := hs.host
  · have hcolon : ':' ∉ s.host := fun hmem => absurd (hname _ hmem).2 (by decide)
    have hhead : (s.host ++ s.port.elim [] (':' :: ·)).head? ≠ some '[' := by
      obtain ⟨c, rest, hhost⟩ := List.exists_cons_of_ne_nil hne
      rw [hhost]
      rintro ⟨⟩
      exact absurd (hname '[' (hhost ▸ List.mem_cons_self)).2 (by decide)
    rw [Config.hostWithoutPort, if_neg hhead, List.count_append, List.count_eq_zero.mpr hcolon]
    cases hport : s.port with
    | none => simp
    | some port =>
      have hdigits : ':' ∉ port := fun hmem =>
        (range_of_isDigit ((hs.port port hport).2 _ hmem)).2.1 rfl
      have hcount : (':' :: port).count ':' = 1 := by
        rw [List.count_cons_self, List.count_eq_zero.mpr hdigits]
      rw [Option.elim_some, hcount, List.takeWhile_append_of_pos]
      · simp
      · exact fun c hc => decide_eq_true fun heq => hcolon (heq ▸ hc)
  · have hclose : ∀ c ∈ '[' :: inner, decide (c ≠ ']') = true := by
      intro c hc
      obtain rfl | hc := List.mem_cons.mp hc
      · decide
      · exact decide_eq_true fun heq => absurd (heq ▸ (hinner c hc).2) (by decide)
    have hshape : s.host ++ s.port.elim [] (':' :: ·) =
        '[' :: inner ++ ']' :: s.port.elim [] (':' :: ·) := by
      simp [hhost]
    have hopen : ('[' :: inner ++ ']' :: s.port.elim [] (':' :: ·)).head? = some '[' := rfl
    rw [Config.hostWithoutPort, hshape, if_pos hopen, if_pos (by simp),
      List.takeWhile_append_of_pos hclose, hhost]
    simp

/-- The scheme in lower case is a scheme. -/
theorem lowerScheme (hs : s.WellFormed) :
    s.lowerScheme ≠ [] ∧ ∀ c ∈ s.lowerScheme, IsSchemeChar c := by
  rw [Site.lowerScheme]
  cases hscheme : s.scheme with
  | none => exact ⟨by decide, List.all_iff_forall_prop.mp (by decide)⟩
  | some scheme =>
    obtain ⟨hne, hchars⟩ := hs.scheme scheme hscheme
    refine ⟨fun hnil => hne (List.map_eq_nil_iff.mp hnil), fun c hc => ?_⟩
    obtain ⟨d, hd, rfl⟩ := List.mem_map.mp hc
    exact (hchars d hd).toLower

/-- A site with another port is well formed again. -/
theorem withPort (hs : s.WellFormed) (port : UInt16) : (s.withPort port).WellFormed := by
  refine ⟨fun scheme hscheme => ?_, hs.host, fun text htext => ?_⟩
  · obtain rfl := Option.some.inj hscheme
    exact hs.lowerScheme
  · obtain rfl := Option.some.inj htext
    exact ⟨Decimal.digits_ne_nil _, Decimal.isDigit_of_mem_digits _⟩

theorem schemeIn_text (hs : s.WellFormed) : Config.schemeIn s.text = s.lowerScheme := by
  rw [Config.schemeIn, trim_eq_self hs.isBlank_text, hs.splitScheme_text, Site.lowerScheme]
  cases hscheme : s.scheme with
  | none => rfl
  | some scheme =>
    have hascii : ∀ c ∈ scheme, c.toNat < 0x80 := fun c hc =>
      ((hs.scheme scheme hscheme).2 c hc).range.1.2
    simp [Lower.lower_of_ascii hascii]

theorem hostIn_text (hs : s.WellFormed) : Config.hostIn s.text = s.host := by
  have hlast : dropEnd (· = '/') (s.host ++ s.port.elim [] (':' :: ·)) =
      s.host ++ s.port.elim [] (':' :: ·) :=
    dropEnd_eq_self fun c hc =>
      decide_eq_false (hs.mem_authority (List.mem_of_getLast? hc)).2
  rw [Config.hostIn, trim_eq_self hs.isBlank_text, hs.splitScheme_text, hlast,
    hs.hostWithoutPort_authority]

theorem trim_targetOf_text (hs : s.WellFormed) (port : UInt16) :
    trim (Config.targetOf s.text port) = (s.withPort port).text := by
  have hvisible : s.lowerScheme.dropWhile isBlank = s.lowerScheme := by
    refine List.dropWhile_eq_self_iff.mpr fun hlen => ?_
    rw [isBlank_of_ascii (hs.lowerScheme.2 _ (List.getElem_mem hlen)).range.1]
    exact Bool.false_ne_true
  rw [Config.trim_targetOf, hs.schemeIn_text, hs.hostIn_text, hvisible, text_withPort]

theorem splitsAt_withPort (hs : s.WellFormed) (port : UInt16) : SplitsAt Uri.schemeEnd
    (s.withPort port).text s.lowerScheme (s.host ++ ':' :: Decimal.digits port.toNat) := by
  rw [text_withPort]
  exact Uri.splitsAt_schemeEnd (fun hmem => (hs.lowerScheme.2 _ hmem).range.2.1 rfl) _

/-- The address of a site and a port is the site's, with that port in place of its own. -/
theorem toList_address (hs : s.WellFormed) (port : UInt16) :
    (Config.forAddress (.ofList s.text) port).address.toList = (s.withPort port).text := by
  rw [Config.toList_address_forAddress, String.toList_ofList, hs.trim_targetOf_text]

/-- TLS is used if the scheme is the secure one. -/
theorem useTls_iff (hs : s.WellFormed) (port : UInt16) :
    (Config.forAddress (.ofList s.text) port).useTls = true ↔ s.lowerScheme = "https".toList := by
  have hsplits := hs.splitsAt_withPort port
  rw [← hs.toList_address] at hsplits
  obtain hempty | ⟨scheme, rest, hsplits', htls⟩ :=
    Config.inStep_new (.ofList (Config.targetOf (String.ofList s.text).toList port))
  · have hnil : (Config.forAddress (.ofList s.text) port).address.toList = [] :=
      congrArg String.toList hempty
    rw [hs.toList_address, text_withPort] at hnil
    simp [Uri.schemeEnd] at hnil
  · obtain ⟨rfl, -⟩ := hsplits.unique hsplits'
    rw [sameLetters_iff, s.map_toLower_lowerScheme] at htls
    exact htls

end WellFormed

end Site
end Channel
end Telemetry
