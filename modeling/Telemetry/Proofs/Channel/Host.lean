import Telemetry.Proofs.Channel.LastSteps
import Telemetry.Proofs.Channel.NormalForm
import Telemetry.Proofs.HeaderText
import Telemetry.Proofs.ServerName
import Telemetry.Proofs.Uri.Authority

/-!
# Endpoints for good hosts

A domain name, an address of four octets and an address of eight groups are good hosts. With any port and
after any steps their settings have an endpoint for just that host and port, except that a server cannot be
called by an address of groups: under TLS there is none for it.
-/
namespace Telemetry

open Text

theorem DomainName.isPlain (d : DomainName) {c : Char} (hc : c ∈ d.text) : Uri.IsPlain c := by
  obtain hc | hc := List.mem_append.mp hc
  · obtain rfl | ⟨label, hlabel, hc⟩ := mem_intercalate hc
    · decide
    · obtain halphanum | rfl | rfl := (d.isLabel label hlabel).char c hc
      · exact .inl halphanum
      all_goals decide
  · split_ifs at hc
    · rw [List.mem_singleton.mp hc]
      decide
    · exact absurd hc List.not_mem_nil

theorem FourOctets.isPlain (o : FourOctets) {c : Char} (hc : c ∈ o.text) : Uri.IsPlain c := by
  obtain hdigit | rfl := o.char hc
  · exact .of_isDigit hdigit
  · decide

theorem EightGroups.isPlain (e : EightGroups) {c : Char} (hc : c ∈ e.text) : c = ':' ∨ Uri.IsPlain c := by
  obtain rfl | halphanum | rfl := e.char hc
  · exact .inl rfl
  · exact .inr (.inl halphanum)
  · exact .inr (by decide)

namespace Uri.IsPlain

variable {c : Char} (h : IsPlain c)
include h

theorem isBlank : isBlank c = false := by
  refine isBlank_of_ascii ?_
  obtain halphanum | rfl | rfl | rfl := h
  · rw [isAlphanum_iff] at halphanum
    omega
  all_goals decide

theorem not_mem {cs : List Char} (hcs : ∀ d ∈ cs, ¬ IsPlain d) : c ∉ cs := fun hc => hcs c hc h

theorem endsAuthority : endsAuthority c = false := by
  have hne (d : Char) (hd : ¬ IsPlain d) : c ≠ d := h.ne hd
  simp [Uri.endsAuthority, hne '/' (by decide), hne '?' (by decide), hne '#' (by decide)]

end Uri.IsPlain

namespace Channel

/-- A host by its name or its address. An address of groups may be written with brackets around it. -/
inductive Host where
  | name (d : DomainName)
  | octets (o : FourOctets)
  | groups (e : EightGroups) (bracketed : Bool)

namespace Host

def text : Host → List Char
  | name d => d.text
  | octets o => o.text
  | groups e false => e.text
  | groups e true => '[' :: (e.text ++ [']'])

def isGroups : Host → Bool
  | groups _ _ => true
  | _ => false

/-- The host as it stands in an authority. -/
def inAuthority : Host → List Char
  | name d => d.text
  | octets o => o.text
  | groups e _ => '[' :: (e.text ++ [']'])

/-- What domain names and addresses of octets have in common. -/
structure IsNamed (host : List Char) : Prop where
  isPlain : ∀ c ∈ host, Uri.IsPlain c
  isServerName : isServerName host = true
  length_le : host.length ≤ 253

theorem isNamed_name (d : DomainName) : IsNamed d.text :=
  ⟨fun _ => d.isPlain, d.isServerName_text, d.length_le⟩

theorem isNamed_octets (o : FourOctets) : IsNamed o.text :=
  ⟨fun _ => o.isPlain, o.isServerName_text, o.length_text_le.trans (by decide)⟩

theorem IsNamed.ne_nil {host : List Char} (h : IsNamed host) : host ≠ [] := by
  rintro rfl
  exact absurd h.isServerName (by decide)

theorem IsNamed.isName {host : List Char} (h : IsNamed host) : Site.IsName host :=
  ⟨h.ne_nil, fun c hc =>
    ⟨(h.isPlain c hc).isBlank, (h.isPlain c hc).not_mem (List.all_iff_forall_prop.mp (by decide))⟩⟩

/-- A host with a scheme in front of it, or without one. -/
def spelling (h : Host) (scheme : Option (List Char)) : Spelling := ⟨[], scheme, h.text, none, 0, []⟩

theorem isBlank_groups (e : EightGroups) {c : Char} (hc : c ∈ e.text) :
    isBlank c = false ∧ c ∉ ['/', '[', ']'] := by
  obtain rfl | hplain := e.isPlain hc
  · decide
  · exact ⟨hplain.isBlank, hplain.not_mem (List.all_iff_forall_prop.mp (by decide))⟩

theorem isBare_groups (e : EightGroups) : Site.IsBare e.text :=
  ⟨e.count_text.1, fun _ hc => isBlank_groups e hc⟩

theorem isLiteral_groups (e : EightGroups) : Site.IsLiteral ('[' :: (e.text ++ [']'])) := by
  refine ⟨e.text, rfl, fun c hc => ?_⟩
  obtain ⟨hblank, hmem⟩ := isBlank_groups e hc
  exact ⟨hblank, fun hc => hmem (by simp_all)⟩

variable (h : Host) (scheme : Option (List Char))

theorem host_spelling : (Site.IsName h.text ∨ Site.IsLiteral h.text) ∨ Site.IsBare h.text := by
  match h with
  | name d => exact .inl (.inl (isNamed_name d).isName)
  | octets o => exact .inl (.inl (isNamed_octets o).isName)
  | groups e false => exact .inr (isBare_groups e)
  | groups e true => exact .inl (.inr (isLiteral_groups e))

theorem host_site : (h.spelling scheme).site.host = h.inAuthority := by
  match h with
  | name d => exact if_neg (Spelling.not_isBare (.inl (isNamed_name d).isName))
  | octets o => exact if_neg (Spelling.not_isBare (.inl (isNamed_octets o).isName))
  | groups e false => exact if_pos (isBare_groups e)
  | groups e true => exact if_neg (Spelling.not_isBare (.inr (isLiteral_groups e)))

/-- A scheme of the web, in any letter case. -/
def IsWebScheme (scheme : List Char) : Prop :=
  sameLetters scheme "http".toList = true ∨ sameLetters scheme "https".toList = true

theorem isAlphanum_of_sameLetters {scheme name : List Char} (h : sameLetters scheme name = true)
    (hname : ∀ c ∈ name, c.isAlphanum = true) : ∀ c ∈ scheme, c.isAlphanum = true := by
  intro c hc
  have hlower := List.mem_map_of_mem (f := Char.toLower) hc
  rw [sameLetters_iff.mp h] at hlower
  obtain ⟨d, hd, heq⟩ := List.mem_map.mp hlower
  rw [← isAlphanum_toLower_iff, ← heq, isAlphanum_toLower_iff]
  exact hname d hd

theorem IsWebScheme.isSchemeChar {scheme : List Char} (hscheme : IsWebScheme scheme) :
    ∀ c ∈ scheme, Site.IsSchemeChar c := by
  intro c hc
  obtain hhttp | hhttps := hscheme
  · exact .inl (isAlphanum_of_sameLetters hhttp (List.all_eq_true.mp (by decide)) c hc)
  · exact .inl (isAlphanum_of_sameLetters hhttps (List.all_eq_true.mp (by decide)) c hc)

theorem IsWebScheme.ne_nil {scheme : List Char} (hscheme : IsWebScheme scheme) : scheme ≠ [] := by
  rintro rfl
  obtain hhttp | hhttps := hscheme <;> contradiction

theorem wellFormed_spelling {scheme : Option (List Char)} (hscheme : ∀ s ∈ scheme, IsWebScheme s) :
    (h.spelling scheme).WellFormed where
  before := fun _ hc => absurd hc List.not_mem_nil
  scheme := fun s hs => ⟨(hscheme s hs).ne_nil, (hscheme s hs).isSchemeChar⟩
  host := h.host_spelling.imp_right fun hbare => ⟨hbare, rfl, Nat.zero_le 1⟩
  port := fun _ hport => nomatch hport
  after := fun _ hc => absurd hc List.not_mem_nil

/-- The authority of a host and a port. -/
def authority (port : UInt16) : List Char := h.inAuthority ++ ':' :: Decimal.digits port.toNat

theorem isAuthority_authority (port : UInt16) : Uri.isAuthority (h.authority port) = true := by
  cases h with
  | name d => exact Uri.isAuthority_plain (isNamed_name d).isPlain _
  | octets o => exact Uri.isAuthority_plain (isNamed_octets o).isPlain _
  | groups e bracketed => exact Uri.isAuthority_bracket (fun _ => e.isPlain) e.count_text.2 _

theorem char_authority (port : UInt16) {c : Char} (hc : c ∈ h.authority port) :
    c ∈ [':', '[', ']'] ∨ Uri.IsPlain c := by
  obtain hc | hc := List.mem_append.mp hc
  · cases h with
    | name d => exact .inr (d.isPlain hc)
    | octets o => exact .inr (o.isPlain hc)
    | groups e bracketed =>
      obtain rfl | hc := List.mem_cons.mp hc
      · exact .inl (by decide)
      · obtain hc | hc := List.mem_append.mp hc
        · exact (e.isPlain hc).imp_left fun hcolon => by simp [hcolon]
        · exact .inl (by simp [List.mem_singleton.mp hc])
  · obtain rfl | hc := List.mem_cons.mp hc
    · exact .inl (by decide)
    · exact .inr (Uri.isPlain_digits _ c hc)

theorem endsAuthority_authority (port : UInt16) :
    ∀ c ∈ h.authority port, Uri.endsAuthority c = false := by
  intro c hc
  obtain hmark | hplain := h.char_authority port hc
  · obtain rfl | rfl | rfl : c = ':' ∨ c = '[' ∨ c = ']' := by simpa using hmark
    all_goals decide
  · exact hplain.endsAuthority

theorem at_not_mem_authority (port : UInt16) : '@' ∉ h.authority port := fun hat =>
  absurd (h.char_authority port hat) (by decide)

theorem length_authority_le (port : UInt16) : (h.authority port).length ≤ 300 := by
  have hhost : h.inAuthority.length ≤ 253 := by
    cases h with
    | name d => exact d.length_le
    | octets o => exact o.length_text_le.trans (by decide)
    | groups e bracketed =>
      have hlength := e.length_text_le
      rw [inAuthority, List.length_cons, List.length_append, List.length_singleton]
      omega
  have hport : (Decimal.digits port.toNat).length ≤ 5 :=
    Decimal.length_digits_le (by decide) (port.toNat_lt.trans (by decide))
  rw [authority, List.length_append, List.length_cons]
  omega

/-- The host of the authority can be a server's name unless it is an address of groups. -/
theorem isServerName_hostOf (port : UInt16) :
    isServerName (Uri.hostOf (h.authority port)) = !h.isGroups := by
  cases h with
  | name d =>
    rw [authority, inAuthority, Uri.hostOf_plain (isNamed_name d).isPlain, d.isServerName_text]
    rfl
  | octets o =>
    rw [authority, inAuthority, Uri.hostOf_plain (isNamed_octets o).isPlain, o.isServerName_text]
    rfl
  | groups e bracketed =>
    obtain ⟨rest, hrest⟩ := Uri.exists_hostOf_bracket ((groups e bracketed).at_not_mem_authority port)
    exact (congrArg isServerName hrest).trans (isServerName_bracket rest)

open Config

/-- The settings for a host, with a scheme in front of it or without one, and a port, after some steps. -/
def config (port : UInt16) (steps : List Step) : Config :=
  (forAddress (.ofList (scheme.elim [] (· ++ Uri.schemeEnd) ++ h.text)) port).after steps

/-- The scheme is the secure one of the web, in any letter case. -/
def IsSecure (scheme : Option (List Char)) : Prop := ∃ s ∈ scheme, sameLetters s "https".toList = true

theorem text_spelling :
    (h.spelling scheme).text = scheme.elim [] (· ++ Uri.schemeEnd) ++ h.text := by
  simp [Spelling.text, Spelling.body, Spelling.authority, spelling]

theorem isSecure_iff :
    IsSecure scheme ↔ (h.spelling scheme).site.lowerScheme = "https".toList := by
  change _ ↔ (scheme.map (·.map Char.toLower)).getD "http".toList = _
  cases scheme with
  | none => exact iff_of_false (fun ⟨_, hs, _⟩ => nomatch hs) (by decide)
  | some s => simp [IsSecure, sameLetters_iff]

variable {scheme}

theorem lowerScheme_site (hscheme : ∀ s ∈ scheme, IsWebScheme s) (hplain : ¬ IsSecure scheme) :
    (h.spelling scheme).site.lowerScheme = "http".toList := by
  change (scheme.map (·.map Char.toLower)).getD "http".toList = _
  cases scheme with
  | none => rfl
  | some s =>
    have hhttp := (hscheme s rfl).resolve_right fun hhttps => hplain ⟨s, rfl, hhttps⟩
    exact (sameLetters_iff.mp hhttp).trans (by decide)

theorem useTls_forAddress (hscheme : ∀ s ∈ scheme, IsWebScheme s) (port : UInt16) :
    (forAddress (.ofList (h.spelling scheme).text) port).useTls = true ↔ IsSecure scheme := by
  have hw := h.wellFormed_spelling hscheme
  rw [hw.forAddress_eq, hw.site.useTls_iff, isSecure_iff]

theorem useTls_config (hscheme : ∀ s ∈ scheme, IsWebScheme s) (port : UInt16) (steps : List Step) :
    (h.config scheme port steps).useTls = true ↔ last? Step.tls? steps = some true ∨
      last? Step.tls? steps = none ∧ IsSecure scheme := by
  rw [config, ← text_spelling, after_eq_settled, settled, ← h.useTls_forAddress hscheme port]
  cases last? Step.tls? steps <;> simp

theorem lowerScheme_eq_schemeName (hscheme : ∀ s ∈ scheme, IsWebScheme s) (port : UInt16) :
    (h.spelling scheme).site.lowerScheme =
      schemeName (forAddress (.ofList (h.spelling scheme).text) port).useTls := by
  have htls := h.useTls_forAddress hscheme port
  by_cases hsecure : IsSecure scheme
  · rw [htls.mpr hsecure, (h.isSecure_iff scheme).mp hsecure]
    rfl
  · rw [Bool.eq_false_iff.mpr (mt htls.mp hsecure), h.lowerScheme_site hscheme hsecure]
    rfl

/-- The address is the scheme that goes with TLS and the authority of host and port. -/
theorem address_config (hscheme : ∀ s ∈ scheme, IsWebScheme s) (port : UInt16) (steps : List Step) :
    (h.config scheme port steps).address.toList =
      schemeName (h.config scheme port steps).useTls ++ (Uri.schemeEnd ++ h.authority port) := by
  have hw := h.wellFormed_spelling hscheme
  rw [config, ← text_spelling]
  refine address_after_of_schemeName ?_ steps
  rw [hw.toList_address, Site.text_withPort, host_site, ← h.lowerScheme_eq_schemeName hscheme port]
  rfl

/-- The endpoint of such an address is refused under TLS for an address of groups, then for the user agent. -/
theorem endpoint_eq {c : Config} {port : UInt16}
    (haddress : c.address.toList = schemeName c.useTls ++ (Uri.schemeEnd ++ h.authority port)) :
    c.endpoint =
      if c.useTls && h.isGroups then .error (.invalidConfig "TLS config error: transport error")
      else if !c.userAgent.all isHeaderText then
        .error (.invalidConfig "user agent: user agent is not a valid header value")
      else .ok (.absolute (schemeName c.useTls) (h.authority port) [] none) := by
  have hname : schemeName c.useTls = "http".toList ∨ schemeName c.useTls = "https".toList := by
    cases c.useTls
    · exact .inl rfl
    · exact .inr rfl
  have hparse := Uri.parse?_authority hname (h.isAuthority_authority port)
    (List.append_ne_nil_of_right_ne_nil _ (List.cons_ne_nil _ _)) (h.endsAuthority_authority port)
    ((h.length_authority_le port).trans (by decide))
  rw [← haddress, String.ofList_toList] at hparse
  have hhost : (Uri.absolute (schemeName c.useTls) (h.authority port) [] none).host?.any isServerName =
      !h.isGroups := h.isServerName_hostOf port
  rw [endpoint, check, hparse]
  simp only [hhost, Bool.not_not]
  split_ifs <;> rfl

/-- The identifier of host and port has a path of one slash. -/
theorem toList_text_authority (enabled : Bool) (port : UInt16) :
    (Uri.absolute (schemeName enabled) (h.authority port) [] none).text.toList =
      (schemeName enabled ++ Uri.schemeEnd) ++
        (h.inAuthority ++ ':' :: (Decimal.digits port.toNat ++ ['/'])) := by
  simp [Uri.toList_text, Uri.toList, Uri.queryText, authority]

/-- What the endpoint for a host is. -/
structure HasEndpoint (scheme : Option (List Char)) (port : UInt16) (steps : List Step) : Prop where
  /-- TLS is used if the last step for it says so, and without such a step if the scheme is the secure one. -/
  useTls_iff : (h.config scheme port steps).useTls = true ↔ last? Step.tls? steps = some true ∨
    last? Step.tls? steps = none ∧ IsSecure scheme
  plain : (h.config scheme port steps).useTls = false →
    (∀ agent ∈ last? Step.userAgent? steps, ∀ b ∈ utf8 agent, ¬ IsForbidden b) →
      ∃ uri, (h.config scheme port steps).endpoint = .ok uri ∧ uri.text.toList =
        "http://".toList ++ (h.inAuthority ++ ':' :: (Decimal.digits port.toNat ++ ['/']))
  secure : (h.config scheme port steps).useTls = true → h.isGroups = false →
    (∀ agent ∈ last? Step.userAgent? steps, ∀ b ∈ utf8 agent, ¬ IsForbidden b) →
      ∃ uri, (h.config scheme port steps).endpoint = .ok uri ∧ uri.text.toList =
        "https://".toList ++ (h.inAuthority ++ ':' :: (Decimal.digits port.toNat ++ ['/']))
  /-- Under TLS there is none for an address of groups, whatever the user agent. -/
  refused : (h.config scheme port steps).useTls = true → h.isGroups = true →
    ∃ reason, (h.config scheme port steps).endpoint = .error (.invalidConfig reason)

theorem userAgent_config (port : UInt16) (steps : List Step)
    (h' : ∀ agent ∈ last? Step.userAgent? steps, ∀ b ∈ utf8 agent, ¬ IsForbidden b) :
    (h.config scheme port steps).userAgent.all isHeaderText = true := by
  rw [config, after_eq_settled, settled]
  cases hlast : last? Step.userAgent? steps with
  | none => rfl
  | some agent =>
    by_contra hforbidden
    obtain ⟨b, hb, hbad⟩ := (isHeaderText_eq_false_iff agent).mp (by simpa using hforbidden)
    exact h' agent hlast b hb hbad

/-- Every good host has its endpoint, with any port and after any steps. -/
theorem hasEndpoint (hscheme : ∀ s ∈ scheme, IsWebScheme s) (port : UInt16) (steps : List Step) :
    h.HasEndpoint scheme port steps := by
  have hendpoint := h.endpoint_eq (h.address_config hscheme port steps)
  constructor
  case useTls_iff => exact h.useTls_config hscheme port steps
  case plain =>
    intro htls hagent
    rw [htls, h.userAgent_config port steps hagent] at hendpoint
    exact ⟨_, hendpoint, h.toList_text_authority false port⟩
  case secure =>
    intro htls hgroups hagent
    rw [htls, hgroups, h.userAgent_config port steps hagent] at hendpoint
    exact ⟨_, hendpoint, h.toList_text_authority true port⟩
  case refused =>
    intro htls hgroups
    rw [htls, hgroups] at hendpoint
    exact ⟨_, hendpoint⟩

/-- A name with a hyphen, a low line and a point at its end. -/
def sampleName : DomainName where
  labels := ["a-1".toList, "b_2".toList]
  rooted := true
  ne_nil := by decide
  isLabel := by
    intro label hlabel
    obtain rfl | rfl : label = "a-1".toList ∨ label = "b_2".toList := by simpa using hlabel
    all_goals exact ⟨by decide, List.all_iff_forall_prop.mp (by decide), by decide, by decide⟩
  not_all_digits := ⟨"b_2".toList, by decide, 'b', by decide, by decide⟩
  length_le := by decide

/-- The name is reached under TLS, which its scheme asks for, and a user agent. -/
theorem sampleName_hasEndpoint : ∃ uri,
    ((name sampleName).config (some "HTTPS".toList) 443 [.withUserAgent "agent/1"]).endpoint = .ok uri ∧
      uri.text.toList = "https://a-1.b_2.:443/".toList := by
  have hscheme : ∀ s ∈ some "HTTPS".toList, IsWebScheme s := by
    rintro s ⟨⟩
    exact .inr (by decide)
  have hagent : ∀ agent ∈ last? Step.userAgent? [.withUserAgent "agent/1"],
      ∀ b ∈ utf8 agent, ¬ IsForbidden b := by
    rintro agent ⟨⟩ b hb hforbidden
    exact absurd ((isHeaderText_eq_false_iff "agent/1").mpr ⟨b, hb, hforbidden⟩) (by decide)
  have hendpoint := (name sampleName).hasEndpoint hscheme 443 [.withUserAgent "agent/1"]
  obtain ⟨uri, huri, htext⟩ :=
    hendpoint.secure (hendpoint.useTls_iff.mpr (.inr ⟨rfl, _, rfl, by decide⟩)) rfl hagent
  exact ⟨uri, huri, htext.trans (by decide +kernel)⟩

end Host
end Channel
end Telemetry
