import Telemetry.Proofs.Channel.Address

/-!
# One address for all spellings of a site

A text may write a site with white space around it, slashes behind it, a port of its own, its scheme in
capital letters, and a host with colons in it without brackets. With a port all these texts come down to one
address, and the settings for that address are the same again.
-/
namespace Telemetry

open Text

theorem Text.dropEnd_append {p : Char → Bool} {cs rest : List Char} (h : ∀ c ∈ rest, p c = true) :
    dropEnd p (cs ++ rest) = dropEnd p cs := by
  rw [dropEnd, List.reverse_append,
    List.dropWhile_append_of_pos fun c hc => h c (List.mem_reverse.mp hc), dropEnd]

/-- Slashes behind a text without any make it contain `://` only if it ends in a colon and they are two. -/
theorem Uri.ends_of_infix_append {cs : List Char} {n : Nat} (hslash : '/' ∉ cs)
    (h : schemeEnd <:+: cs ++ List.replicate n '/') : cs.getLast? = some ':' ∧ 2 ≤ n := by
  obtain ⟨before, behind, heq⟩ := h
  rw [List.append_assoc] at heq
  obtain ⟨common, rfl, hcommon⟩ | ⟨common, -, hcommon⟩ := List.append_eq_append_iff.mp heq
  · match common with
    | [] =>
      have hcolon : ':' ∈ List.replicate n '/' := by
        rw [← List.nil_append (List.replicate n '/'), ← hcommon]
        exact List.mem_cons_self
      exact absurd (List.eq_of_mem_replicate hcolon) (by decide)
    | [c] =>
      obtain ⟨rfl, hrest⟩ : ':' = c ∧ '/' :: '/' :: behind = List.replicate n '/' := by
        simpa [schemeEnd] using hcommon
      have hlength := congrArg List.length hrest
      simp only [List.length_cons, List.length_replicate] at hlength
      exact ⟨by simp, by omega⟩
    | c :: d :: common =>
      obtain ⟨-, rfl, -⟩ : ':' = c ∧ '/' = d ∧ _ := by simpa [schemeEnd] using hcommon
      exact absurd (by simp) hslash
  · have hcolon : ':' ∈ List.replicate n '/' := by
      rw [hcommon]
      exact List.mem_append_right _ List.mem_cons_self
    exact absurd (List.eq_of_mem_replicate hcolon) (by decide)

namespace Channel

/-- A host with colons in it that is not in brackets. -/
def Site.IsBare (host : List Char) : Prop :=
  2 ≤ host.count ':' ∧ ∀ c ∈ host, isBlank c = false ∧ c ∉ ['/', '[', ']']

instance : DecidablePred Site.IsBare := fun _ => inferInstanceAs (Decidable (_ ∧ _))

/-- A text for a host, in parts. -/
structure Spelling where
  before : List Char
  scheme : Option (List Char)
  host : List Char
  port : Option (List Char)
  slashes : Nat
  after : List Char

namespace Spelling

/-- The host with the port behind it, if there is one. -/
def authority (w : Spelling) : List Char := w.host ++ w.port.elim [] (':' :: ·)

/-- The text without the white space around it. -/
def body (w : Spelling) : List Char :=
  w.scheme.elim [] (· ++ Uri.schemeEnd) ++ (w.authority ++ List.replicate w.slashes '/')

def text (w : Spelling) : List Char := w.before ++ (w.body ++ w.after)

/-- A bare host has no port, for that would be a part of it, and not two slashes, for with a colon at its end
they would make it a scheme. -/
structure WellFormed (w : Spelling) : Prop where
  before : ∀ c ∈ w.before, isBlank c = true
  scheme : ∀ scheme ∈ w.scheme, scheme ≠ [] ∧ ∀ c ∈ scheme, Site.IsSchemeChar c
  host : (Site.IsName w.host ∨ Site.IsLiteral w.host) ∨
    Site.IsBare w.host ∧ w.port = none ∧ w.slashes ≤ 1
  port : ∀ port ∈ w.port, port ≠ [] ∧ ∀ c ∈ port, c.isDigit = true
  after : ∀ c ∈ w.after, isBlank c = true

/-- The site that a text writes: a bare host is put in brackets. -/
def site (w : Spelling) : Site where
  scheme := w.scheme
  host := if Site.IsBare w.host then '[' :: (w.host ++ [']']) else w.host
  port := w.port

theorem not_isBare {host : List Char} (h : Site.IsName host ∨ Site.IsLiteral host) :
    ¬ Site.IsBare host := by
  rintro ⟨hcount, hbare⟩
  obtain hname | ⟨inner, rfl, -⟩ := h
  · have hcolon : ':' ∈ host := List.count_pos_iff.mp (by omega)
    exact absurd (hname.2 _ hcolon).2 (by decide)
  · exact absurd (hbare '[' List.mem_cons_self).2 (by decide)

namespace WellFormed

variable {w : Spelling}

theorem site (hw : w.WellFormed) : w.site.WellFormed := by
  refine ⟨hw.scheme, ?_, hw.port⟩
  obtain hhost | ⟨hbare, -⟩ := hw.host
  · rwa [Spelling.site, if_neg (not_isBare hhost)]
  · refine .inr ⟨w.host, if_pos hbare, fun c hc => ?_⟩
    obtain ⟨hblank, hmem⟩ := hbare.2 c hc
    exact ⟨hblank, fun hc => hmem (by simp_all)⟩

theorem mem_authority (hw : w.WellFormed) {c : Char} (hc : c ∈ w.authority) :
    isBlank c = false ∧ c ≠ '/' := by
  obtain hhost | ⟨hbare, hport, -⟩ := hw.host
  · refine hw.site.mem_authority ?_
    rwa [Spelling.site, if_neg (not_isBare hhost)]
  · rw [authority, hport, Option.elim_none, List.append_nil] at hc
    obtain ⟨hblank, hmem⟩ := hbare.2 c hc
    exact ⟨hblank, fun hslash => hmem (by simp [hslash])⟩

theorem slash_not_mem_authority (hw : w.WellFormed) : '/' ∉ w.authority :=
  fun hmem => (hw.mem_authority hmem).2 rfl

/-- Only a bare host can end in a colon, and it has at most one slash behind it. -/
theorem not_infix_authority (hw : w.WellFormed) :
    ¬ Uri.schemeEnd <:+: w.authority ++ List.replicate w.slashes '/' := by
  intro hwithin
  obtain ⟨hlast, hslashes⟩ := Uri.ends_of_infix_append hw.slash_not_mem_authority hwithin
  obtain hhost | ⟨-, -, hone⟩ := hw.host
  · cases hport : w.port with
    | some port =>
      obtain ⟨hne, hdigits⟩ := hw.port port hport
      rw [authority, hport, Option.elim_some, ← List.singleton_append, ← List.append_assoc,
        List.getLast?_append_of_ne_nil _ hne] at hlast
      exact absurd (hdigits _ (List.mem_of_getLast? hlast)) (by decide)
    | none =>
      rw [authority, hport, Option.elim_none, List.append_nil] at hlast
      obtain hname | ⟨inner, hliteral, -⟩ := hhost
      · exact absurd (hname.2 _ (List.mem_of_getLast? hlast)).2 (by decide)
      · simp [hliteral, List.getLast?_cons] at hlast
  · omega

theorem isBlank_body (hw : w.WellFormed) : ∀ c ∈ w.body, isBlank c = false := by
  intro c hc
  obtain hc | hc := List.mem_append.mp hc
  · exact hw.site.isBlank_text c (List.mem_append_left _ hc)
  · obtain hc | hc := List.mem_append.mp hc
    · exact (hw.mem_authority hc).1
    · obtain rfl := List.eq_of_mem_replicate hc
      decide

theorem trim_text (hw : w.WellFormed) : trim w.text = w.body :=
  trim_append (List.all_eq_true.mpr hw.before) (List.all_eq_true.mpr hw.after) hw.isBlank_body

theorem splitScheme_body (hw : w.WellFormed) :
    Config.splitScheme w.body = (w.scheme, w.authority ++ List.replicate w.slashes '/') := by
  cases hscheme : w.scheme with
  | none =>
    have hnone := (splitOnce?_eq_none Uri.schemeEnd_ne_nil).mpr hw.not_infix_authority
    rw [body, hscheme, Option.elim_none, List.nil_append, Config.splitScheme, hnone]
  | some scheme =>
    have hcolon : ':' ∉ scheme := fun hmem =>
      ((hw.scheme scheme hscheme).2 _ hmem).range.2.1 rfl
    refine Config.splitScheme_of_splitsAt ?_
    have hsplits := Uri.splitsAt_schemeEnd hcolon (w.authority ++ List.replicate w.slashes '/')
    rwa [body, hscheme, Option.elim_some, List.append_assoc]

theorem hostWithoutPort_authority (hw : w.WellFormed) :
    Config.hostWithoutPort w.authority = w.site.host := by
  obtain hhost | ⟨hbare, hport, -⟩ := hw.host
  · have hsite : w.authority = w.site.host ++ w.site.port.elim [] (':' :: ·) := by
      rw [Spelling.site, if_neg (not_isBare hhost), authority]
    rw [hsite, hw.site.hostWithoutPort_authority]
  · have hopen : w.host.head? ≠ some '[' := fun hhead =>
      absurd (hbare.2 _ (List.mem_of_mem_head? hhead)).2 (by decide)
    rw [authority, hport, Option.elim_none, List.append_nil, Config.hostWithoutPort, if_neg hopen,
      Spelling.site, if_pos hbare]
    obtain ⟨n, hcount⟩ := Nat.exists_eq_add_of_le' hbare.1
    rw [hcount]
    rfl

theorem schemeIn_text (hw : w.WellFormed) : Config.schemeIn w.text = w.site.lowerScheme := by
  rw [Config.schemeIn, hw.trim_text, hw.splitScheme_body, ← hw.site.schemeIn_text, Config.schemeIn,
    trim_eq_self hw.site.isBlank_text, hw.site.splitScheme_text]
  rfl

theorem hostIn_text (hw : w.WellFormed) : Config.hostIn w.text = w.site.host := by
  have hslashes : ∀ c ∈ List.replicate w.slashes '/', decide (c = '/') = true := fun c hc =>
    decide_eq_true (List.eq_of_mem_replicate hc)
  have hlast : dropEnd (· = '/') w.authority = w.authority := dropEnd_eq_self fun c hc =>
    decide_eq_false (hw.mem_authority (List.mem_of_getLast? hc)).2
  rw [Config.hostIn, hw.trim_text, hw.splitScheme_body, dropEnd_append hslashes, hlast,
    hw.hostWithoutPort_authority]

/-- A spelling gives the settings of its site. -/
theorem forAddress_eq (hw : w.WellFormed) (port : UInt16) :
    Config.forAddress (.ofList w.text) port = Config.forAddress (.ofList w.site.text) port := by
  have htarget : Config.targetOf w.text port = Config.targetOf w.site.text port := by
    rw [Config.targetOf_eq, Config.targetOf_eq, hw.schemeIn_text, hw.hostIn_text,
      hw.site.schemeIn_text, hw.site.hostIn_text]
  rw [Config.forAddress, Config.forAddress, String.toList_ofList, String.toList_ofList, htarget]

/-- The address is that of the site, with the given port. -/
theorem toList_address (hw : w.WellFormed) (port : UInt16) :
    (Config.forAddress (.ofList w.text) port).address.toList = (w.site.withPort port).text := by
  rw [hw.forAddress_eq, hw.site.toList_address]

end WellFormed

end Spelling

namespace Config

/-- Settings for a target have nothing but its address to tell them apart. -/
theorem new_eq_of_address {target target' : String}
    (h : (new target).address = (new target').address) : new target = new target' := by
  have haddress : addressOf target.toList = addressOf target'.toList :=
    String.ofList_injective h
  rw [new, new, haddress]

/-- The settings for an address without white space in it have that address. -/
theorem address_new {scheme rest : List Char} {target : String}
    (hblank : ∀ c ∈ target.toList, isBlank c = false)
    (hsplits : SplitsAt Uri.schemeEnd target.toList scheme rest) : (new target).address = target := by
  have haddress : addressOf target.toList = target.toList := by
    rw [addressOf, trim_eq_self hblank, splitScheme_of_splitsAt hsplits]
    exact if_pos (Bool.or_true _)
  rw [new, haddress, String.ofList_toList]

end Config

namespace Spelling

open Config

/-- What the settings for a text and a port are, however the text writes its site. -/
structure HasOneAddress (w : Spelling) (port : UInt16) : Prop where
  /-- The address is the scheme in lower case, the host, in brackets if it is bare, and the given port. -/
  address : (forAddress (.ofList w.text) port).address.toList =
    w.site.lowerScheme ++ (Uri.schemeEnd ++ (w.site.host ++ ':' :: Decimal.digits port.toNat))
  useTls_iff : (forAddress (.ofList w.text) port).useTls = true ↔ w.site.lowerScheme = "https".toList
  /-- Of the text only the host and the scheme count, this in any letter case. -/
  unique : ∀ w' : Spelling, w'.WellFormed → w'.site.lowerScheme = w.site.lowerScheme →
    w'.host = w.host → forAddress (.ofList w'.text) port = forAddress (.ofList w.text) port
  /-- The port of the address is replaced as the text's own is. -/
  replaced : ∀ port', forAddress (forAddress (.ofList w.text) port).address port' =
    forAddress (.ofList w.text) port'
  /-- The address is a target for the same settings. -/
  again : new (forAddress (.ofList w.text) port).address = forAddress (.ofList w.text) port

/-- All texts for a site come down to one address with a given port. -/
theorem hasOneAddress {w : Spelling} (hw : w.WellFormed) (port : UInt16) : w.HasOneAddress port := by
  have hsite := hw.site.withPort port
  have haddress : (forAddress (.ofList w.text) port).address = .ofList (w.site.withPort port).text :=
    String.ext ((hw.toList_address port).trans String.toList_ofList.symm)
  constructor
  case address => rw [hw.toList_address, Site.text_withPort]
  case useTls_iff => rw [hw.forAddress_eq, hw.site.useTls_iff]
  case unique =>
    intro w' hw' hscheme hhost
    refine new_eq_of_address (String.ext ?_)
    change (forAddress _ port).address.toList = (forAddress _ port).address.toList
    rw [hw'.toList_address, hw.toList_address, Site.withPort, Site.withPort, hscheme,
      Spelling.site, Spelling.site, hhost]
  case replaced =>
    intro port'
    refine new_eq_of_address (String.ext ?_)
    change (forAddress _ port').address.toList = (forAddress _ port').address.toList
    rw [haddress, hsite.toList_address, hw.toList_address, Site.withPort_withPort]
  case again =>
    refine new_eq_of_address ?_
    change (new _).address = (forAddress _ port).address
    have hsplits := hw.site.splitsAt_withPort port
    rw [← String.toList_ofList (l := (w.site.withPort port).text)] at hsplits
    rw [haddress]
    refine address_new (fun c hc => ?_) hsplits
    rw [String.toList_ofList] at hc
    exact hsite.isBlank_text c hc

/-- A host with colons in it, with a slash behind it, blanks around it and a scheme in capital letters. -/
def loopback : Spelling := ⟨[' '], some "HTTPS".toList, "::1".toList, none, 1, ['\n']⟩

theorem loopback_hasOneAddress :
    loopback.WellFormed ∧ loopback.text = " HTTPS://::1/\n".toList ∧ loopback.HasOneAddress 4000 := by
  have hwellFormed : loopback.WellFormed := by
    constructor
    case before => exact List.all_eq_true.mp (by decide)
    case scheme =>
      exact fun _ h => Option.some.inj h ▸ ⟨by decide, List.all_iff_forall_prop.mp (by decide)⟩
    case host =>
      exact .inr ⟨⟨by decide, List.all_iff_forall_prop.mp (by decide)⟩, rfl, by decide⟩
    case port => exact fun _ h => nomatch h
    case after => exact List.all_eq_true.mp (by decide)
  exact ⟨hwellFormed, by decide, hasOneAddress hwellFormed 4000⟩

end Spelling
end Channel
end Telemetry
