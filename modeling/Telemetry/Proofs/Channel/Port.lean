import Telemetry.Proofs.Channel.Tls
import Telemetry.Proofs.Decimal
import Telemetry.Proofs.Text.Lower
import Telemetry.Settings

/-!
# The given port

The address of a host and a port ends in the port, so the port is that of the endpoint if the authority
reaches to the end of the address. It does not if something in the host ends the authority before.
-/
namespace Telemetry

open Text

namespace Uri

theorem not_endsAuthority_of_mem_digits {n : Nat} {c : Char} (hc : c ∈ Decimal.digits n) :
    endsAuthority c = false := by
  have hdigit := Decimal.isDigit_of_mem_digits n c hc
  unfold endsAuthority
  refine Bool.eq_false_iff.mpr fun hend => ?_
  obtain rfl | rfl | rfl : c = '/' ∨ c = '?' ∨ c = '#' := by simpa [or_assoc] using hend
  all_goals exact absurd hdigit (by decide)

/-- The port of an authority that ends in one. -/
theorem portOf_append (host : List Char) (port : UInt16) :
    portOf (host ++ ':' :: Decimal.digits port.toNat) = some port := by
  have hnot : ∀ c ∈ (Decimal.digits port.toNat).reverse, decide (c ≠ ':') = true := by
    intro c hc
    have hdigit := Decimal.isDigit_of_mem_digits _ c (List.mem_reverse.mp hc)
    exact decide_eq_true fun hcolon => by simp [hcolon] at hdigit
  have htext : ((host ++ ':' :: Decimal.digits port.toNat).reverse.takeWhile (· ≠ ':')).reverse =
      Decimal.digits port.toNat := by
    rw [List.reverse_append, List.reverse_cons, List.append_assoc, List.takeWhile_append_of_pos hnot]
    simp
  have hhead : (Decimal.digits port.toNat).head? ≠ some '+' := by
    intro hhead
    have hdigit := Decimal.isDigit_of_mem_digits _ _ (List.mem_of_mem_head? hhead)
    exact absurd hdigit (by decide)
  simp only [portOf, htext, if_neg hhead, Decimal.natural?_digits]
  simp [port.toNat_lt]

end Uri

namespace Channel.Config

/-- The scheme of a host, in lower case. -/
def schemeIn (host : List Char) : List Char :=
  ((splitScheme (trim host)).1.map lower).getD "http".toList

/-- What is left of a host without its scheme, the slashes at its end and its own port. -/
def hostIn (host : List Char) : List Char :=
  hostWithoutPort (dropEnd (· = '/') (splitScheme (trim host)).2)

theorem targetOf_eq (host : List Char) (port : UInt16) : targetOf host port =
    schemeIn host ++ (Uri.schemeEnd ++ (hostIn host ++ ':' :: Decimal.digits port.toNat)) := rfl

theorem not_infix_schemeIn (host : List Char) : ¬ Uri.schemeEnd <:+: schemeIn host := by
  intro hwithin
  unfold schemeIn at hwithin
  cases hscheme : (splitScheme (trim host)).1 with
  | none =>
    rw [hscheme] at hwithin
    exact absurd hwithin (by decide)
  | some scheme =>
    rw [hscheme] at hwithin
    have hbelow : ∀ x ∈ Uri.schemeEnd, Lower.IsBelow x := by
      simp [Uri.schemeEnd, Lower.IsBelow]
    obtain ⟨b, a, hscheme'⟩ := Lower.infix_of_infix_after hbelow Uri.schemeEnd_ne_nil hwithin
    have hsplits := splitsAt_of_splitScheme (Prod.ext hscheme rfl)
    have hfirst := hsplits.first b (a ++ (Uri.schemeEnd ++ (splitScheme (trim host)).2))
      (hsplits.eq.trans (by rw [← hscheme']; simp only [List.append_assoc]))
    rw [← hscheme'] at hfirst
    simp [Uri.schemeEnd] at hfirst

theorem isBlank_of_isDigit {c : Char} (h : c.isDigit = true) : isBlank c = false := by
  have hrange : 48 ≤ c.toNat ∧ c.toNat ≤ 57 := by simpa [Char.isDigit, UInt32.le_iff_toNat_le] using h
  exact isBlank_of_ascii (by omega)

theorem trim_targetOf (host : List Char) (port : UInt16) : trim (targetOf host port) =
    (schemeIn host).dropWhile isBlank ++
      (Uri.schemeEnd ++ (hostIn host ++ ':' :: Decimal.digits port.toNat)) := by
  have hlast : (Uri.schemeEnd ++ (hostIn host ++ ':' :: Decimal.digits port.toNat)).getLast? =
      (Decimal.digits port.toNat).getLast? := by
    rw [show Uri.schemeEnd ++ (hostIn host ++ ':' :: Decimal.digits port.toNat) =
      (Uri.schemeEnd ++ (hostIn host ++ [':'])) ++ Decimal.digits port.toNat by simp]
    exact List.getLast?_append_of_ne_nil _ (Decimal.digits_ne_nil _)
  rw [targetOf_eq]
  refine trim_append_cons (by decide) fun c hc => isBlank_of_isDigit ?_
  have hmem : c ∈ (Decimal.digits port.toNat).getLast? := hlast ▸ hc
  exact Decimal.isDigit_of_mem_digits port.toNat c (List.mem_of_getLast? hmem)

theorem splitsAt_trim_targetOf (host : List Char) (port : UInt16) :
    SplitsAt Uri.schemeEnd (trim (targetOf host port)) ((schemeIn host).dropWhile isBlank)
      (hostIn host ++ ':' :: Decimal.digits port.toNat) := by
  rw [trim_targetOf]
  refine Uri.splitsAt_of_absent (fun hwithin => ?_) _
  exact not_infix_schemeIn host (hwithin.trans (List.dropWhile_suffix _).isInfix)

/-- The address is the target without white space around it, for it has a scheme. -/
theorem toList_address_forAddress (host : String) (port : UInt16) :
    (forAddress host port).address.toList = trim (targetOf host.toList port) := by
  rw [forAddress, new, String.toList_ofList, String.toList_ofList, addressOf,
    splitScheme_of_splitsAt (splitsAt_trim_targetOf host.toList port)]
  simp

/-- The settings for a host and a port, on their own or for the client of a command. -/
inductive GivenPort (host : String) (port : UInt16) : Config → Prop
  | direct : GivenPort host port (forAddress host port)
  | command (s : Settings) (htarget : s.target = host) (hport : s.port = some port) :
    GivenPort host port s.builder.config

theorem GivenPort.address_eq {host : String} {port : UInt16} {c : Config}
    (h : GivenPort host port c) : c.address = (forAddress host port).address := by
  cases h with
  | direct => rfl
  | command s htarget hport =>
    subst htarget
    cases hagent : s.userAgent <;> cases htoken : s.serviceToken <;>
      simp only [Settings.builder, hport, hagent, htoken] <;> rfl

/-- The host that the port is put behind goes into the authority as a whole, or the part of it that does
has that port of its own. -/
def KeepsPort (host : List Char) (port : UInt16) : Prop :=
  (∀ c ∈ hostIn host, Uri.endsAuthority c = false) ∨
    Uri.portOf ((hostIn host).takeWhile (!Uri.endsAuthority ·)) = some port

theorem portOf_takeWhile (host : List Char) (port : UInt16) :
    Uri.portOf ((hostIn host ++ ':' :: Decimal.digits port.toNat).takeWhile (!Uri.endsAuthority ·)) =
      some port ↔ KeepsPort host port := by
  by_cases hwhole : ∀ c ∈ hostIn host, Uri.endsAuthority c = false
  · have hrest : ∀ c ∈ ':' :: Decimal.digits port.toNat, (!Uri.endsAuthority c) = true := by
      intro c hc
      obtain rfl | hdigit := List.mem_cons.mp hc
      · decide
      · simp [Uri.not_endsAuthority_of_mem_digits hdigit]
    rw [List.takeWhile_append_of_pos fun c hc => by simp [hwhole c hc],
      List.takeWhile_eq_self_iff.mpr hrest]
    exact iff_of_true (Uri.portOf_append _ _) (.inl hwhole)
  · have hshort : ((hostIn host).takeWhile (!Uri.endsAuthority ·)).length ≠ (hostIn host).length := by
      intro hlength
      have hself := (List.takeWhile_prefix (l := hostIn host) _).eq_of_length hlength
      exact hwhole fun c hc => by simpa using List.takeWhile_eq_self_iff.mp hself c hc
    rw [List.takeWhile_append, if_neg hshort, KeepsPort, or_iff_right hwhole]

/-- An endpoint for a host and a port has that port exactly if the address is no path, and nothing in the
host ends the authority before the port. -/
theorem port?_eq_some_iff {host : String} {port : UInt16} {c : Config} (hc : GivenPort host port c)
    {uri : Uri} (h : c.endpoint = .ok uri) : uri.port? = some port ↔
      c.address.toList.head? ≠ some '/' ∧ KeepsPort host.toList port := by
  have hsplits := splitsAt_trim_targetOf host.toList port
  rw [← toList_address_forAddress, ← hc.address_eq] at hsplits
  rw [Uri.port?, Uri.authority?_of_parse? hsplits (parse?_of_endpoint h)]
  split_ifs with hpath
  · simp [hpath]
  · rw [Option.bind_some, portOf_takeWhile]
    simp [hpath]

/-- A path behind a port goes with that port. -/
theorem localhost_has_port :
    (forAddress "localhost:1/x" 2).endpoint = .ok (.absolute "http".toList "localhost:2".toList [] none) ∧
      Uri.port? (.absolute "http".toList "localhost:2".toList [] none) = some 2 := by
  have hendpoint : (forAddress "localhost:1/x" 2).endpoint =
      .ok (.absolute "http".toList "localhost:2".toList [] none) := by decide +kernel
  have habsolute : (forAddress "localhost:1/x" 2).address.toList.head? ≠ some '/' := by decide +kernel
  have hwhole : (hostIn "localhost:1/x".toList).all (!Uri.endsAuthority ·) = true := by decide +kernel
  exact ⟨hendpoint, (port?_eq_some_iff .direct hendpoint).mpr
    ⟨habsolute, .inl fun c hc => by simpa using List.all_eq_true.mp hwhole c hc⟩⟩

/-- A path behind the host takes the port with it. -/
theorem not_forall_port : ¬ ∀ (host : String) (port : UInt16) (c : Config) (uri : Uri),
    GivenPort host port c → c.endpoint = .ok uri →
      uri.authority?.isSome = true ∧ uri.port? = some port := by
  intro hall
  have hendpoint : (forAddress "example.com/path" 4000).endpoint =
      .ok (.absolute "http".toList "example.com".toList "/path:4000".toList none) := by decide +kernel
  exact absurd (hall _ _ _ _ .direct hendpoint).2 (by decide)

end Channel.Config
end Telemetry
