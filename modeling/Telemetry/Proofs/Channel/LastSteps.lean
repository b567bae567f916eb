import Telemetry.Proofs.Channel.Steps
import Telemetry.Proofs.Channel.Tls

/-!
# What a run of steps leaves

A step is for one of five settings. After a run of steps each setting is as the last step for it says,
whatever stands between, and as it was if there is none. The address goes with the setting of TLS: its scheme is
replaced and what stands behind `://` is kept.
-/
namespace Telemetry

namespace Uri

/-- What an identifier says apart from its scheme: the authority, the path and the query. -/
def withoutScheme : Uri → Option (List Char) × List Char × Option (List Char)
  | .pathOnly path query => (none, path, query)
  | .authorityOnly authority => (some authority, [], none)
  | .absolute _ authority path query => (some authority, path, query)

end Uri

namespace Channel.Config

open Text

namespace Step

@[simp] def keepAlive? : Step → Option (Option KeepAlive)
  | withoutKeepAlive => some none
  | withKeepAlive k => some (some k)
  | _ => none

@[simp] def connectTimeout? : Step → Option Duration
  | withConnectTimeout d => some d
  | _ => none

@[simp] def requestTimeout? : Step → Option Duration
  | withRequestTimeout d => some d
  | _ => none

@[simp] def userAgent? : Step → Option String
  | withUserAgent agent => some agent
  | _ => none

@[simp] def tls? : Step → Option Bool
  | withTls => some true
  | withoutTls => some false
  | _ => none

end Step

section
variable {α : Type} (setting : Step → Option α)

/-- What the last step for a setting sets it to. -/
def last? (steps : List Step) : Option α := (steps.filterMap setting).getLast?

@[simp] theorem last?_append_singleton (steps : List Step) (s : Step) :
    last? setting (steps ++ [s]) = (setting s).or (last? setting steps) := by
  cases hs : setting s <;> simp [last?, hs]

end

/-- Two runs have the same last step for every setting. -/
structure SameLast (steps steps' : List Step) : Prop where
  keepAlive : last? Step.keepAlive? steps = last? Step.keepAlive? steps'
  connectTimeout : last? Step.connectTimeout? steps = last? Step.connectTimeout? steps'
  requestTimeout : last? Step.requestTimeout? steps = last? Step.requestTimeout? steps'
  userAgent : last? Step.userAgent? steps = last? Step.userAgent? steps'
  tls : last? Step.tls? steps = last? Step.tls? steps'

def schemeName (enabled : Bool) : List Char := if enabled then "https".toList else "http".toList

theorem colon_not_mem_schemeName (enabled : Bool) : ':' ∉ schemeName enabled := by
  cases enabled <;> decide

theorem addressWithTls_of_splitsAt {address scheme rest : List Char}
    (h : SplitsAt Uri.schemeEnd address scheme rest) (enabled : Bool) :
    addressWithTls address enabled = schemeName enabled ++ (Uri.schemeEnd ++ rest) := by
  rw [addressWithTls, splitScheme_of_splitsAt h]
  rfl

theorem addressWithTls_of_absent {address : List Char} (h : ¬ Uri.schemeEnd <:+: address)
    (enabled : Bool) : addressWithTls address enabled = address := by
  rw [addressWithTls, splitScheme, (splitOnce?_eq_none Uri.schemeEnd_ne_nil).mpr h]

theorem exists_splitsAt {address : List Char} (h : Uri.schemeEnd <:+: address) :
    ∃ scheme rest, SplitsAt Uri.schemeEnd address scheme rest := by
  cases hsplit : splitOnce? Uri.schemeEnd address with
  | none => exact absurd h ((splitOnce?_eq_none Uri.schemeEnd_ne_nil).mp hsplit)
  | some parts => exact ⟨_, _, splitsAt_of_splitOnce? Uri.schemeEnd_ne_nil hsplit⟩

/-- The scheme that a step for TLS writes is split off again, at the same place, by the next one. -/
theorem splitsAt_addressWithTls {address scheme rest : List Char}
    (h : SplitsAt Uri.schemeEnd address scheme rest) (enabled : Bool) :
    SplitsAt Uri.schemeEnd (addressWithTls address enabled) (schemeName enabled) rest := by
  rw [addressWithTls_of_splitsAt h]
  exact Uri.splitsAt_schemeEnd (colon_not_mem_schemeName enabled) rest

theorem addressWithTls_addressWithTls (address : List Char) (enabled enabled' : Bool) :
    addressWithTls (addressWithTls address enabled) enabled' = addressWithTls address enabled' := by
  by_cases h : Uri.schemeEnd <:+: address
  · obtain ⟨scheme, rest, hsplits⟩ := exists_splitsAt h
    rw [addressWithTls_of_splitsAt hsplits enabled',
      addressWithTls_of_splitsAt (splitsAt_addressWithTls hsplits enabled)]
  · rw [addressWithTls_of_absent h]

def after (c : Config) (steps : List Step) : Config := steps.foldl advance c

theorem after_append_singleton (c : Config) (steps : List Step) (s : Step) :
    c.after (steps ++ [s]) = (c.after steps).advance s := by
  rw [after, List.foldl_append]
  rfl

/-- Settings with each of them as the last step for it says. -/
def settled (c : Config) (steps : List Step) : Config where
  address := (last? Step.tls? steps).elim c.address fun enabled =>
    .ofList (addressWithTls c.address.toList enabled)
  keepAlive := (last? Step.keepAlive? steps).getD c.keepAlive
  connectTimeout := (last? Step.connectTimeout? steps).or c.connectTimeout
  requestTimeout := (last? Step.requestTimeout? steps).or c.requestTimeout
  userAgent := (last? Step.userAgent? steps).or c.userAgent
  useTls := (last? Step.tls? steps).getD c.useTls

/-- A step for TLS makes of the address what it would make of the first one. -/
theorem addressWithTls_settled (c : Config) (steps : List Step) (enabled : Bool) :
    addressWithTls (c.settled steps).address.toList enabled =
      addressWithTls c.address.toList enabled := by
  rw [settled]
  cases last? Step.tls? steps with
  | none => rfl
  | some enabled' =>
    rw [Option.elim_some, String.toList_ofList, addressWithTls_addressWithTls]

theorem advance_settled (c : Config) (steps : List Step) (s : Step) :
    (c.settled steps).advance s = c.settled (steps ++ [s]) := by
  have htls (enabled : Bool) : (c.settled steps).setTls enabled =
      { c.settled steps with
        address := .ofList (addressWithTls c.address.toList enabled), useTls := enabled } := by
    rw [setTls, addressWithTls_settled]
  cases s with
  | withTls => exact (htls true).trans (by simp [settled])
  | withoutTls => exact (htls false).trans (by simp [settled])
  | _ => simp [settled, advance, withoutKeepAlive, withKeepAlive, withConnectTimeout,
      withRequestTimeout, withUserAgent]

/-- After a run every setting is as the last step for it says. -/
theorem after_eq_settled (c : Config) (steps : List Step) : c.after steps = c.settled steps := by
  induction steps using List.reverseRecOn with
  | nil => rfl
  | append_singleton steps s ih => rw [after_append_singleton, ih, advance_settled]

/-- A run keeps what stands behind `://`. -/
theorem exists_splitsAt_after {c : Config} {scheme rest : List Char}
    (h : SplitsAt Uri.schemeEnd c.address.toList scheme rest) (steps : List Step) :
    ∃ scheme', SplitsAt Uri.schemeEnd (c.after steps).address.toList scheme' rest := by
  rw [after_eq_settled, settled]
  cases last? Step.tls? steps with
  | none => exact ⟨scheme, h⟩
  | some enabled =>
    rw [Option.elim_some, String.toList_ofList]
    exact ⟨_, splitsAt_addressWithTls h enabled⟩

theorem address_after_of_absent {c : Config} (h : ¬ Uri.schemeEnd <:+: c.address.toList)
    (steps : List Step) : (c.after steps).address = c.address := by
  rw [after_eq_settled, settled]
  cases last? Step.tls? steps with
  | none => rfl
  | some enabled => rw [Option.elim_some, addressWithTls_of_absent h, String.ofList_toList]

/-- An address with the scheme that goes with TLS keeps such a scheme. -/
theorem address_after_of_schemeName {c : Config} {rest : List Char}
    (h : c.address.toList = schemeName c.useTls ++ (Uri.schemeEnd ++ rest)) (steps : List Step) :
    (c.after steps).address.toList =
      schemeName (c.after steps).useTls ++ (Uri.schemeEnd ++ rest) := by
  have hsplits := Uri.splitsAt_schemeEnd (colon_not_mem_schemeName c.useTls) rest
  rw [← h] at hsplits
  rw [after_eq_settled, settled]
  cases last? Step.tls? steps with
  | none => exact h
  | some enabled =>
    rw [Option.elim_some, Option.getD_some, String.toList_ofList, addressWithTls_of_splitsAt hsplits]

/-- A step for TLS puts its scheme first, so the address is no path. -/
theorem head?_address_after {c : Config} {scheme rest : List Char} {steps : List Step}
    (h : SplitsAt Uri.schemeEnd c.address.toList scheme rest)
    (htls : last? Step.tls? steps = none → c.address.toList.head? ≠ some '/') :
    (c.after steps).address.toList.head? ≠ some '/' := by
  rw [after_eq_settled, settled]
  cases hlast : last? Step.tls? steps with
  | none => exact htls hlast
  | some enabled =>
    rw [Option.elim_some, String.toList_ofList, addressWithTls_of_splitsAt h]
    cases enabled <;> simp [schemeName]

/-- Two runs leave addresses that say the same apart from their schemes, if a step for TLS is in each or the
address was no path before. -/
theorem withoutScheme_after_after {c : Config} {uri uri' : Uri} {steps steps' : List Step}
    (h : Uri.parse? (c.after steps).address = some uri)
    (h' : Uri.parse? (c.after steps').address = some uri')
    (htls : last? Step.tls? steps = none → c.address.toList.head? ≠ some '/')
    (htls' : last? Step.tls? steps' = none → c.address.toList.head? ≠ some '/') :
    uri'.withoutScheme = uri.withoutScheme := by
  by_cases hscheme : Uri.schemeEnd <:+: c.address.toList
  · obtain ⟨scheme, rest, hsplits⟩ := exists_splitsAt hscheme
    obtain ⟨_, hafter⟩ := exists_splitsAt_after hsplits steps
    obtain ⟨_, hafter'⟩ := exists_splitsAt_after hsplits steps'
    obtain ⟨_, authority, path, query, rfl, hbehind⟩ :=
      Uri.absolute_of_parse? hafter (head?_address_after hsplits htls) h
    obtain ⟨_, authority', path', query', rfl, hbehind'⟩ :=
      Uri.absolute_of_parse? hafter' (head?_address_after hsplits htls') h'
    obtain ⟨rfl, rfl, rfl⟩ : authority = authority' ∧ path = path' ∧ query = query' := by
      simpa using hbehind.symm.trans hbehind'
    rfl
  · rw [address_after_of_absent hscheme] at h h'
    rw [Option.some.inj (h.symm.trans h')]

/-- A run keeps what an address with an authority says apart from its scheme. -/
theorem withoutScheme_after {c : Config} {uri uri' : Uri} (steps : List Step)
    (h : Uri.parse? c.address = some uri) (h' : Uri.parse? (c.after steps).address = some uri')
    (hauthority : uri.authority? ≠ none) : uri'.withoutScheme = uri.withoutScheme := by
  have hslash : c.address.toList.head? ≠ some '/' := fun hslash =>
    hauthority (Uri.authority?_of_slash hslash h)
  have hnone : Uri.parse? (c.after []).address = some uri := h
  exact withoutScheme_after_after hnone h' (fun _ => hslash) fun _ => hslash

/-- What a run of steps makes of settings. -/
structure LastStepsWin (c : Config) (steps : List Step) : Prop where
  keepAlive : (c.after steps).keepAlive = (last? Step.keepAlive? steps).getD c.keepAlive
  connectTimeout :
    (c.after steps).connectTimeout = (last? Step.connectTimeout? steps).or c.connectTimeout
  requestTimeout :
    (c.after steps).requestTimeout = (last? Step.requestTimeout? steps).or c.requestTimeout
  userAgent : (c.after steps).userAgent = (last? Step.userAgent? steps).or c.userAgent
  useTls : (c.after steps).useTls = (last? Step.tls? steps).getD c.useTls
  /-- The last step for TLS puts its scheme in the place of all that stands before the first `://`. -/
  address_replaced : ∀ enabled scheme rest, last? Step.tls? steps = some enabled →
    SplitsAt Uri.schemeEnd c.address.toList scheme rest →
      (c.after steps).address.toList = schemeName enabled ++ (Uri.schemeEnd ++ rest)
  /-- The address stays if it has no `://` or no step is for TLS. -/
  address_kept : last? Step.tls? steps = none ∨ ¬ Uri.schemeEnd <:+: c.address.toList →
    (c.after steps).address = c.address
  /-- Nothing else of a run counts. -/
  order : ∀ steps', SameLast steps steps' → c.after steps' = c.after steps
  /-- Steps for TLS, however many, do not touch what stands behind the scheme. -/
  behind : ∀ scheme rest, SplitsAt Uri.schemeEnd c.address.toList scheme rest →
    ∃ scheme', SplitsAt Uri.schemeEnd (c.after steps).address.toList scheme' rest
  /-- So all runs with such steps leave one host, port, path and query. -/
  toggled : ∀ steps' uri uri', last? Step.tls? steps ≠ none → last? Step.tls? steps' ≠ none →
    Uri.parse? (c.after steps).address = some uri → Uri.parse? (c.after steps').address = some uri' →
      uri'.withoutScheme = uri.withoutScheme
  /-- An address with a host has the same before them. -/
  identified : ∀ uri uri', Uri.parse? c.address = some uri →
    Uri.parse? (c.after steps).address = some uri' → uri.authority? ≠ none →
      uri'.withoutScheme = uri.withoutScheme

/-- After every run of steps each setting is as the last step for it says. -/
theorem lastStepsWin (c : Config) (steps : List Step) : c.LastStepsWin steps := by
  have hsettled := c.after_eq_settled steps
  constructor
  case keepAlive | connectTimeout | requestTimeout | userAgent | useTls => rw [hsettled]; rfl
  case address_replaced =>
    intro enabled scheme rest hlast hsplits
    rw [hsettled, settled, hlast, Option.elim_some, String.toList_ofList,
      addressWithTls_of_splitsAt hsplits]
  case address_kept =>
    rintro (hlast | habsent)
    · rw [hsettled, settled, hlast, Option.elim_none]
    · exact address_after_of_absent habsent steps
  case order =>
    intro steps' hsame
    rw [hsettled, after_eq_settled, settled, settled, hsame.keepAlive, hsame.connectTimeout,
      hsame.requestTimeout, hsame.userAgent, hsame.tls]
  case behind => exact fun _ _ hsplits => exists_splitsAt_after hsplits steps
  case toggled =>
    intro steps' uri uri' htls htls' h h'
    exact withoutScheme_after_after h h' (fun hnone => absurd hnone htls) fun hnone => absurd hnone htls'
  case identified => exact fun _ _ h h' hauthority => withoutScheme_after steps h h' hauthority

example : ((new "https://a://b").after [.withoutTls, .withUserAgent "x", .withTls, .withoutTls]).address =
    "http://a://b" := by decide +kernel

end Channel.Config
end Telemetry
