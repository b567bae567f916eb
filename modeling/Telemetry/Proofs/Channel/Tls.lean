import Telemetry.Proofs.Channel.Steps
import Telemetry.Proofs.Uri

/-!
# TLS and the scheme

The scheme of the address and the use of TLS are in step from the start, and every step keeps them so. The
identifier that an endpoint is made for has the scheme of the address, so it is secure exactly under TLS.
-/
namespace Telemetry.Channel.Config

open Text

/-- An address that is not empty has a scheme, and TLS is used exactly if that is the secure one. -/
def InStep (c : Config) : Prop :=
  c.address = "" ∨ ∃ scheme rest, SplitsAt Uri.schemeEnd c.address.toList scheme rest ∧
    (c.useTls = true ↔ sameLetters scheme "https".toList = true)

theorem splitScheme_of_splitsAt {address scheme rest : List Char}
    (h : SplitsAt Uri.schemeEnd address scheme rest) : splitScheme address = (some scheme, rest) := by
  rw [splitScheme, (splitOnce?_eq_some_iff Uri.schemeEnd_ne_nil).mpr h]

theorem splitsAt_of_splitScheme {address scheme rest : List Char}
    (h : splitScheme address = (some scheme, rest)) :
    SplitsAt Uri.schemeEnd address scheme rest := by
  refine splitsAt_of_splitOnce? Uri.schemeEnd_ne_nil ?_
  unfold splitScheme at h
  split at h
  case h_1 hsplit => cases h; exact hsplit
  case h_2 => cases h

/-- The address of a target has a scheme, unless it is empty. -/
theorem exists_splitsAt_addressOf (target : List Char) : addressOf target = [] ∨
    ∃ scheme rest, SplitsAt Uri.schemeEnd (addressOf target) scheme rest := by
  simp only [addressOf]
  split_ifs with h
  · obtain hempty | hscheme := Bool.or_eq_true_iff.mp h
    · exact .inl (List.isEmpty_iff.mp hempty)
    · obtain ⟨scheme, hscheme⟩ := Option.isSome_iff_exists.mp hscheme
      exact .inr ⟨scheme, _, splitsAt_of_splitScheme (Prod.ext hscheme rfl)⟩
  · exact .inr ⟨_, _, Uri.splitsAt_schemeEnd (show ':' ∉ "http".toList by decide) _⟩

theorem inStep_new (target : String) : (new target).InStep := by
  obtain hempty | ⟨scheme, rest, hsplits⟩ := exists_splitsAt_addressOf target.toList
  · left
    rw [new, hempty]
  · right
    refine ⟨scheme, rest, by simpa [new] using hsplits, ?_⟩
    rw [new, isHttps, splitScheme_of_splitsAt hsplits]

theorem InStep.setTls {c : Config} (h : c.InStep) (enabled : Bool) : (c.setTls enabled).InStep := by
  obtain hempty | ⟨scheme, rest, hsplits, -⟩ := h
  · left
    rw [Config.setTls, hempty]
    rfl
  · right
    refine ⟨if enabled then "https".toList else "http".toList, rest, ?_, ?_⟩
    · rw [Config.setTls, String.toList_ofList, addressWithTls, splitScheme_of_splitsAt hsplits]
      exact Uri.splitsAt_schemeEnd (by cases enabled <;> decide) rest
    · change enabled = true ↔ _
      cases enabled <;> decide

/-- Steps of the other settings touch neither the address nor the use of TLS. -/
theorem InStep.advance {c : Config} (h : c.InStep) (s : Step) : (c.advance s).InStep := by
  cases s with
  | withTls => exact h.setTls true
  | withoutTls => exact h.setTls false
  | _ => exact h

theorem inStep_built (o : Origin) (steps : List Step) : (built o steps).InStep :=
  built_induction inStep_new (fun _ s h => h.advance s) o steps

theorem parse?_of_endpoint {c : Config} {uri : Uri} (h : c.endpoint = .ok uri) :
    Uri.parse? c.address = some uri := by
  unfold endpoint check at h
  split at h
  case h_1 => cases h
  case h_2 hparse =>
    split_ifs at h <;> cases h
    exact hparse

/-- The identifier of an endpoint is secure exactly under TLS. -/
theorem InStep.prefix_iff {c : Config} (h : c.InStep) {uri : Uri} (hendpoint : c.endpoint = .ok uri) :
    "https://".toList <+: uri.text.toList ↔ c.useTls = true := by
  have hparse := parse?_of_endpoint hendpoint
  obtain hempty | ⟨scheme, rest, hsplits, htls⟩ := h
  · rw [hempty] at hparse
    cases hparse
  · rw [htls, Uri.toList_text]
    exact (Uri.prefix_toList_iff hparse).trans (Uri.startsHttps_iff hsplits)

/-- However settings were built, TLS, the address and the endpoint agree. -/
theorem tls_agrees (o : Origin) (steps : List Step) : (built o steps).InStep ∧
    ∀ uri, (built o steps).endpoint = .ok uri →
      ("https://".toList <+: uri.text.toList ↔ (built o steps).useTls = true) :=
  ⟨inStep_built o steps, fun _ => (inStep_built o steps).prefix_iff⟩

example : (built (.hostAndPort "HTTPS://host:1/" 2) [.withoutTls, .withTls]).endpoint.map Uri.toList =
    .ok "https://host:2/".toList := by decide +kernel

end Telemetry.Channel.Config
