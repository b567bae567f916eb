import Telemetry.Proofs.Client.Fate
import Telemetry.Proofs.HeaderText

/-!
# Credentials of requests

A client sends its credential with every request, or sends no request at all. A token that cannot stand
in a header is only noticed when a call is polled: the call is counted and fails, and nothing is sent.
-/
namespace Telemetry

open Trace

namespace Authorization

/-- The bytes of the credential that goes with a raw token. -/
def bytes (t : ServiceToken) : List UInt8 := Text.utf8 "Bearer " ++ Text.utf8 t.token

theorem utf8_bearer (t : ServiceToken) : Text.utf8 (bearer t.token) = bytes t := utf8_append _ _

theorem values_of_apply {token : Option ServiceToken} {values : List String}
    (h : apply (token.map (·.token)) [] = .ok values) :
    values.map Text.utf8 = (token.map bytes).toList := by
  cases token with
  | none =>
    obtain rfl : [] = values := Except.ok.inj h
    rfl
  | some t =>
    simp only [Option.map_some, apply] at h
    split at h
    · obtain rfl : [bearer t.token] = values := Except.ok.inj h
      simp [utf8_bearer]
    · cases h

theorem apply_of_forbidden {t : ServiceToken} (h : ∃ b ∈ bytes t, IsForbidden b) :
    apply (some t.token) [] = .error invalidToken := by
  rw [← utf8_bearer, ← isHeaderText_eq_false_iff] at h
  simp [apply, h]

end Authorization

/-- What holds of the requests and calls of a family, at any point of a run. -/
structure SendsCredential (w : World) (family : Nat) (token : Option ServiceToken) : Prop where
  /-- Each request that reaches a server carries the credential if there is one, and nothing else. -/
  authorization : ∀ call request reply, .received call family request reply ∈ w.trace →
    request.authorization.map Text.utf8 = (token.map Authorization.bytes).toList
  /-- With a credential that may not be sent, no request reaches a server. -/
  silent : ∀ t, token = some t → (∃ b ∈ Authorization.bytes t, IsForbidden b) →
    ∀ call request reply, .received call family request reply ∉ w.trace
  /-- Then every call that is first polled on an open channel is counted and fails. -/
  fails : ∀ t, token = some t → (∃ b ∈ Authorization.bytes t, IsForbidden b) →
    ∀ a call link reply, (w.perform a).trace = .polled call family link reply :: w.trace →
      ¬ Polled call w.trace → ¬ ShutDown link w.trace →
      (∃ status, reply = some (.failure status) ∧ status.code = .internal) ∧
      ∃ f, w.store.families[family]? = some f ∧
        (w.perform a).store.families[family]? = some { f with calls := f.calls + 1 }

namespace World

/-- A family has one credential for good. -/
theorem token_unique (actions : List Action) {family : Nat} {f : Family} {s : Store}
    {earlier : List Occurrence} (hs : s.Agrees earlier) (hsuffix : earlier <:+ (after actions).trace)
    (hf : s.families[family]? = some f) {serviceToken : Option String} {token : Option ServiceToken}
    (hmade : .made family serviceToken ∈ (after actions).trace)
    (htoken : ServiceToken.decodeIfGiven serviceToken = .ok token) : f.token = token := by
  have hw := (reached_after actions).agrees
  obtain ⟨serviceToken', hmade', htoken'⟩ := hs.family family f hf
  obtain ⟨g, hg, hdecoded⟩ := hw.made _ _ hmade
  obtain ⟨g', hg', hdecoded'⟩ := hw.made _ _ (hsuffix.subset hmade')
  obtain rfl : g = g' := Option.some.inj (hg.symm.trans hg')
  rw [Except.ok.inj (htoken'.symm.trans hdecoded'), Except.ok.inj (htoken.symm.trans hdecoded)]

/-- In every run, whatever servers do: the requests of a client carry its credential, a credential that
may not be sent is never left out, no call leads to two requests, and servers receive no others. -/
theorem sendsCredential_after (actions : List Action) {family : Nat} {serviceToken : Option String}
    (hmade : .made family serviceToken ∈ (after actions).trace) :
    ∃ token, ServiceToken.decodeIfGiven serviceToken = .ok token ∧
      SendsCredential (after actions) family token ∧
      (after actions).store.requests = requests (after actions).trace ∧
      ∀ call, (after actions).trace.countP (·.isReceipt call) ≤ 1 := by
  have hw := reached_after actions
  obtain ⟨f, hf, htoken⟩ := hw.agrees.made _ _ hmade
  -- what goes out is what the credential of the family makes of an empty header
  have hreceived {call : Nat} {request : Request} {reply : Reply Message}
      (h : .received call family request reply ∈ (after actions).trace) :
      Authorization.apply (f.token.map (·.token)) [] = .ok request.authorization := by
    obtain ⟨earlier, hsuffix, s, s', hs, heffect⟩ := occurrence_of_mem actions h
    obtain ⟨-, -, g, hg, happly⟩ := hs.received heffect
    rwa [token_unique actions hs ((List.suffix_cons _ _).trans hsuffix) hg hmade htoken] at happly
  have hforbidden {t : ServiceToken} (ht : f.token = some t)
      (hb : ∃ b ∈ Authorization.bytes t, IsForbidden b) :
      Authorization.apply (f.token.map (·.token)) [] = .error Authorization.invalidToken := by
    rw [ht]
    exact Authorization.apply_of_forbidden hb
  refine ⟨f.token, htoken, ?_, hw.agrees.requests, fun call => countP_isReceipt_le ?_⟩
  · constructor
    case authorization =>
      exact fun call request reply h => Authorization.values_of_apply (hreceived h)
    case silent =>
      intro t ht hb call request reply h
      cases (hforbidden ht hb).symm.trans (hreceived h)
    case fails =>
      intro t ht hb a call link reply htrace hfirst hopen
      have heffect := hw.sound.effect_perform htrace
      obtain ⟨g, hg, hcounted, hreply⟩ := hw.agrees.reply_of_open heffect hfirst hopen
      obtain rfl : f = g := Option.some.inj (hf.symm.trans hg)
      rw [hforbidden ht hb] at hreply
      exact ⟨⟨_, hreply, rfl⟩, f, hf, hcounted⟩
  · intro o earlier hsuffix hreceipt
    obtain ⟨family, request, reply, rfl⟩ := Occurrence.isReceipt_iff.mp hreceipt
    obtain ⟨s, s', hs, heffect⟩ := occurrence_after actions hsuffix
    exact (hs.received heffect).2.1

def sampleToken : String := "MGUyYTc0NTEtMmI1MC00NmMzLTg0ODEtOGM3YmQyNmRlN2NjOmJsYWhibGFoYmxhaA=="

def signedRun : List Action :=
  [.openChannel (.new "http://a:1"), .makeClient .blocking 0 (some sampleToken), .start 1 .stats,
    .poll 0, .serve 0 (.failure .timedOut), .poll 0]

theorem signedRun_sends_token : .made 0 (some sampleToken) ∈ (after signedRun).trace ∧
    (after signedRun).store.requests.map (·.authorization) = [["Bearer blahblahblah"]] ∧
    ∃ token, ServiceToken.decodeIfGiven (some sampleToken) = .ok token ∧
      SendsCredential (after signedRun) 0 token := by
  have hmade : .made 0 (some sampleToken) ∈ (after signedRun).trace :=
    List.mem_of_getElem? (i := 4) rfl
  obtain ⟨token, htoken, hsends, -⟩ := sendsCredential_after signedRun hmade
  exact ⟨hmade, by decide +kernel, token, htoken, hsends⟩

end World
end Telemetry
