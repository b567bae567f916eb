import Telemetry.Proofs.Client.Run

/-!
# How calls get their replies

The first poll of a call decides whether its request goes out. From then on the call depends on nothing
but its own polls, its server and whether it is dropped: what any other action does, shutdowns included,
makes no difference to it.
-/
namespace Telemetry

open Trace

namespace Store

variable {s s' : Store} {t : List Occurrence} {call family link : Nat} {reply : Option (Reply Message)}

/-- A first poll on an open channel is counted. It fails at once if the credential cannot be sent, and
otherwise its request goes out. -/
theorem Agrees.reply_of_open (h : s.Agrees t) (heffect : s.Effect (.polled call family link reply) s')
    (hfirst : ¬ Polled call t) (hopen : ¬ ShutDown link t) : ∃ f, s.families[family]? = some f ∧
      s'.families[family]? = some { f with calls := f.calls + 1 } ∧
      match Authorization.apply (f.token.map (·.token)) [] with
      | .error status => reply = some (.failure status)
      | .ok _ => reply = none := by
  have hcounted {f : Family} (hf : s.families[family]? = some f) :
      (s.count family).families[family]? = some { f with calls := f.calls + 1 } := by
    simp [count, hf]
  cases heffect with
  | refused log hcall _ hclosed => exact absurd ((h.shutDown_iff hcall.link).mpr hclosed) hopen
  | unsendable log hcall _ _ hstatus =>
    exact ⟨_, hcall.family, hcounted hcall.family, by rw [hstatus]⟩
  | sent log hcall _ _ hvalues => exact ⟨_, hcall.family, hcounted hcall.family, by rw [hvalues]⟩
  | pending hcall hwaiting =>
    exact absurd (h.polled_of_isUnderWay hcall.call (by rw [hwaiting]; rfl)) hfirst
  | answered log hcall hanswered =>
    exact absurd (h.polled_of_isUnderWay hcall.call (by rw [hanswered]; rfl)) hfirst

end Store

/-- What an action makes of the fate of a call that was polled. -/
def Action.advance (call : Nat) : Action → Call.Fate → Call.Fate
  | serve c reply, .pending => if c = call then .answered reply else .pending
  | fail c status, .pending => if c = call then .answered (.failure status) else .pending
  | poll c, .answered reply => if c = call then .ended else .answered reply
  | drop c, fate => if c = call then .ended else fate
  | _, fate => fate

/-- The call that an action is about. -/
def Action.call? : Action → Option Nat
  | poll c | drop c | serve c _ | fail c _ => some c
  | _ => none

def Action.isShutdown : Action → Bool
  | shutdown _ => true
  | _ => false

namespace World

variable {w : World} {call : Nat}

theorem Reached.fate_eq (hw : w.Reached) {c : Call} (hc : w.store.calls[call]? = some c) :
    fate call w.trace = c.progress.fate := by
  rw [hw.agrees.fate, Store.fate_eq hc]

theorem Reached.isOver_iff (hw : w.Reached) {c : Call} (hc : w.store.calls[call]? = some c) :
    c.isOver ↔ fate call w.trace = .ended := by
  rw [hw.fate_eq hc, Call.isOver_iff]
  cases c.progress <;> simp [Call.Progress.fate]

end World
end Telemetry
