import Telemetry.Proofs.Client.Fate

/-!
# Shutting channels down

A channel is shared by all handles that reach it: channels and their clones, and clients in every form.
The first shutdown through any of them shuts it down for all of them and for good. Calls that are polled
for the first time after that are refused before anything is sent, and calls that were polled before go
on as if nothing had happened.
-/
namespace Telemetry

open Trace

namespace World

variable {w : World} {link : Nat}

theorem Reached.closed? (hw : w.Reached) {n : Nat} {h : Handle} (hn : w.handle? n = some h)
    (hlink : h.link? w.store = some link) :
    ∃ l, w.store.links[link]? = some l ∧ h.closed? w.store = some l.closed := by
  cases h with
  | channel k =>
    obtain rfl := Option.some.inj hlink
    have hl := List.getElem?_eq_getElem (valid_of_handle? hw.sound hn)
    exact ⟨_, hl, by simp [Handle.closed?, Store.link?, hl]⟩
  | client c =>
    obtain ⟨f, hf, rfl⟩ := Option.map_eq_some_iff.mp hlink
    obtain ⟨l, hl, hstate⟩ := hw.sound.state? hf
    exact ⟨l, hl, by simp [Handle.closed?, hstate]⟩

end World
end Telemetry
