import Telemetry.Proofs.Client.Agreement
import Telemetry.Proofs.Client.Step

/-!
# Runs keep the agreement

Whatever a program and the network do, and in whatever order, the store agrees with the trace. So an
occurrence anywhere in the trace of a run is the effect of a step in a store that agreed with what had
happened before it.
-/
namespace Telemetry

open Trace

namespace World

/-- The world of a run: what is referred to is there, and the store agrees with the trace. -/
structure Reached (w : World) : Prop where
  sound : w.Sound
  agrees : w.store.Agrees w.trace

theorem reached_empty : empty.Reached where
  sound := ⟨by simp [empty], by simp [empty, Store.empty], by simp [empty, Store.empty]⟩
  agrees := Store.agrees_empty

theorem Reached.perform {w : World} (hw : w.Reached) (a : Action) : (w.perform a).Reached := by
  have hsteps := steps_perform hw.sound a
  obtain ⟨o, htrace, -, heffect⟩ := hsteps.occurrence
  exact ⟨hw.sound.of_steps hsteps, htrace ▸ hw.agrees.effect heffect⟩

theorem Reached.run {w : World} (hw : w.Reached) (actions : List Action) : (w.run actions).Reached := by
  induction actions generalizing w with
  | nil => exact hw
  | cons a actions ih => exact ih (hw.perform a)

theorem reached_after (actions : List Action) : (after actions).Reached := reached_empty.run actions

/-- What a client of a family shows. -/
theorem Sound.state? {w : World} (hw : w.Sound) {c : Client} {f : Family}
    (hf : w.store.families[c.family]? = some f) : ∃ l, w.store.links[f.link]? = some l ∧
      c.state? w.store = some ⟨l.target, l.closed, f.calls, f.token.map (·.instanceUuid)⟩ := by
  have hl := List.getElem?_eq_getElem (hw.link_lt f (List.mem_of_getElem? hf))
  exact ⟨_, hl, Client.Asynchronous.state?_eq hf hl⟩

/-- An occurrence anywhere in a trace is the effect of a step in a store that agrees with what had
happened before. -/
theorem Reached.occurrence {w : World} (hw : w.Reached)
    (hbefore : ∀ o earlier, o :: earlier <:+ w.trace →
      ∃ s s' : Store, s.Agrees earlier ∧ s.Effect o s') (actions : List Action) :
    ∀ o earlier, o :: earlier <:+ (w.run actions).trace →
      ∃ s s' : Store, s.Agrees earlier ∧ s.Effect o s' := by
  induction actions generalizing w with
  | nil => exact hbefore
  | cons a actions ih =>
    refine ih (hw.perform a) fun o earlier hsuffix => ?_
    obtain ⟨o', htrace, -, heffect⟩ := (steps_perform hw.sound a).occurrence
    rw [htrace] at hsuffix
    obtain heq | hsuffix := List.suffix_cons_iff.mp hsuffix
    · obtain ⟨rfl, rfl⟩ := List.cons.inj heq
      exact ⟨_, _, hw.agrees, heffect⟩
    · exact hbefore o earlier hsuffix

theorem occurrence_after (actions : List Action) {o : Occurrence} {earlier : List Occurrence}
    (h : o :: earlier <:+ (after actions).trace) :
    ∃ s s' : Store, s.Agrees earlier ∧ s.Effect o s' :=
  reached_empty.occurrence (by simp [empty]) actions o earlier h

theorem occurrence_of_mem (actions : List Action) {o : Occurrence} (h : o ∈ (after actions).trace) :
    ∃ earlier, o :: earlier <:+ (after actions).trace ∧
      ∃ s s' : Store, s.Agrees earlier ∧ s.Effect o s' := by
  obtain ⟨later, earlier, htrace⟩ := List.append_of_mem h
  have hsuffix : o :: earlier <:+ (after actions).trace := ⟨later, htrace.symm⟩
  exact ⟨earlier, hsuffix, occurrence_after actions hsuffix⟩

end World
end Telemetry
