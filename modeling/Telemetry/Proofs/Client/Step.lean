import Telemetry.Proofs.Client.Effect

/-!
# What an action does

Each action adds one occurrence to the trace, which says what the action did to the store. Invariants of
runs follow from the effects and need not take actions apart.
-/
namespace Telemetry

variable {s s' : Store} {o : Occurrence}

/-- What a handle stands for is there. -/
def Handle.Valid (s : Store) : Handle → Prop
  | channel link => link < s.links.length
  | client c => c.family < s.families.length

theorem Handle.Valid.mono {h : Handle} (hh : h.Valid s) (heffect : s.Effect o s') : h.Valid s' := by
  cases h with
  | channel link => exact hh.trans_le heffect.links_le
  | client c => exact hh.trans_le heffect.families_le

namespace World

/-- Whatever is referred to is there. -/
structure Sound (w : World) : Prop where
  handle : ∀ h, some h ∈ w.handles → h.Valid w.store
  link_lt : ∀ f ∈ w.store.families, f.link < w.store.links.length
  family_lt : ∀ c ∈ w.store.calls, c.family < w.store.families.length

/-- The action behind an occurrence that concerns a channel or a call. -/
def Caused (w : World) (a : Action) : Occurrence → Prop
  | .quiet | .made _ _ | .started _ _ _ => True
  | .shutdown link _ => ∃ n, a = .shutdown n ∧ w.linkAt? n = some link
  | .polled call _ _ _ => a = .poll call
  | .dropped call => a = .drop call
  | .received call _ _ reply => a = .serve call reply
  | .failed call status => a = .fail call status

/-- An action adds one occurrence to the trace, and the store changes as that says. What a handle stands
for is there when the program gets hold of it. -/
structure Steps (w : World) (a : Action) (w' : World) : Prop where
  occurrence : ∃ o, w'.trace = o :: w.trace ∧ w.Caused a o ∧ w.store.Effect o w'.store
  handle : ∀ h, some h ∈ w'.handles → some h ∈ w.handles ∨ h.Valid w'.store

variable {w w' : World} {a : Action}

theorem steps_record (heffect : w.store.Effect o s) (hcaused : w.Caused a o) :
    w.Steps a (w.record o s) :=
  ⟨⟨o, rfl, hcaused, heffect⟩, fun _ => .inl⟩

theorem Steps.hold {h : Handle} (hsteps : w.Steps a w') (hvalid : h.Valid w'.store) :
    w.Steps a (w'.hold h) := by
  refine ⟨hsteps.occurrence, fun h' hh' => ?_⟩
  obtain hold | rfl : some h' ∈ w'.handles ∨ h' = h := by simpa [World.hold] using hh'
  · exact hsteps.handle h' hold
  · exact .inr hvalid

theorem valid_of_handle? (hw : w.Sound) {n : Nat} {h : Handle} (hn : w.handle? n = some h) :
    h.Valid w.store := by
  refine hw.handle h (List.mem_of_getElem? (i := n) ?_)
  rwa [handle?, Option.join_eq_some_iff] at hn

theorem Sound.isCall (hw : w.Sound) {call : Nat} {c : Call} (hc : w.store.calls[call]? = some c) :
    ∃ f l, w.store.IsCall call c f l := by
  have hfamily := hw.family_lt c (List.mem_of_getElem? hc)
  have hlink := hw.link_lt _ (List.getElem_mem hfamily)
  exact ⟨_, _, hc, List.getElem?_eq_getElem hfamily, List.getElem?_eq_getElem hlink⟩

theorem lt_of_linkAt? (hw : w.Sound) {n link : Nat} (hn : w.linkAt? n = some link) :
    link < w.store.links.length := by
  obtain ⟨h, hh, hlink⟩ := Option.bind_eq_some_iff.mp hn
  have hvalid := valid_of_handle? hw hh
  cases h with
  | channel l =>
    obtain rfl : l = link := by simpa [Handle.link?] using hlink
    exact hvalid
  | client c =>
    obtain ⟨f, hf, rfl⟩ := Option.map_eq_some_iff.mp hlink
    exact hw.link_lt f (List.mem_of_getElem? hf)

theorem steps_idle (w : World) (a : Action) : w.Steps a w.idle := by
  have heffect := Store.Effect.quiet (s := w.store) [] w.store.log (by simp)
  rw [List.append_nil] at heffect
  exact steps_record heffect trivial

theorem steps_opened {r : Except ClientError (Nat × Store)}
    (hr : ∀ link s', r = .ok (link, s') → w.store.Opens link s') : w.Steps a (w.opened r) := by
  cases r with
  | error e => exact steps_idle w a
  | ok opening =>
    obtain ⟨link, s'⟩ := opening
    obtain ⟨l, log, hopen, rfl, rfl⟩ := hr _ _ rfl
    have heffect := Store.Effect.quiet (s := w.store) [l] log (by simpa using hopen)
    exact (steps_record heffect trivial).hold (by simp [Handle.Valid, record])

theorem steps_made {serviceToken : Option String} {r : Except ClientError (Client × Store)}
    (hr : ∀ c s', r = .ok (c, s') → w.store.Makes serviceToken c.family s') :
    w.Steps a (w.made serviceToken r) := by
  cases r with
  | error e => exact steps_idle w a
  | ok making =>
    obtain ⟨c, s'⟩ := making
    obtain ⟨links, link, token, log, hopen, hlink, htoken, hfamily, rfl⟩ := hr _ _ rfl
    have heffect := Store.Effect.made links log hopen hlink htoken
    rw [made, hfamily]
    exact (steps_record heffect trivial).hold (by simp [Handle.Valid, record, hfamily])

theorem steps_shutdown (hw : w.Sound) {n link : Nat} {h : Handle} (hh : w.handle? n = some h)
    (hn : w.linkAt? n = some link) :
    w.Steps (.shutdown n)
      (w.record (.shutdown link (h.shutdown w.store).1) (h.shutdown w.store).2) := by
  refine steps_record ?_ ⟨n, rfl, hn⟩
  have hl := List.getElem?_eq_getElem (lt_of_linkAt? hw hn)
  rw [linkAt?, hh, Option.bind_some] at hn
  cases h with
  | channel l =>
    obtain rfl : l = link := by simpa [Handle.link?] using hn
    exact Store.effect_shutdown hl
  | client c =>
    obtain ⟨f, hf, rfl⟩ := Option.map_eq_some_iff.mp hn
    have hclose : (Handle.client c).shutdown w.store = w.store.shutdown f.link := by
      rw [Handle.shutdown, Client.close_eq_inner, Client.Asynchronous.close_eq hf]
    rw [hclose]
    exact Store.effect_shutdown hl

theorem steps_perform (hw : w.Sound) (a : Action) : w.Steps a (w.perform a) := by
  cases a with
  | openChannel config => exact steps_opened fun _ _ => Store.opens_of_openLazily
  | connectChannel reaches config target => exact steps_opened fun _ _ => Store.opens_of_connect
  | rewrapChannel handle target =>
    simp only [perform]
    split
    · exact steps_idle w _
    · exact steps_opened fun _ _ h => by cases h; exact ⟨_, w.store.log, rfl, rfl, rfl⟩
  | makeClient form handle serviceToken =>
    simp only [perform]
    split
    · next token link htoken hlink =>
      refine steps_made fun c s' h => ?_
      rw [form.make_eq] at h
      cases h
      rw [Client.family_wrap]
      exact Store.makes_withAuth htoken (lt_of_linkAt? hw hlink)
    · exact steps_idle w _
  | buildClient form b =>
    refine steps_made fun c s' h => ?_
    rw [form.build_eq] at h
    cases hbuild : b.buildAsync w.store with
    | error e =>
      rw [hbuild] at h
      cases h
    | ok making =>
      rw [hbuild] at h
      cases h
      rw [Client.family_wrap]
      exact Store.makes_of_buildAsync hbuild
  | connectClient reaches b =>
    refine steps_made fun c s' h => ?_
    cases hconnect : (b.connect reaches w.store).result with
    | error e =>
      rw [hconnect] at h
      cases h
    | ok making =>
      rw [hconnect] at h
      cases h
      exact Store.makes_of_connect hconnect
  | wrapClient form handle =>
    simp only [perform]
    split
    · next c hh =>
      have hvalid : (Handle.client c).Valid w.store := valid_of_handle? hw hh
      refine (steps_idle w _).hold ?_
      rwa [Handle.Valid, Client.family_wrap]
    · exact steps_idle w _
  | clone handle =>
    simp only [perform]
    split
    · exact steps_idle w _
    · next h hh => exact (steps_idle w _).hold (valid_of_handle? hw hh)
  | discard handle =>
    refine ⟨(steps_idle w _).occurrence, fun h hh => .inl ?_⟩
    exact (List.mem_or_eq_of_mem_set hh).resolve_right (by simp)
  | shutdown handle =>
    simp only [perform]
    split
    · next h link hh hlink => exact steps_shutdown hw hh hlink
    · exact steps_idle w _
  | start handle method =>
    simp only [perform]
    split
    · next c hh => exact steps_record (.started method (valid_of_handle? hw hh)) trivial
    · exact steps_idle w _
  | poll call =>
    simp only [perform]
    cases hc : w.store.call? call with
    | none => exact steps_idle w _
    | some c =>
      obtain ⟨f, l, hcall⟩ := hw.isCall hc
      simp only [Store.family?, hcall.family]
      split
      · exact steps_idle w _
      · next hlive => exact steps_record (Store.effect_poll hcall (mt Call.isOver_iff.mpr hlive)) rfl
  | drop call =>
    simp only [perform]
    cases hc : w.store.call? call with
    | none => exact steps_idle w _
    | some c =>
      simp only
      split
      · exact steps_idle w _
      · next hlive => exact steps_record (.dropped hc (mt Call.isOver_iff.mpr hlive)) rfl
  | serve call reply =>
    simp only [perform]
    split
    · next c request hc hrequest =>
      obtain ⟨c', hc', hwaiting⟩ := Store.waiting?_eq_some_iff.mp hrequest
      obtain rfl : c' = c := Option.some.inj (hc'.symm.trans hc)
      refine steps_record ?_ rfl
      rw [Store.serve, hrequest]
      exact .received hc hwaiting reply
    · exact steps_idle w _
  | fail call status =>
    simp only [perform]
    split
    · exact steps_idle w _
    · next request hrequest =>
      obtain ⟨c, hc, hwaiting⟩ := Store.waiting?_eq_some_iff.mp hrequest
      refine steps_record ?_ rfl
      rw [Store.fail, hrequest]
      exact .failed hc hwaiting status

/-- The occurrence that an action adds tells what it did to the store. -/
theorem Sound.effect_perform (hw : w.Sound) (h : (w.perform a).trace = o :: w.trace) :
    w.store.Effect o (w.perform a).store := by
  obtain ⟨o', h', -, heffect⟩ := (steps_perform hw a).occurrence
  obtain rfl : o = o' := List.head_eq_of_cons_eq (h.symm.trans h')
  exact heffect

theorem Sound.of_steps (hw : w.Sound) (h : w.Steps a w') : w'.Sound := by
  obtain ⟨⟨o, -, -, heffect⟩, hhandle⟩ := h
  refine ⟨fun h hh => ?_, heffect.link_lt hw.link_lt, heffect.family_lt hw.family_lt⟩
  obtain hh | hvalid := hhandle h hh
  · exact (hw.handle h hh).mono heffect
  · exact hvalid

end World
end Telemetry
