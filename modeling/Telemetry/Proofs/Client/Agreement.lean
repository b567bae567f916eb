import Telemetry.Proofs.Client.Effect
import Telemetry.Proofs.Client.Trace
import Mathlib.Data.Set.Card

/-!
# The store agrees with the trace

What the store holds is what the trace says: a channel is closed if it was shut down, the progress of a
call is its fate, and the counter of a family counts the calls that were issued. Each effect keeps the
agreement, so it holds after every run, and every occurrence of a run is the effect of a step in a store
that agrees with what had happened before.
-/
namespace Telemetry

open Trace

/-- The fate that a progress stands for. -/
def Call.Progress.fate : Call.Progress → Call.Fate
  | created => .unpolled
  | waiting _ => .pending
  | answered reply => .answered reply
  | finished => .ended

namespace Store

/-- The fate of a call; that of a call to come is open. -/
def fate (s : Store) (call : Nat) : Call.Fate := (s.calls[call]?).elim .unpolled (·.progress.fate)

def isClosed (s : Store) (link : Nat) : Prop := ∃ l, s.links[link]? = some l ∧ l.closed = true

structure Agrees (s : Store) (t : List Occurrence) : Prop where
  shutDown : ∀ link, ShutDown link t ↔ s.isClosed link
  made : ∀ family serviceToken, .made family serviceToken ∈ t → ∃ f,
    s.families[family]? = some f ∧ ServiceToken.decodeIfGiven serviceToken = .ok f.token
  family : ∀ family f, s.families[family]? = some f → ∃ serviceToken,
    .made family serviceToken ∈ t ∧ ServiceToken.decodeIfGiven serviceToken = .ok f.token
  polled : ∀ call family link reply, .polled call family link reply ∈ t → ∃ c f,
    s.calls[call]? = some c ∧ c.family = family ∧ s.families[family]? = some f ∧ f.link = link
  fate : ∀ call, Trace.fate call t = s.fate call
  issued : ∀ call c, s.calls[call]? = some c → (s.fate call).isUnderWay → Issued c.family call t
  waiting : ∀ call c request, s.calls[call]? = some c → c.progress = .waiting request →
    ¬ Received call t ∧ ∃ f, s.families[c.family]? = some f ∧
      Authorization.apply (f.token.map (·.token)) [] = .ok request.authorization
  counted : ∀ family f, s.families[family]? = some f →
    f.calls = UInt64.ofNat {call | Issued family call t}.ncard
  requests : s.requests = Trace.requests t

variable {s s' : Store} {o : Occurrence} {t : List Occurrence}

theorem isClosed_append {links : List Link} (hopen : ∀ l ∈ links, l.closed = false) (link : Nat) :
    (∃ l, (s.links ++ links)[link]? = some l ∧ l.closed = true) ↔ s.isClosed link := by
  constructor
  · rintro ⟨l, hl, hclosed⟩
    rw [List.getElem?_append] at hl
    split at hl
    · exact ⟨l, hl, hclosed⟩
    · simp [hopen l (List.mem_of_getElem? hl)] at hclosed
  · rintro ⟨l, hl, hclosed⟩
    exact ⟨l, by rw [List.getElem?_append_left (List.getElem?_eq_some_iff.mp hl).1, hl], hclosed⟩

theorem Effect.isClosed_iff (h : s.Effect o s') (link : Nat) :
    s'.isClosed link ↔ o.isShutdown link ∨ s.isClosed link := by
  cases h with
  | quiet links log hopen | made links log hopen =>
    exact (isClosed_append hopen link).trans (by simp [Occurrence.isShutdown])
  | @shutdown log k l hl =>
    have hlt := (List.getElem?_eq_some_iff.mp hl).1
    by_cases hk : k = link
    · subst hk
      simp [isClosed, Occurrence.isShutdown, List.getElem?_set_self hlt]
    · simp [isClosed, Occurrence.isShutdown, hk, List.getElem?_set_ne hk]
  | _ => simp [isClosed, Occurrence.isShutdown, setProgress, count]

theorem Agrees.shutDown_effect (h : s.Agrees t) (heffect : s.Effect o s') (link : Nat) :
    ShutDown link (o :: t) ↔ s'.isClosed link := by
  rw [shutDown_cons, heffect.isClosed_iff, h.shutDown]

theorem Agrees.made_effect (h : s.Agrees t) (heffect : s.Effect o s') {family : Nat}
    {serviceToken : Option String} (hmade : .made family serviceToken ∈ o :: t) : ∃ f,
    s'.families[family]? = some f ∧ ServiceToken.decodeIfGiven serviceToken = .ok f.token := by
  obtain rfl | hmade := List.mem_cons.mp hmade
  · cases heffect with
    | @made links log hopen link hlink _ token htoken =>
      exact ⟨⟨link, token, 0⟩, by simp, htoken⟩
  · obtain ⟨f, hf, htoken⟩ := h.made family serviceToken hmade
    obtain ⟨calls, hf'⟩ := heffect.family hf
    exact ⟨_, hf', htoken⟩

theorem Agrees.family_effect (h : s.Agrees t) (heffect : s.Effect o s') {family : Nat} {f : Family}
    (hf : s'.families[family]? = some f) : ∃ serviceToken,
    .made family serviceToken ∈ o :: t ∧ ServiceToken.decodeIfGiven serviceToken = .ok f.token := by
  obtain ⟨g, hg, htoken⟩ | ⟨serviceToken, rfl, htoken⟩ := heffect.family_before hf
  · obtain ⟨serviceToken, hmade, hdecoded⟩ := h.family family g hg
    exact ⟨serviceToken, List.mem_cons_of_mem o hmade, htoken ▸ hdecoded⟩
  · exact ⟨serviceToken, List.mem_cons_self, htoken⟩

theorem Agrees.polled_effect (h : s.Agrees t) (heffect : s.Effect o s') {call family link : Nat}
    {reply : Option (Reply Message)} (hpolled : .polled call family link reply ∈ o :: t) : ∃ c f,
    s'.calls[call]? = some c ∧ c.family = family ∧ s'.families[family]? = some f ∧ f.link = link := by
  have hbefore : ∃ c f, s.calls[call]? = some c ∧ c.family = family ∧
      s.families[family]? = some f ∧ f.link = link := by
    obtain rfl | hpolled := List.mem_cons.mp hpolled
    · cases heffect <;> exact ⟨_, _, ‹s.IsCall _ _ _ _›.call, rfl, ‹s.IsCall _ _ _ _›.family, rfl⟩
    · exact h.polled call family link reply hpolled
  obtain ⟨c, f, hc, rfl, hf, rfl⟩ := hbefore
  obtain ⟨progress, hc'⟩ := heffect.call hc
  obtain ⟨calls, hf'⟩ := heffect.family hf
  exact ⟨_, _, hc', rfl, hf', rfl⟩

theorem fate_eq {call : Nat} {c : Call} (hc : s.calls[call]? = some c) :
    s.fate call = c.progress.fate := by
  rw [fate, hc, Option.elim_some]

theorem fate_setProgress {call : Nat} {c : Call} (hc : s.calls[call]? = some c) (p : Call.Progress)
    (hs' : s'.calls = (s.setProgress call p).calls) (k : Nat) :
    s'.fate k = if call = k then p.fate else s.fate k := by
  by_cases hk : call = k
  · subst hk
    rw [if_pos rfl, fate, hs', getElem?_setProgress_iff.mpr ⟨c, hc, if_pos rfl⟩, Option.elim_some]
  · rw [if_neg hk, fate, fate, hs', setProgress, List.getElem?_modify]
    simp [hk]

theorem fate_started (call : Call) (hcreated : call.progress = .created) (k : Nat) :
    ({ s with calls := s.calls ++ [call] } : Store).fate k = s.fate k := by
  rw [fate, fate, List.getElem?_append]
  split
  · rfl
  · next hk =>
    rw [List.getElem?_eq_none (by omega : s.calls.length ≤ k)]
    cases hn : [call][k - s.calls.length]? with
    | none => rfl
    | some c =>
      obtain rfl : c = call := by simpa using List.mem_of_getElem? hn
      simp [hcreated, Call.Progress.fate]

theorem Agrees.fate_effect (h : s.Agrees t) (heffect : s.Effect o s') (k : Nat) :
    Trace.fate k (o :: t) = s'.fate k := by
  have hk := h.fate k
  have hset {call : Nat} {c : Call} (hc : s.calls[call]? = some c) (p : Call.Progress)
      (hs' : s'.calls = (s.setProgress call p).calls)
      (ho : o.fate? k = if call = k then some p.fate else none) :
      Trace.fate k (o :: t) = s'.fate k := by
    rw [Trace.fate, ho, hk, fate_setProgress hc p hs']
    split <;> rfl
  cases heffect with
  | quiet | made | shutdown => exact hk
  | started => exact hk.trans (fate_started _ rfl k).symm
  | refused log hcall | unsendable log hcall | answered log hcall =>
    exact hset hcall.call .finished rfl rfl
  | sent log hcall => exact hset hcall.call (.waiting _) rfl rfl
  | pending hcall hwaiting =>
    rw [Trace.fate, Occurrence.fate?]
    split
    · next hkeq => subst hkeq; rw [fate_eq hcall.call, hwaiting]; rfl
    · exact hk
  | dropped hcall => exact hset hcall .finished rfl rfl
  | received hcall hwaiting reply => exact hset hcall (.answered reply) rfl rfl
  | failed hcall hwaiting status => exact hset hcall (.answered (.failure status)) rfl rfl

theorem call_of_isUnderWay {call : Nat} (h : (s.fate call).isUnderWay) :
    ∃ c, s.calls[call]? = some c := by
  cases hc : s.calls[call]? with
  | none => simp [fate, hc, Call.Fate.isUnderWay] at h
  | some c => exact ⟨c, rfl⟩

/-- Only a first poll on an open channel gets a call under way. -/
theorem Effect.sent_of_isUnderWay (heffect : s.Effect o s') {k : Nat}
    (hafter : (s'.fate k).isUnderWay) (hbefore : ¬ (s.fate k).isUnderWay) : ∃ c f l,
    s.IsCall k c f l ∧ c.progress = .created ∧ l.closed = false ∧
      o = .polled k c.family f.link none := by
  have hchanged {call : Nat} {c : Call} (hc : s.calls[call]? = some c) (p : Call.Progress)
      (hs' : s'.calls = (s.setProgress call p).calls) : call = k ∧ p.fate.isUnderWay := by
    rw [fate_setProgress hc p hs'] at hafter
    split at hafter
    · next hk => exact ⟨hk, hafter⟩
    · exact absurd hafter hbefore
  cases heffect with
  | quiet | made | shutdown | pending => exact absurd hafter hbefore
  | started =>
    rw [fate_started _ rfl k] at hafter
    exact absurd hafter hbefore
  | refused log hcall | unsendable log hcall | answered log hcall =>
    exact absurd (hchanged hcall.call .finished rfl).2 Bool.false_ne_true
  | @sent log call c f l hcall hcreated hopen =>
    obtain ⟨rfl, -⟩ := hchanged hcall.call (.waiting _) rfl
    exact ⟨c, f, l, hcall, hcreated, hopen, rfl⟩
  | dropped hc => exact absurd (hchanged hc .finished rfl).2 Bool.false_ne_true
  | received hc hwaiting reply =>
    obtain ⟨rfl, -⟩ := hchanged hc (.answered reply) rfl
    exact absurd (by rw [fate_eq hc, hwaiting]; rfl) hbefore
  | failed hc hwaiting status =>
    obtain ⟨rfl, -⟩ := hchanged hc (.answered (.failure status)) rfl
    exact absurd (by rw [fate_eq hc, hwaiting]; rfl) hbefore

theorem Agrees.untouched (h : s.Agrees t) {call : Nat} {c : Call} (hc : s.calls[call]? = some c)
    (hcreated : c.progress = .created) : ¬ Polled call t ∧ ¬ Received call t := by
  refine untouched_of_fate ?_
  rw [h.fate, fate_eq hc, hcreated, Call.Progress.fate]

theorem Agrees.shutDown_iff (h : s.Agrees t) {link : Nat} {l : Link} (hl : s.links[link]? = some l) :
    ShutDown link t ↔ l.closed = true := by
  rw [h.shutDown]
  constructor
  · rintro ⟨l', hl', hclosed⟩
    obtain rfl : l = l' := Option.some.inj (hl.symm.trans hl')
    exact hclosed
  · exact fun hclosed => ⟨l, hl, hclosed⟩

theorem Agrees.not_shutDown (h : s.Agrees t) {link : Nat} {l : Link} (hl : s.links[link]? = some l)
    (hopen : l.closed = false) : ¬ ShutDown link t := by
  simp [h.shutDown_iff hl, hopen]

theorem Agrees.issued_effect (h : s.Agrees t) (heffect : s.Effect o s') {call : Nat} {c : Call}
    (hc : s'.calls[call]? = some c) (hafter : (s'.fate call).isUnderWay) :
    Issued c.family call (o :: t) := by
  by_cases hbefore : (s.fate call).isUnderWay
  · obtain ⟨d, hd⟩ := call_of_isUnderWay hbefore
    obtain ⟨progress, hc'⟩ := heffect.call hd
    obtain rfl : c = { d with progress } := Option.some.inj (hc.symm.trans hc')
    exact (h.issued call d hd hbefore).mono (List.suffix_cons o t)
  · obtain ⟨d, f, l, hcall, hcreated, hopen, rfl⟩ := heffect.sent_of_isUnderWay hafter hbefore
    obtain ⟨progress, hc'⟩ := heffect.call hcall.call
    obtain rfl : c = { d with progress } := Option.some.inj (hc.symm.trans hc')
    exact issued_cons.mpr (.inl ⟨f.link, none, rfl, (h.untouched hcall.call hcreated).1,
      h.not_shutDown hcall.link hopen⟩)

/-- A request on its way was on its way before, or it goes out now. -/
theorem Effect.waiting (heffect : s.Effect o s') {k : Nat} {c : Call} {request : Request}
    (hc : s'.calls[k]? = some c) (hwaiting : c.progress = .waiting request) :
    (s.calls[k]? = some c ∧ o.isReceipt k = false) ∨
      ∃ d f l, s.IsCall k d f l ∧ d.progress = .created ∧ d.family = c.family ∧
        o = .polled k d.family f.link none ∧
        Authorization.apply (f.token.map (·.token)) [] = .ok request.authorization := by
  have hset {call : Nat} (p : Call.Progress) (hp : ∀ r, p ≠ .waiting r)
      (hs' : s'.calls = (s.setProgress call p).calls) : call ≠ k ∧ s.calls[k]? = some c := by
    rw [hs'] at hc
    obtain ⟨d, hd, rfl⟩ := getElem?_setProgress_iff.mp hc
    by_cases hk : call = k
    · rw [if_pos hk] at hwaiting
      exact absurd hwaiting (hp request)
    · rw [if_neg hk]
      exact ⟨hk, hd⟩
  cases heffect with
  | quiet | made | shutdown | pending => exact .inl ⟨hc, rfl⟩
  | started =>
    rw [List.getElem?_append] at hc
    split at hc
    · exact .inl ⟨hc, rfl⟩
    · obtain rfl : c = _ := by simpa using List.mem_of_getElem? hc
      cases hwaiting
  | refused | unsendable | answered | dropped => exact .inl ⟨(hset .finished (by simp) rfl).2, rfl⟩
  | @sent log call d f l hcall hcreated hopen values hvalues =>
    obtain ⟨d', hd, rfl⟩ := getElem?_setProgress_iff.mp hc
    by_cases hk : call = k
    · subst hk
      obtain rfl : d' = d := Option.some.inj (hd.symm.trans hcall.call)
      rw [if_pos rfl] at hwaiting ⊢
      obtain rfl := Call.Progress.waiting.inj hwaiting
      exact .inr ⟨d', f, l, hcall, hcreated, rfl, rfl, hvalues⟩
    · rw [if_neg hk]
      exact .inl ⟨hd, rfl⟩
  | received hcall _ reply =>
    obtain ⟨hk, hc⟩ := hset (.answered reply) (by simp) rfl
    exact .inl ⟨hc, by simp [Occurrence.isReceipt, hk]⟩
  | failed hcall _ status => exact .inl ⟨(hset (.answered (.failure status)) (by simp) rfl).2, rfl⟩

theorem Agrees.waiting_effect (h : s.Agrees t) (heffect : s.Effect o s') {call : Nat} {c : Call}
    {request : Request} (hc : s'.calls[call]? = some c) (hwaiting : c.progress = .waiting request) :
    ¬ Received call (o :: t) ∧ ∃ f, s'.families[c.family]? = some f ∧
      Authorization.apply (f.token.map (·.token)) [] = .ok request.authorization := by
  obtain ⟨hc, ho⟩ | ⟨d, f, l, hcall, hcreated, hfamily, rfl, hvalues⟩ := heffect.waiting hc hwaiting
  · obtain ⟨hreceived, f, hf, hvalues⟩ := h.waiting call c request hc hwaiting
    obtain ⟨calls, hf'⟩ := heffect.family hf
    exact ⟨by simp [ho, hreceived], _, hf', hvalues⟩
  · obtain ⟨calls, hf'⟩ := heffect.family hcall.family
    refine ⟨?_, { f with calls }, hfamily ▸ hf', hvalues⟩
    simp [Occurrence.isReceipt, (h.untouched hcall.call hcreated).2]

/-- A server receives the request of a call that was issued, and receives it once. -/
theorem Agrees.received (h : s.Agrees t) {call family : Nat} {request : Request} {reply : Reply Message}
    (heffect : s.Effect (.received call family request reply) s') :
    Issued family call t ∧ ¬ Received call t ∧ ∃ f, s.families[family]? = some f ∧
      Authorization.apply (f.token.map (·.token)) [] = .ok request.authorization := by
  cases heffect with
  | received hcall hwaiting =>
    exact ⟨h.issued _ _ hcall (by rw [fate_eq hcall, hwaiting]; rfl),
      h.waiting _ _ _ hcall hwaiting⟩

theorem Agrees.requests_effect (h : s.Agrees t) (heffect : s.Effect o s') :
    s'.requests = Trace.requests (o :: t) := by
  rw [requests_cons, ← h.requests]
  cases heffect <;> simp [Occurrence.request?, setProgress, count]

theorem Agrees.call_lt (h : s.Agrees t) {family call : Nat} (hissued : Issued family call t) :
    call < s.calls.length ∧ family < s.families.length := by
  obtain ⟨link, reply, earlier, hsuffix, -⟩ := hissued
  obtain ⟨c, f, hc, -, hf, -⟩ := h.polled call family link reply (hsuffix.subset List.mem_cons_self)
  exact ⟨(List.getElem?_eq_some_iff.mp hc).1, (List.getElem?_eq_some_iff.mp hf).1⟩

theorem Agrees.finite_issued (h : s.Agrees t) (family : Nat) :
    {call | Issued family call t}.Finite :=
  (Set.finite_lt_nat s.calls.length).subset fun _ hissued => (h.call_lt hissued).1

theorem ofNat_ncard_insert {calls : Set Nat} (hfinite : calls.Finite) {call : Nat}
    (hcall : call ∉ calls) :
    UInt64.ofNat (insert call calls).ncard = UInt64.ofNat calls.ncard + 1 := by
  rw [Set.ncard_insert_of_notMem hcall hfinite, UInt64.ofNat_add]
  rfl

/-- A first poll on an open channel is counted for its family, and for no other. -/
theorem Agrees.counted_count (h : s.Agrees t) {call : Nat} {c : Call} {f : Family} {l : Link}
    (hcall : s.IsCall call c f l) (hcreated : c.progress = .created) (hopen : l.closed = false)
    (reply : Option (Reply Message)) {family : Nat} {g : Family}
    (hg : (s.count c.family).families[family]? = some g) : g.calls =
      UInt64.ofNat {k | Issued family k (.polled call c.family f.link reply :: t)}.ncard := by
  have hpolled := (h.untouched hcall.call hcreated).1
  have hshut := h.not_shutDown hcall.link hopen
  obtain ⟨g, hbefore, rfl⟩ := getElem?_count_iff.mp hg
  by_cases hfamily : c.family = family
  · subst hfamily
    have hnew : {k | Issued c.family k (.polled call c.family f.link reply :: t)} =
        insert call {k | Issued c.family k t} := by
      ext k
      simp only [issued_cons, Set.mem_ofPred_eq, Set.mem_insert_iff]
      refine or_congr ⟨?_, ?_⟩ Iff.rfl
      · rintro ⟨link, reply, heq, -⟩
        exact (Occurrence.polled.inj heq).1.symm
      · rintro rfl
        exact ⟨f.link, reply, rfl, hpolled, hshut⟩
    rw [if_pos rfl, hnew, ofNat_ncard_insert (h.finite_issued _) fun hissued => hpolled hissued.polled,
      h.counted _ g hbefore]
  · have hsame : {k | Issued family k (.polled call c.family f.link reply :: t)} =
        {k | Issued family k t} := by
      ext k
      simp [hfamily]
    rw [if_neg hfamily, hsame]
    exact h.counted family g hbefore

theorem Agrees.polled_of_isUnderWay (h : s.Agrees t) {call : Nat} {c : Call}
    (hc : s.calls[call]? = some c) (hfate : c.progress.fate.isUnderWay) : Polled call t :=
  (h.issued call c hc (by rwa [fate_eq hc])).polled

theorem Agrees.counted_effect (h : s.Agrees t) (heffect : s.Effect o s') {family : Nat} {g : Family}
    (hg : s'.families[family]? = some g) :
    g.calls = UInt64.ofNat {call | Issued family call (o :: t)}.ncard := by
  have hsame (ho : ∀ k link reply, o = .polled k family link reply → Polled k t ∨ ShutDown link t) :
      {call | Issued family call (o :: t)} = {call | Issued family call t} := by
    ext k
    simp only [issued_cons, Set.mem_ofPred_eq, or_iff_right_iff_imp]
    rintro ⟨link, reply, heq, hpolled, hopen⟩
    exact absurd (ho k link reply heq) (not_or.mpr ⟨hpolled, hopen⟩)
  cases heffect with
  | quiet | shutdown | started | dropped | received | failed =>
    rw [hsame (by simp)]
    exact h.counted family g hg
  | made links log hopen hlink htoken =>
    rw [hsame (by simp)]
    rw [List.getElem?_append] at hg
    split at hg
    · exact h.counted family g hg
    · next hfamily =>
      have hnone : {call | Issued family call t} = ∅ :=
        Set.eq_empty_of_forall_notMem fun k hissued => hfamily (h.call_lt hissued).2
      obtain rfl : g = _ := by simpa using List.mem_of_getElem? hg
      rw [hnone, Set.ncard_empty]
      rfl
  | refused log hcall hcreated hclosed =>
    rw [hsame fun k link reply heq => .inr ?_]
    · exact h.counted family g hg
    · obtain ⟨-, -, rfl, -⟩ := Occurrence.polled.inj heq
      exact (h.shutDown_iff hcall.link).mpr hclosed
  | unsendable log hcall hcreated hopen => exact h.counted_count hcall hcreated hopen _ hg
  | sent log hcall hcreated hopen => exact h.counted_count hcall hcreated hopen _ hg
  | pending hcall hwaiting =>
    rw [hsame fun k link reply heq => .inl ?_]
    · exact h.counted family g hg
    · obtain ⟨rfl, -⟩ := Occurrence.polled.inj heq
      exact h.polled_of_isUnderWay hcall.call (by rw [hwaiting]; rfl)
  | answered log hcall hanswered =>
    rw [hsame fun k link reply heq => .inl ?_]
    · exact h.counted family g hg
    · obtain ⟨rfl, -⟩ := Occurrence.polled.inj heq
      exact h.polled_of_isUnderWay hcall.call (by rw [hanswered]; rfl)

theorem agrees_empty : empty.Agrees [] where
  shutDown link := by simp [isClosed, empty]
  made family serviceToken h := absurd h List.not_mem_nil
  family family f h := absurd h (by simp [empty])
  polled call family link reply h := absurd h List.not_mem_nil
  fate call := rfl
  issued call c h := absurd h (by simp [empty])
  waiting call c request h := absurd h (by simp [empty])
  counted family f h := absurd h (by simp [empty])
  requests := rfl

theorem Agrees.effect (h : s.Agrees t) (heffect : s.Effect o s') : s'.Agrees (o :: t) where
  shutDown := h.shutDown_effect heffect
  made _ _ := h.made_effect heffect
  family _ _ := h.family_effect heffect
  polled _ _ _ _ := h.polled_effect heffect
  fate := h.fate_effect heffect
  issued _ _ := h.issued_effect heffect
  waiting _ _ _ := h.waiting_effect heffect
  counted _ _ := h.counted_effect heffect
  requests := h.requests_effect heffect

end Store

end Telemetry
