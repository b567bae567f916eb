import Telemetry.Client.World
import Telemetry.Proofs.Client.Builder

/-!
# What can happen to a store

Each action of a run has one of a few effects on the store, whatever it was and however it found the
store. What holds of all effects holds of all actions, so invariants of runs are shown effect by effect.
-/
namespace Telemetry

theorem Call.isOver_iff {c : Call} : c.isOver ↔ c.progress = .finished := by
  rw [isOver]
  cases c.progress <;> simp

namespace Store

/-- A call with its family and its channel. -/
structure IsCall (s : Store) (call : Nat) (c : Call) (f : Family) (l : Link) : Prop where
  call : s.calls[call]? = some c
  family : s.families[c.family]? = some f
  link : s.links[f.link]? = some l

/-- The store after an occurrence. New channels are open, and new families have made no calls. -/
inductive Effect (s : Store) : Occurrence → Store → Prop
  | quiet (links : List Link) (log : List Event) (hopen : ∀ l ∈ links, l.closed = false) :
      Effect s .quiet { s with links := s.links ++ links, log }
  | made (links : List Link) (log : List Event) (hopen : ∀ l ∈ links, l.closed = false) {link : Nat}
      (hlink : link < (s.links ++ links).length) {serviceToken : Option String}
      {token : Option ServiceToken} (htoken : ServiceToken.decodeIfGiven serviceToken = .ok token) :
      Effect s (.made s.families.length serviceToken)
        { s with links := s.links ++ links, families := s.families ++ [⟨link, token, 0⟩], log }
  | shutdown (log : List Event) {link : Nat} {l : Link} (hl : s.links[link]? = some l) :
      Effect s (.shutdown link !l.closed)
        { s with links := s.links.set link { l with closed := true }, log }
  | started {family : Nat} (method : Method) (hfamily : family < s.families.length) :
      Effect s (.started s.calls.length family method)
        { s with calls := s.calls ++ [⟨family, method, .created⟩] }
  | refused (log : List Event) {call : Nat} {c : Call} {f : Family} {l : Link}
      (hcall : s.IsCall call c f l) (hcreated : c.progress = .created) (hclosed : l.closed = true) :
      Effect s (.polled call c.family f.link (some (.failure .channelClosed)))
        { s.setProgress call .finished with log }
  | unsendable (log : List Event) {call : Nat} {c : Call} {f : Family} {l : Link}
      (hcall : s.IsCall call c f l) (hcreated : c.progress = .created) (hopen : l.closed = false)
      {status : Status} (hstatus : Authorization.apply (f.token.map (·.token)) [] = .error status) :
      Effect s (.polled call c.family f.link (some (.failure status)))
        { (s.count c.family).setProgress call .finished with log }
  | sent (log : List Event) {call : Nat} {c : Call} {f : Family} {l : Link}
      (hcall : s.IsCall call c f l) (hcreated : c.progress = .created) (hopen : l.closed = false)
      {values : List String} (hvalues : Authorization.apply (f.token.map (·.token)) [] = .ok values) :
      Effect s (.polled call c.family f.link none)
        { (s.count c.family).setProgress call (.waiting ⟨c.method, values, l.userAgent⟩) with log }
  | pending {call : Nat} {c : Call} {f : Family} {l : Link} (hcall : s.IsCall call c f l)
      {request : Request} (hwaiting : c.progress = .waiting request) :
      Effect s (.polled call c.family f.link none) s
  | answered (log : List Event) {call : Nat} {c : Call} {f : Family} {l : Link}
      (hcall : s.IsCall call c f l) {reply : Reply Message} (hanswered : c.progress = .answered reply) :
      Effect s (.polled call c.family f.link (some reply)) { s.setProgress call .finished with log }
  | dropped {call : Nat} {c : Call} (hcall : s.calls[call]? = some c) (hlive : c.progress ≠ .finished) :
      Effect s (.dropped call) (s.setProgress call .finished)
  | received {call : Nat} {c : Call} (hcall : s.calls[call]? = some c) {request : Request}
      (hwaiting : c.progress = .waiting request) (reply : Reply Message) :
      Effect s (.received call c.family request reply)
        { s.setProgress call (.answered reply) with requests := s.requests ++ [request] }
  | failed {call : Nat} {c : Call} (hcall : s.calls[call]? = some c) {request : Request}
      (hwaiting : c.progress = .waiting request) (status : Status) :
      Effect s (.failed call status) (s.setProgress call (.answered (.failure status)))

variable {s s' : Store} {o : Occurrence}

theorem Effect.links_le (h : s.Effect o s') : s.links.length ≤ s'.links.length := by
  cases h <;> simp [setProgress, count]

theorem Effect.families_le (h : s.Effect o s') : s.families.length ≤ s'.families.length := by
  cases h <;> simp [setProgress, count]

theorem getElem?_count_iff {counted family : Nat} {f' : Family} :
    (s.count counted).families[family]? = some f' ↔ ∃ f, s.families[family]? = some f ∧
      (if counted = family then { f with calls := f.calls + 1 } else f) = f' := by
  rw [count, List.getElem?_modify, Option.map_eq_map, Option.map_eq_some_iff]

theorem getElem?_setProgress_iff {changed call : Nat} {p : Call.Progress} {c' : Call} :
    (s.setProgress changed p).calls[call]? = some c' ↔ ∃ c, s.calls[call]? = some c ∧
      (if changed = call then { c with progress := p } else c) = c' := by
  rw [setProgress, List.getElem?_modify, Option.map_eq_map, Option.map_eq_some_iff]

theorem mem_families_count {counted : Nat} {f : Family} (hf : f ∈ (s.count counted).families) :
    ∃ g ∈ s.families, g.link = f.link := by
  obtain ⟨n, hn⟩ := List.mem_iff_getElem?.mp hf
  obtain ⟨g, hg, rfl⟩ := getElem?_count_iff.mp hn
  exact ⟨g, List.mem_of_getElem? hg, by split <;> rfl⟩

theorem mem_calls_setProgress {changed : Nat} {p : Call.Progress} {c : Call}
    (hc : c ∈ (s.setProgress changed p).calls) : ∃ d ∈ s.calls, d.family = c.family := by
  obtain ⟨n, hn⟩ := List.mem_iff_getElem?.mp hc
  obtain ⟨d, hd, rfl⟩ := getElem?_setProgress_iff.mp hn
  exact ⟨d, List.mem_of_getElem? hd, by split <;> rfl⟩

/-- The channels of families stay there. -/
theorem Effect.link_lt (h : s.Effect o s') (hs : ∀ f ∈ s.families, f.link < s.links.length) :
    ∀ f ∈ s'.families, f.link < s'.links.length := by
  have hcounted (family : Nat) : ∀ f ∈ (s.count family).families, f.link < s.links.length := by
    intro f hf
    obtain ⟨g, hg, hlink⟩ := mem_families_count hf
    exact hlink ▸ hs g hg
  cases h with
  | quiet => exact fun f hf => (hs f hf).trans_le (by simp)
  | made links log hopen hlink htoken =>
    intro f hf
    obtain hf | rfl : f ∈ s.families ∨ f = _ := by simpa using hf
    · exact (hs f hf).trans_le (by simp)
    · exact hlink
  | shutdown => simpa using hs
  | unsendable | sent => exact hcounted _
  | _ => exact hs

/-- The families of calls stay there. -/
theorem Effect.family_lt (h : s.Effect o s') (hs : ∀ c ∈ s.calls, c.family < s.families.length) :
    ∀ c ∈ s'.calls, c.family < s'.families.length := by
  have hset (call : Nat) (p : Call.Progress) :
      ∀ c ∈ (s.setProgress call p).calls, c.family < s.families.length := by
    intro c hc
    obtain ⟨d, hd, hfamily⟩ := mem_calls_setProgress hc
    exact hfamily ▸ hs d hd
  cases h with
  | quiet | shutdown | pending => exact hs
  | made => exact fun c hc => (hs c hc).trans_le (by simp)
  | started method hfamily =>
    intro c hc
    obtain hc | rfl : c ∈ s.calls ∨ c = _ := by simpa using hc
    · exact hs c hc
    · exact hfamily
  | unsendable | sent =>
    exact fun c hc => (hset _ _ c hc).trans_eq (by simp [setProgress, count])
  | _ => exact hset _ _

/-- A family keeps its channel and its credential. -/
theorem Effect.family (h : s.Effect o s') {family : Nat} {f : Family}
    (hf : s.families[family]? = some f) :
    ∃ calls, s'.families[family]? = some { f with calls } := by
  have hlt := (List.getElem?_eq_some_iff.mp hf).1
  have hkept : ∃ calls, s.families[family]? = some { f with calls } := ⟨f.calls, hf⟩
  have hcounted (counted : Nat) :
      ∃ calls, (s.count counted).families[family]? = some { f with calls } := by
    by_cases hfamily : counted = family
    · exact ⟨f.calls + 1, getElem?_count_iff.mpr ⟨f, hf, if_pos hfamily⟩⟩
    · exact ⟨f.calls, getElem?_count_iff.mpr ⟨f, hf, if_neg hfamily⟩⟩
  cases h with
  | made => exact ⟨f.calls, by simpa [List.getElem?_append_left hlt] using hf⟩
  | unsendable => exact hcounted _
  | sent => exact hcounted _
  | _ => exact hkept

/-- A family was there with its credential, or it is made now. -/
theorem Effect.family_before (h : s.Effect o s') {family : Nat} {f' : Family}
    (hf' : s'.families[family]? = some f') :
    (∃ f, s.families[family]? = some f ∧ f.token = f'.token) ∨
      ∃ serviceToken, o = .made family serviceToken ∧
        ServiceToken.decodeIfGiven serviceToken = .ok f'.token := by
  have hcounted (counted : Nat) (hf' : (s.count counted).families[family]? = some f') :
      ∃ f, s.families[family]? = some f ∧ f.token = f'.token := by
    obtain ⟨f, hf, rfl⟩ := getElem?_count_iff.mp hf'
    exact ⟨f, hf, by split <;> rfl⟩
  cases h with
  | @made links log hopen link hlink serviceToken token htoken =>
    rw [List.getElem?_append] at hf'
    split at hf'
    · exact .inl ⟨f', hf', rfl⟩
    · next hlt =>
      obtain ⟨hlt', heq⟩ := List.getElem?_eq_some_iff.mp hf'
      obtain rfl : family = s.families.length := by
        simp only [List.length_singleton] at hlt'
        omega
      obtain rfl : f' = ⟨link, token, 0⟩ := by simpa using heq.symm
      exact .inr ⟨serviceToken, rfl, htoken⟩
  | unsendable => exact .inl (hcounted _ hf')
  | sent => exact .inl (hcounted _ hf')
  | _ => exact .inl ⟨f', hf', rfl⟩

/-- A call keeps its family and its method. -/
theorem Effect.call (h : s.Effect o s') {call : Nat} {c : Call} (hc : s.calls[call]? = some c) :
    ∃ progress, s'.calls[call]? = some { c with progress } := by
  have hlt := (List.getElem?_eq_some_iff.mp hc).1
  have hkept : ∃ progress, s.calls[call]? = some { c with progress } := ⟨c.progress, hc⟩
  have hset (changed : Nat) (p : Call.Progress) :
      ∃ progress, (s.setProgress changed p).calls[call]? = some { c with progress } := by
    by_cases hcall : changed = call
    · exact ⟨p, getElem?_setProgress_iff.mpr ⟨c, hc, if_pos hcall⟩⟩
    · exact ⟨c.progress, getElem?_setProgress_iff.mpr ⟨c, hc, if_neg hcall⟩⟩
  cases h with
  | started => exact ⟨c.progress, by simpa [List.getElem?_append_left hlt] using hc⟩
  | quiet | made | shutdown | pending => exact hkept
  | _ => exact hset _ _

variable {link : Nat}

theorem waiting?_eq_some_iff {call : Nat} {request : Request} : s.waiting? call = some request ↔
    ∃ c, s.calls[call]? = some c ∧ c.progress = .waiting request := by
  rw [waiting?, Option.bind_eq_some_iff]
  refine exists_congr fun c => and_congr_right fun _ => ?_
  cases c.progress <;> simp

/-- A channel is new and open. -/
def Opens (s : Store) (link : Nat) (s' : Store) : Prop :=
  ∃ l log, l.closed = false ∧ link = s.links.length ∧ s' = { s with links := s.links ++ [l], log }

theorem opens_of_openLazily {c : Channel.Config} (h : s.openLazily c = .ok (link, s')) :
    s.Opens link s' := by
  unfold openLazily at h
  split at h
  · cases h
  · cases h
    exact ⟨_, _, rfl, rfl, rfl⟩

theorem opens_of_connect {reaches : Uri → Bool} {c : Channel.Config} {target : String}
    (h : (s.connect reaches c target).result = .ok (link, s')) : s.Opens link s' := by
  unfold connect at h
  split at h
  · cases h
  · split at h
    · cases h
      exact ⟨_, _, rfl, rfl, rfl⟩
    · cases h

/-- A client is new, over a channel that is there or new and open. -/
def Makes (s : Store) (serviceToken : Option String) (family : Nat) (s' : Store) : Prop :=
  ∃ links link token log, (∀ l ∈ links, l.closed = false) ∧ link < (s.links ++ links).length ∧
    ServiceToken.decodeIfGiven serviceToken = .ok token ∧ family = s.families.length ∧
    s' = { s with links := s.links ++ links, families := s.families ++ [⟨link, token, 0⟩], log }

theorem makes_withAuth {serviceToken : Option String} {token : Option ServiceToken}
    (htoken : ServiceToken.decodeIfGiven serviceToken = .ok token) (hlink : link < s.links.length) :
    s.Makes serviceToken (Client.Asynchronous.withAuth link token s).1.family
      (Client.Asynchronous.withAuth link token s).2 :=
  ⟨[], link, token, s.log, by simp, by simpa using hlink, htoken, rfl, by
    simp [Client.Asynchronous.withAuth, addFamily]⟩

theorem makes_added {b : Client.Builder} {token : Option ServiceToken} (htoken : b.token? = .ok token)
    (uri : Uri) (event : Event) :
    s.Makes b.serviceToken (b.added token uri event s).1.family (b.added token uri event s).2 :=
  ⟨[linkFor b.config uri b.config.address], _, token, s.log ++ [event], by simp [linkFor], by simp,
    htoken, rfl, rfl⟩

theorem makes_of_buildAsync {b : Client.Builder} {c : Client.Asynchronous}
    (h : b.buildAsync s = .ok (c, s')) : s.Makes b.serviceToken c.family s' := by
  cases hcheck : b.check with
  | error e => cases (b.buildAsync_of_check_error hcheck s).symm.trans h
  | ok checked =>
    cases (b.buildAsync_of_check hcheck s).symm.trans h
    exact makes_added (Client.Builder.check_eq_ok_iff.mp hcheck).1 _ _

theorem makes_of_connect {reaches : Uri → Bool} {b : Client.Builder} {c : Client.Adapter}
    (h : (b.connect reaches s).result = .ok (c, s')) : s.Makes b.serviceToken c.inner.family s' := by
  cases hcheck : b.check with
  | error e =>
    rw [b.connect_of_check_error hcheck] at h
    cases h
  | ok checked =>
    cases hreaches : reaches checked.2 with
    | false =>
      rw [b.connect_of_unreachable hcheck hreaches] at h
      cases h
    | true =>
      rw [b.connect_of_check hcheck hreaches] at h
      cases h
      exact makes_added (Client.Builder.check_eq_ok_iff.mp hcheck).1 _ _

/-- The second shutdown leaves the channel as it is. -/
theorem effect_shutdown {l : Link} (hl : s.links[link]? = some l) :
    Effect s (.shutdown link (s.shutdown link).1) (s.shutdown link).2 := by
  unfold shutdown link?
  simp only [hl]
  cases hclosed : l.closed with
  | true =>
    have hsame : s.links.set link { l with closed := true } = s.links := by
      obtain ⟨hlt, rfl⟩ := List.getElem?_eq_some_iff.mp hl
      rw [← hclosed, List.set_getElem_self hlt]
    have heffect := Effect.shutdown (s.log ++ [.alreadyShutDown l.target]) hl
    rw [hsame, hclosed] at heffect
    exact heffect
  | false =>
    have heffect := Effect.shutdown (s.log ++ [.shuttingDown l.target]) hl
    rw [hclosed] at heffect
    exact heffect

theorem effect_poll {call : Nat} {c : Call} {f : Family} {l : Link} (hcall : s.IsCall call c f l)
    (hlive : c.progress ≠ .finished) :
    Effect s (.polled call c.family f.link (s.poll call).1) (s.poll call).2 := by
  have hpoll := hcall
  obtain ⟨hc, hf, hl⟩ := hpoll
  simp only [poll, call?, linkOf?, family?, link?, hc, hf, hl, Option.bind_some]
  cases hprogress : c.progress with
  | created =>
    simp only [firstPoll]
    cases hclosed : l.closed with
    | true => exact .refused _ hcall hprogress hclosed
    | false =>
      simp only [Bool.false_eq_true, if_false]
      cases happly : Authorization.apply (f.token.map (·.token)) [] with
      | error status => exact .unsendable _ hcall hprogress hclosed happly
      | ok values => exact .sent _ hcall hprogress hclosed happly
  | waiting request => exact .pending hcall hprogress
  | answered reply =>
    cases reply with
    | success m => exact .answered s.log hcall hprogress
    | failure status => exact .answered _ hcall hprogress
  | finished => exact absurd hprogress hlive

end Store

end Telemetry
