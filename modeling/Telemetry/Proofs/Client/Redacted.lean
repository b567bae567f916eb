import Mathlib.Tactic.SplitIfs
import Telemetry.Client.Store

/-!
# Stores without raw tokens

A store is redacted by blanking the raw tokens in it, together with what may depend on them: how far a
call has come once it was polled, the requests that servers received, and the log. What happens to a store
happens to the redacted store too, and everything that clients show can be seen there.
-/
namespace Telemetry

def ServiceToken.redacted (t : ServiceToken) : ServiceToken := { t with token := "" }

def Family.redacted (f : Family) : Family := { f with token := f.token.map ServiceToken.redacted }

namespace Call

/-- Of the progress of a call remains whether it was polled. -/
def Progress.redacted : Progress → Progress
  | created => created
  | _ => finished

def redacted (c : Call) : Call := { c with progress := c.progress.redacted }

theorem Progress.redacted_eq_created_iff {p : Progress} : p.redacted = .created ↔ p = .created := by
  cases p <;> simp [redacted]

end Call

namespace Store

def redacted (s : Store) : Store where
  links := s.links
  families := s.families.map Family.redacted
  calls := s.calls.map Call.redacted
  requests := []
  log := []

variable {s s' : Store}

theorem redacted_eq_iff : s.redacted = s'.redacted ↔ s.links = s'.links ∧
    s.families.map Family.redacted = s'.families.map Family.redacted ∧
    s.calls.map Call.redacted = s'.calls.map Call.redacted := by
  simp [redacted]

@[simp] theorem link?_redacted (s : Store) (link : Nat) : s.redacted.link? link = s.link? link := rfl

@[simp] theorem family?_redacted (s : Store) (family : Nat) :
    s.redacted.family? family = (s.family? family).map Family.redacted := List.getElem?_map

@[simp] theorem call?_redacted (s : Store) (call : Nat) :
    s.redacted.call? call = (s.call? call).map Call.redacted := List.getElem?_map

@[simp] theorem linkOf?_redacted (s : Store) (family : Nat) :
    s.redacted.linkOf? family = s.linkOf? family := by
  rw [linkOf?, linkOf?, family?_redacted]
  cases s.family? family <;> rfl

@[simp] theorem redacted_report (s : Store) (e : Event) : (s.report e).redacted = s.redacted := rfl

@[simp] theorem redacted_addLink (s : Store) (l : Link) :
    (s.addLink l).2.redacted = (s.redacted.addLink l).2 := rfl

@[simp] theorem redacted_addFamily (s : Store) (link : Nat) (token : Option ServiceToken) :
    (s.addFamily link token).2.redacted =
      (s.redacted.addFamily link (token.map ServiceToken.redacted)).2 := by
  simp [addFamily, redacted, Family.redacted]

@[simp] theorem redacted_start (s : Store) (family : Nat) (method : Method) :
    (s.start family method).2.redacted = (s.redacted.start family method).2 := by
  simp [start, redacted, Call.redacted, Call.Progress.redacted]

theorem map_modify {α β : Type} {f : α → α} {f' : β → β} {g : α → β} (h : ∀ a, g (f a) = f' (g a))
    (as : List α) (i : Nat) : (as.modify i f).map g = (as.map g).modify i f' := by
  refine List.ext_getElem? fun j => ?_
  simp only [List.getElem?_map, List.getElem?_modify]
  cases as[j]? with
  | none => rfl
  | some a => by_cases hij : i = j <;> simp [hij, h]

@[simp] theorem redacted_count (s : Store) (family : Nat) :
    (s.count family).redacted = s.redacted.count family := by
  have hfamilies : (s.count family).families.map Family.redacted =
      (s.families.map Family.redacted).modify family fun f => { f with calls := f.calls + 1 } := by
    refine map_modify ?_ _ _
    exact fun _ => rfl
  rw [redacted, hfamilies]
  rfl

@[simp] theorem redacted_setProgress (s : Store) (call : Nat) (p : Call.Progress) :
    (s.setProgress call p).redacted = s.redacted.setProgress call p.redacted := by
  have hcalls : (s.setProgress call p).calls.map Call.redacted =
      (s.calls.map Call.redacted).modify call fun c => { c with progress := p.redacted } := by
    refine map_modify ?_ _ _
    exact fun _ => rfl
  rw [redacted, hcalls]
  rfl

/-- A call that was polled looks the same whatever happens to it. -/
theorem redacted_setProgress_of_polled {call : Nat} {c : Call} (hc : s.call? call = some c)
    (hpolled : c.progress ≠ .created) {p : Call.Progress} (hp : p ≠ .created) :
    (s.setProgress call p).redacted = s.redacted := by
  have hfinished {q : Call.Progress} (hq : q ≠ .created) : q.redacted = .finished := by
    cases q <;> first | rfl | exact absurd rfl hq
  refine redacted_eq_iff.mpr ⟨rfl, rfl, List.ext_getElem? fun n => ?_⟩
  rw [List.getElem?_map, List.getElem?_map, setProgress, List.getElem?_modify]
  by_cases hn : call = n
  · subst hn
    rw [call?] at hc
    simp [hc, Call.redacted, hfinished hpolled, hfinished hp]
  · simp [hn]

theorem redacted_shutdown (h : s.redacted = s'.redacted) (link : Nat) :
    (s.shutdown link).2.redacted = (s'.shutdown link).2.redacted := by
  have hlink : s.link? link = s'.link? link := by rw [← link?_redacted, h, link?_redacted]
  obtain ⟨hlinks, hfamilies, hcalls⟩ := redacted_eq_iff.mp h
  rw [shutdown, shutdown, hlink]
  cases s'.link? link with
  | none => exact h
  | some l =>
    cases hclosed : l.closed with
    | true => simpa [hclosed] using h
    | false =>
      simp only [hclosed, Bool.false_eq_true, if_false, redacted_report]
      exact redacted_eq_iff.mpr ⟨by rw [hlinks], hfamilies, hcalls⟩

theorem redacted_finish (s : Store) (call : Nat) (method : Method) (target : String)
    (reply : Reply Message) :
    (s.finish call method target reply).redacted = s.redacted.setProgress call .finished := by
  cases reply <;> simp [finish, Call.Progress.redacted]

/-- The first poll of a call looks the same whether its credential can be sent or not. -/
theorem redacted_firstPoll (s : Store) (call family : Nat) (f : Family) (l : Link) (method : Method) :
    (s.firstPoll call family f l method).2.redacted =
      if l.closed then s.redacted.setProgress call .finished
      else (s.redacted.count family).setProgress call .finished := by
  unfold firstPoll
  split_ifs
  · rw [redacted_report, redacted_setProgress]
    rfl
  · dsimp only
    split
    · rw [redacted_finish, redacted_report, redacted_count]
    · rw [redacted_setProgress, redacted_report, redacted_count]
      rfl

/-- What a poll does to a redacted store. Nothing happens unless the call is polled for the first time. -/
def issue (call : Nat) (s : Store) : Store :=
  match s.call? call with
  | none => s
  | some c =>
    match c.progress, s.family? c.family, s.linkOf? c.family with
    | .created, some _, some l =>
      if l.closed then s.setProgress call .finished
      else (s.count c.family).setProgress call .finished
    | _, _, _ => s

theorem redacted_poll_of_polled {call : Nat} {c : Call} (hc : s.call? call = some c)
    (hpolled : c.progress ≠ .created) : (s.poll call).2.redacted = s.redacted := by
  have hset := redacted_setProgress_of_polled hc hpolled (p := .finished) (by simp)
  simp only [poll, hc]
  split
  · split
    · next hcreated => exact absurd hcreated hpolled
    · rw [redacted_finish]
      exact (redacted_setProgress s call .finished).symm.trans hset
    · rfl
    · rfl
  · rfl

theorem issue_redacted_of_polled {call : Nat} {c : Call} (hc : s.call? call = some c)
    (hpolled : c.progress ≠ .created) : s.redacted.issue call = s.redacted := by
  have hredacted : c.redacted.progress ≠ .created :=
    fun h => hpolled (Call.Progress.redacted_eq_created_iff.mp h)
  simp only [issue, call?_redacted, hc, Option.map_some]
  split
  · next hcreated _ _ => exact absurd hcreated hredacted
  · rfl

theorem redacted_poll (s : Store) (call : Nat) :
    (s.poll call).2.redacted = s.redacted.issue call := by
  cases hc : s.call? call with
  | none => simp [poll, issue, hc]
  | some c =>
    by_cases hcreated : c.progress = .created
    · simp only [poll, issue, call?_redacted, hc, Option.map_some, hcreated, Call.redacted,
        family?_redacted, linkOf?_redacted]
      cases s.family? c.family with
      | none => rfl
      | some f =>
        cases s.linkOf? c.family with
        | none => rfl
        | some l => exact redacted_firstPoll s call c.family f l c.method
    · rw [redacted_poll_of_polled hc hcreated, issue_redacted_of_polled hc hcreated]

end Store

end Telemetry
