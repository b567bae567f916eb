import Telemetry.Client.World
import Mathlib.Data.List.Infix
import Mathlib.Tactic

/-!
# What a trace says

A trace lists occurrences, the latest first, so the end of a trace from some occurrence on is what had
happened when it occurred. Whether a channel was shut down, whether a call was polled, how far a call has
come and which calls were issued is all said in terms of the trace, without the store.
-/
namespace Telemetry

/-- How far a call has come. -/
inductive Call.Fate where
  | unpolled
  | pending
  | answered (reply : Reply Message)
  | ended

namespace Call.Fate

/-- A request went out and the call still has to give its reply. -/
def isUnderWay : Fate → Bool
  | pending | answered _ => true
  | unpolled | ended => false

/-- The reply that a poll of a call gives. -/
def reply? : Fate → Option (Reply Message)
  | answered reply => some reply
  | _ => none

end Call.Fate

namespace Occurrence

def isPoll (call : Nat) : Occurrence → Bool
  | polled c _ _ _ => c = call
  | _ => false

def isShutdown (link : Nat) : Occurrence → Bool
  | shutdown l _ => l = link
  | _ => false

/-- Whether a server received the request of a call. -/
def isReceipt (call : Nat) : Occurrence → Bool
  | received c _ _ _ => c = call
  | _ => false

/-- The fate of a call after an occurrence that concerns it. -/
def fate? (call : Nat) : Occurrence → Option Call.Fate
  | polled c _ _ none => if c = call then some .pending else none
  | polled c _ _ (some _) => if c = call then some .ended else none
  | dropped c => if c = call then some .ended else none
  | received c _ _ reply => if c = call then some (.answered reply) else none
  | failed c status => if c = call then some (.answered (.failure status)) else none
  | _ => none

/-- The request that a server received. -/
def request? : Occurrence → Option Request
  | received _ _ request _ => some request
  | _ => none

end Occurrence

theorem Occurrence.isReceipt_iff {o : Occurrence} {call : Nat} : o.isReceipt call ↔
    ∃ family request reply, o = .received call family request reply := by
  cases o <;> simp [isReceipt]

namespace Trace

variable {o : Occurrence} {t : List Occurrence} {call family link : Nat}

def Polled (call : Nat) (t : List Occurrence) : Prop := ∃ o ∈ t, o.isPoll call

def ShutDown (link : Nat) (t : List Occurrence) : Prop := ∃ o ∈ t, o.isShutdown link

def Received (call : Nat) (t : List Occurrence) : Prop := ∃ o ∈ t, o.isReceipt call

/-- A call of a family was polled for the first time while its channel was not shut down. -/
def Issued (family call : Nat) (t : List Occurrence) : Prop :=
  ∃ link reply earlier, .polled call family link reply :: earlier <:+ t ∧
    ¬ Polled call earlier ∧ ¬ ShutDown link earlier

/-- The latest occurrence that concerns a call says how far it has come. -/
def fate (call : Nat) : List Occurrence → Call.Fate
  | [] => .unpolled
  | o :: t => (o.fate? call).getD (fate call t)

/-- The requests that servers received, in their order. -/
def requests (t : List Occurrence) : List Request := t.reverse.filterMap Occurrence.request?

@[simp] theorem not_polled_nil : ¬ Polled call [] := by simp [Polled]

@[simp] theorem polled_cons : Polled call (o :: t) ↔ o.isPoll call ∨ Polled call t := by
  simp [Polled]

@[simp] theorem not_shutDown_nil : ¬ ShutDown link [] := by simp [ShutDown]

@[simp] theorem shutDown_cons : ShutDown link (o :: t) ↔ o.isShutdown link ∨ ShutDown link t := by
  simp [ShutDown]

@[simp] theorem not_received_nil : ¬ Received call [] := by simp [Received]

@[simp] theorem received_cons : Received call (o :: t) ↔ o.isReceipt call ∨ Received call t := by
  simp [Received]

@[simp] theorem issued_cons : Issued family call (o :: t) ↔
    (∃ link reply, o = .polled call family link reply ∧ ¬ Polled call t ∧ ¬ ShutDown link t) ∨
      Issued family call t := by
  constructor
  · rintro ⟨link, reply, earlier, hsuffix, hpolled, hopen⟩
    obtain heq | hsuffix := List.suffix_cons_iff.mp hsuffix
    · obtain ⟨rfl, rfl⟩ := List.cons.inj heq
      exact .inl ⟨link, reply, rfl, hpolled, hopen⟩
    · exact .inr ⟨link, reply, earlier, hsuffix, hpolled, hopen⟩
  · rintro (⟨link, reply, rfl, hpolled, hopen⟩ | ⟨link, reply, earlier, hsuffix, h⟩)
    · exact ⟨link, reply, t, List.suffix_rfl, hpolled, hopen⟩
    · exact ⟨link, reply, earlier, hsuffix.trans (List.suffix_cons o t), h⟩

theorem requests_cons : requests (o :: t) = requests t ++ o.request?.toList := by
  rw [requests, List.reverse_cons, List.filterMap_append, requests]
  cases o <;> rfl

theorem fate_cons_unpolled (h : fate call (o :: t) = .unpolled) :
    o.isPoll call = false ∧ o.isReceipt call = false ∧ fate call t = .unpolled := by
  cases o with
  | quiet | made | shutdown | started => exact ⟨rfl, rfl, h⟩
  | polled c family link reply =>
    cases reply <;> simp only [fate, Occurrence.fate?] at h <;> split at h <;>
      simp_all [Occurrence.isPoll, Occurrence.isReceipt]
  | dropped | received | failed =>
    simp only [fate, Occurrence.fate?] at h
    split at h <;> simp_all [Occurrence.isPoll, Occurrence.isReceipt]

theorem untouched_of_fate (h : fate call t = .unpolled) : ¬ Polled call t ∧ ¬ Received call t := by
  induction t with
  | nil => exact ⟨not_polled_nil, not_received_nil⟩
  | cons o t ih =>
    obtain ⟨hpoll, hreceipt, ht⟩ := fate_cons_unpolled h
    simp [hpoll, hreceipt, ih ht]

theorem countP_isReceipt_le
    (h : ∀ o earlier, o :: earlier <:+ t → o.isReceipt call → ¬ Received call earlier) :
    t.countP (·.isReceipt call) ≤ 1 := by
  induction t with
  | nil => simp
  | cons o t ih =>
    have hrest := ih fun o' earlier hsuffix => h o' earlier (hsuffix.trans (List.suffix_cons o t))
    cases ho : o.isReceipt call with
    | false => rwa [List.countP_cons_of_neg (by simp [ho])]
    | true =>
      have hnone := h o t List.suffix_rfl ho
      have hzero : t.countP (·.isReceipt call) = 0 :=
        List.countP_eq_zero.mpr fun o' ho' hreceipt => hnone ⟨o', ho', hreceipt⟩
      rw [List.countP_cons_of_pos ho, hzero]

theorem Issued.mono {t t' : List Occurrence} (h : Issued family call t) (ht : t <:+ t') :
    Issued family call t' := by
  obtain ⟨link, reply, earlier, hsuffix, h⟩ := h
  exact ⟨link, reply, earlier, hsuffix.trans ht, h⟩

theorem Issued.polled (h : Issued family call t) : Polled call t := by
  obtain ⟨link, reply, earlier, hsuffix, -⟩ := h
  exact ⟨_, hsuffix.subset List.mem_cons_self, by simp [Occurrence.isPoll]⟩

end Trace
end Telemetry
