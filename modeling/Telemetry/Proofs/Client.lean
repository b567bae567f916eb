import Mathlib.Tactic
import Telemetry.Client

/-!
# What clients show

A client shows its family and its channel. Its form makes no difference to that, nor to what closing it does.
-/
namespace Telemetry.Client

variable {s : Store} {f : Family} {l : Link}

namespace Asynchronous

variable {c : Asynchronous}

theorem linkOf?_eq (hf : s.families[c.family]? = some f) (hl : s.links[f.link]? = some l) :
    s.linkOf? c.family = some l := by
  rw [Store.linkOf?, Store.family?, hf, Option.bind_some, Store.link?, hl]

theorem state?_eq (hf : s.families[c.family]? = some f) (hl : s.links[f.link]? = some l) :
    c.state? s = some ⟨l.target, l.closed, f.calls, f.token.map (·.instanceUuid)⟩ := by
  rw [state?, linkOf?_eq hf hl, Store.family?, hf]
  rfl

theorem calls?_eq (hf : s.families[c.family]? = some f) : c.calls? s = some f.calls := by
  rw [calls?, Store.family?, hf, Option.map_some]

theorem isClosed?_eq (hf : s.families[c.family]? = some f) (hl : s.links[f.link]? = some l) :
    c.isClosed? s = some l.closed := by
  rw [isClosed?, linkOf?_eq hf hl, Option.map_some]

theorem target?_eq (hf : s.families[c.family]? = some f) (hl : s.links[f.link]? = some l) :
    c.target? s = some l.target := by
  rw [target?, linkOf?_eq hf hl, Option.map_some]

theorem close_eq (hf : s.families[c.family]? = some f) : c.close s = s.shutdown f.link := by
  rw [close, Store.family?, hf]

/-- A client over a new channel shows the channel and no calls. -/
theorem state?_withAuth_addLink (token : Option ServiceToken) (l : Link) (s : Store) :
    (withAuth s.links.length token (s.addLink l).2).1.state?
        (withAuth s.links.length token (s.addLink l).2).2 =
      some ⟨l.target, l.closed, 0, token.map (·.instanceUuid)⟩ :=
  state?_eq (f := ⟨s.links.length, token, 0⟩) List.getElem?_concat_length List.getElem?_concat_length

end Asynchronous

@[simp] theorem inner_wrap (form : Form) (c : Asynchronous) : (form.wrap c).inner = c := by
  cases form <;> rfl

@[simp] theorem family_wrap (form : Form) (c : Asynchronous) : (form.wrap c).family = c.family := by
  rw [family, inner_wrap]

theorem close_eq_inner (c : Client) (s : Store) : c.close s = c.inner.close s := by
  cases c <;> rfl

theorem Blocking.withRuntime_ok (runtime : Runtime)
    (build : Store → Except ClientError (Asynchronous × Store)) (s : Store) :
    withRuntime (.ok runtime) build s = (build s).map fun (c, s) => (⟨c, runtime⟩, s) := by
  rw [withRuntime]
  cases build s <;> rfl

/-- With a runtime every form is a wrapping of the asynchronous client. -/
theorem Form.make_eq (form : Form) (runtime : Runtime)
    (build : Store → Except ClientError (Asynchronous × Store)) (s : Store) :
    form.make (.ok runtime) build s = (build s).map fun (c, s) => (form.wrap c, s) := by
  cases form with
  | asynchronous | adapter => rfl
  | blocking =>
    rw [Form.make, Blocking.withRuntime_ok]
    cases build s <;> rfl

end Telemetry.Client
