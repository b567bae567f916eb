import Telemetry.Client.Builder
import Telemetry.Proofs.Client

/-!
# What a builder becomes

A builder is checked before anything else happens, the token first. One that passes gives a client over a
new channel, which shows the address and no calls; to connect at once takes a connection besides. Every way
of finishing a builder passes the same check, and only a blocking client needs a runtime before that.
-/
namespace Telemetry.Client

variable {b : Builder} {e : ClientError} {token : Option ServiceToken} {uri : Uri} {store : Store}

theorem Form.build_eq (form : Form) (runtime : Runtime) (b : Builder) (s : Store) :
    form.build (.ok runtime) b s = (b.buildAsync s).map fun (c, s) => (form.wrap c, s) := by
  rw [← form.make_eq runtime]
  cases form with
  | asynchronous | blocking => rfl
  | adapter =>
    rw [Form.build, Form.make, Builder.build]
    cases b.buildAsync s <;> rfl

namespace Builder

/-- What a builder is checked for: first the token, then the settings of the channel. -/
def check (b : Builder) : Except ClientError (Option ServiceToken × Uri) :=
  match b.token?, b.config.endpoint with
  | .error e, _ => .error e
  | .ok _, .error e => .error e
  | .ok token, .ok uri => .ok (token, uri)

/-- What can be seen of a new client of a builder. -/
def newState (b : Builder) (token : Option ServiceToken) : State :=
  ⟨b.config.address, false, 0, token.map (·.instanceUuid)⟩

/-- A client over a channel that was added to a store, with what is reported of that. -/
def added (b : Builder) (token : Option ServiceToken) (uri : Uri) (event : Event) (store : Store) :
    Asynchronous × Store :=
  Asynchronous.withAuth store.links.length token
    ((store.report event).addLink (Store.linkFor b.config uri b.config.address)).2

theorem check_of_token_error (h : b.token? = .error e) : b.check = .error e := by
  rw [check, h]

theorem check_of_decode_error {text : String} (htext : b.serviceToken = some text)
    (h : ServiceToken.decode text = .error e) : b.check = .error e := by
  refine check_of_token_error ?_
  rw [token?, htext, ServiceToken.decodeIfGiven, h]
  rfl

theorem check_of_token (h : b.token? = .ok token) :
    b.check = b.config.endpoint.map fun uri => (token, uri) := by
  rw [check, h]
  cases b.config.endpoint <;> rfl

theorem check_of_endpoint_error (htoken : b.token? = .ok token) (h : b.config.endpoint = .error e) :
    b.check = .error e := by
  rw [check, htoken, h]

theorem check_eq_error_iff : b.check = .error e ↔
    b.token? = .error e ∨ ∃ token, b.token? = .ok token ∧ b.config.endpoint = .error e := by
  rw [check]
  cases b.token? <;> cases b.config.endpoint <;> simp

theorem check_eq_ok_iff : b.check = .ok (token, uri) ↔
    b.token? = .ok token ∧ b.config.endpoint = .ok uri := by
  rw [check]
  cases b.token? <;> cases b.config.endpoint <;> simp

theorem state?_added (b : Builder) (token : Option ServiceToken) (uri : Uri) (event : Event)
    (store : Store) : (b.added token uri event store).1.state? (b.added token uri event store).2 =
      some (b.newState token) :=
  Asynchronous.state?_withAuth_addLink token _ (store.report event)

theorem buildAsync_of_check_error (h : b.check = .error e) (store : Store) :
    b.buildAsync store = .error e := by
  obtain htoken | ⟨token, htoken, hendpoint⟩ := check_eq_error_iff.mp h
  · rw [buildAsync, htoken]
    rfl
  · rw [buildAsync, htoken, Store.openLazily, hendpoint]
    rfl

/-- With something wrong, no connection is tried. -/
theorem connect_of_check_error (h : b.check = .error e) (reaches : Uri → Bool) (store : Store) :
    b.connect reaches store = ⟨[], .error e⟩ := by
  obtain htoken | ⟨token, htoken, hendpoint⟩ := check_eq_error_iff.mp h
  · rw [connect, htoken]
    rfl
  · rw [connect, htoken, Store.connect, hendpoint]
    rfl

/-- What is reported of a channel that connects on first use. -/
def created (b : Builder) : Event := .channelCreated b.config.address b.config.useTls

theorem buildAsync_of_check (h : b.check = .ok (token, uri)) (store : Store) :
    b.buildAsync store = .ok (b.added token uri b.created store) := by
  obtain ⟨htoken, hendpoint⟩ := check_eq_ok_iff.mp h
  rw [buildAsync, htoken, Store.openLazily, hendpoint]
  rfl

/-- What is reported of a connection. -/
def connected (b : Builder) : Event :=
  .connected b.config.address b.config.useTls b.config.requestTimeout

theorem connect_of_check (h : b.check = .ok (token, uri)) {reaches : Uri → Bool}
    (hreaches : reaches uri = true) (store : Store) : b.connect reaches store =
      ⟨[b.config], .ok (.fromAsync (b.added token uri b.connected store).1,
        (b.added token uri b.connected store).2)⟩ := by
  obtain ⟨htoken, hendpoint⟩ := check_eq_ok_iff.mp h
  simp only [connect, htoken, Store.connect, hendpoint, hreaches, if_true]
  rfl

theorem connect_of_unreachable (h : b.check = .ok (token, uri)) {reaches : Uri → Bool}
    (hreaches : reaches uri = false) (store : Store) : b.connect reaches store =
      ⟨[b.config], .error (.connectionFailed (b.config.address ++ ": transport error"))⟩ := by
  obtain ⟨htoken, hendpoint⟩ := check_eq_ok_iff.mp h
  simp only [connect, htoken, Store.connect, hendpoint, hreaches]
  rfl

/-- A way of finishing a builder gave a client, which shows a state. -/
def Gives {α : Type} (view : α → Client) (state : State) (r : Except ClientError (α × Store)) : Prop :=
  ∃ c s, r = .ok (c, s) ∧ (view c).state? s = some state

/-- What all ways of finishing a builder have in common, in any store. -/
structure FinishesAlike (b : Builder) (s : Store) : Prop where
  /-- A builder with something wrong is refused for it in every way, and no connection is tried. -/
  refused : ∀ e, b.check = .error e → b.buildAsync s = .error e ∧ b.build s = .error e ∧
    (∀ runtime, b.buildBlocking (.ok runtime) s = .error e) ∧ ∀ reaches, b.connect reaches s = ⟨[], .error e⟩
  /-- With nothing wrong there is a client in every form, without a connection. -/
  lazily : ∀ token uri, b.check = .ok (token, uri) →
    Gives .asynchronous (b.newState token) (b.buildAsync s) ∧
      Gives .adapter (b.newState token) (b.build s) ∧
      ∀ runtime, Gives .blocking (b.newState token) (b.buildBlocking (.ok runtime) s)
  /-- To connect at once is one attempt, and without a connection there is no client. -/
  atOnce : ∀ token uri, b.check = .ok (token, uri) → ∀ reaches, (b.connect reaches s).tried = [b.config] ∧
    if reaches uri then Gives .adapter (b.newState token) (b.connect reaches s).result
    else ∃ detail, (b.connect reaches s).result = .error (.connectionFailed detail)
  /-- A runtime that does not start is reported before anything is checked. -/
  runtime : ∀ detail, b.buildBlocking (.error detail) s = .error (.runtime detail)
  /-- A token that cannot be decoded is reported whatever is wrong with the channel. -/
  undecodable : ∀ text e, b.serviceToken = some text → ServiceToken.decode text = .error e →
    b.check = .error e
  /-- With a token that can be decoded, or with none, only the channel matters. -/
  decoded : ∀ text token, b.serviceToken = some text → ServiceToken.decode text = .ok token →
    b.check = b.config.endpoint.map fun uri => (some token, uri)
  noToken : b.serviceToken = none → b.check = b.config.endpoint.map fun uri => (none, uri)

theorem gives_added {α : Type} {view : α → Client} {c : α} (b : Builder) (token : Option ServiceToken)
    (uri : Uri) (event : Event) (s : Store) (hview : (view c).inner = (b.added token uri event s).1) :
    Gives view (b.newState token) (.ok (c, (b.added token uri event s).2)) :=
  ⟨c, _, rfl, by rw [Client.state?, hview, b.state?_added]⟩

/-- Every builder is checked alike in all ways of finishing it, and its clients show the same. -/
theorem finishesAlike (b : Builder) (s : Store) : b.FinishesAlike s := by
  constructor
  case refused =>
    intro e he
    have hasync := b.buildAsync_of_check_error he s
    refine ⟨hasync, ?_, fun runtime => ?_, fun reaches => b.connect_of_check_error he reaches s⟩
    · rw [build, hasync]
      rfl
    · rw [buildBlocking, Blocking.withRuntime_ok, hasync]
      rfl
  case lazily =>
    intro token uri hcheck
    have hasync := b.buildAsync_of_check hcheck s
    refine ⟨?_, ?_, fun runtime => ?_⟩
    · rw [hasync]
      exact b.gives_added token uri _ s rfl
    · rw [build, hasync]
      exact b.gives_added token uri _ s rfl
    · rw [buildBlocking, Blocking.withRuntime_ok, hasync]
      exact b.gives_added token uri _ s rfl
  case atOnce =>
    intro token uri hcheck reaches
    cases hreaches : reaches uri with
    | true =>
      rw [b.connect_of_check hcheck hreaches]
      exact ⟨rfl, b.gives_added token uri _ s rfl⟩
    | false =>
      rw [b.connect_of_unreachable hcheck hreaches]
      exact ⟨rfl, _, rfl⟩
  case runtime => exact fun detail => rfl
  case undecodable => exact fun text e => check_of_decode_error
  case decoded =>
    intro text token htext htoken
    refine check_of_token ?_
    rw [token?, htext, ServiceToken.decodeIfGiven, htoken]
    rfl
  case noToken =>
    intro hnone
    refine check_of_token ?_
    rw [token?, hnone, ServiceToken.decodeIfGiven]

end Builder
end Telemetry.Client
