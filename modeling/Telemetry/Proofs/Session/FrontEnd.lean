import Telemetry.Proofs.Session.Conversation

/-!
# Front ends

A program holds the client of a builder in one of four ways: an asynchronous client each of whose calls it
waits for at once, an adapter, an adapter behind the interface, or a blocking client. The last three hand
every operation on to the asynchronous client inside, so they are the first one over again. Whatever a
program does, it sees what the conversation shows, and the server receives the requests of the conversation.
-/
namespace Telemetry

/-- What a program does with a client. -/
inductive Operation where
  | call (method : Method)
  | calls
  | isClosed
  | close
  deriving DecidableEq

def Operation.method? : Operation → Option Method
  | call method => some method
  | _ => none

theorem Operation.filterMap_cons (op : Operation) (ops : List Operation) :
    (op :: ops).filterMap method? = op.method?.toList ++ ops.filterMap method? := by
  cases op <;> rfl

/-- What a program sees of an operation. -/
inductive Observation where
  | reply (r : Reply Message)
  | calls (n : UInt64)
  | isClosed (closed : Bool)
  | close (now : Bool)

namespace Conversation

/-- What is seen of an operation, which is nothing while a call waits. -/
inductive Performs (v : Conversation) : Operation → Option Observation → Conversation → Prop
  | call {method : Method} {reply? : Option (Reply Message)} {v' : Conversation}
      (h : v.Calls method reply? v') : Performs v (.call method) (reply?.map .reply) v'
  | calls : Performs v .calls (some (.calls v.calls)) v
  | isClosed : Performs v .isClosed (some (.isClosed v.link.closed)) v
  | close : Performs v .close (some (.close !v.link.closed)) v.closed

/-- What is seen of operations one after the other. A call that is never answered is the last. -/
inductive Runs : Conversation → List Operation → List Observation → Conversation → Prop
  | nil (v : Conversation) : Runs v [] [] v
  | cons {v v' v'' : Conversation} {op : Operation} {ops : List Operation} {o : Observation}
      {os : List Observation} (h : v.Performs op (some o) v') (hrest : Runs v' ops os v'') :
      Runs v (op :: ops) (o :: os) v''
  | waits {v v' : Conversation} {op : Operation} {ops : List Operation} (h : v.Performs op none v') :
      Runs v (op :: ops) [] v'

variable {v v' : Conversation}

/-- An operation adds a request of its own method or none. -/
theorem Performs.requests {op : Operation} {o? : Option Observation} (h : v.Performs op o? v') :
    ∃ requests : List Request, v'.requests = v.requests ++ requests ∧
      (requests.map (·.method)).Sublist op.method?.toList := by
  have hnone (op : Operation) : ∃ requests : List Request, v.requests = v.requests ++ requests ∧
      (requests.map (·.method)).Sublist op.method?.toList :=
    ⟨[], (List.append_nil _).symm, List.nil_sublist _⟩
  cases h with
  | calls | isClosed | close => exact hnone _
  | call hcalls =>
    obtain hsame | ⟨request, rfl, hmore⟩ := hcalls.requests
    · rw [hsame]
      exact hnone _
    · exact ⟨[request], hmore, List.Sublist.refl _⟩

/-- No call is sent again and none overtakes another. -/
theorem Runs.requests {ops : List Operation} {os : List Observation} (h : v.Runs ops os v') :
    ∃ requests : List Request, v'.requests = v.requests ++ requests ∧
      (requests.map (·.method)).Sublist (ops.filterMap Operation.method?) := by
  induction h with
  | nil v => exact ⟨[], (List.append_nil _).symm, List.nil_sublist _⟩
  | @cons v v' v'' op ops o os hop _ ih =>
    obtain ⟨first, hfirst, hop⟩ := hop.requests
    obtain ⟨rest, hrest, hops⟩ := ih
    refine ⟨first ++ rest, by rw [hrest, hfirst, List.append_assoc], ?_⟩
    rw [List.map_append, Operation.filterMap_cons]
    exact hop.append hops
  | @waits v v' op ops hop =>
    obtain ⟨first, hfirst, hop⟩ := hop.requests
    refine ⟨first, hfirst, ?_⟩
    rw [Operation.filterMap_cons]
    exact hop.trans (List.sublist_append_left _ _)

end Conversation

/-- A client as a program holds it. -/
@[ext] structure FrontEnd where
  call : Method → Session → Option (Reply Message) × Session
  calls? : Store → Option UInt64
  isClosed? : Store → Option Bool
  close : Store → Bool × Store

namespace FrontEnd

open Session (rests_added)

def awaited (c : Client.Asynchronous) : FrontEnd where
  call method s := s.await (c.call method)
  calls? := c.calls?
  isClosed? := c.isClosed?
  close := c.close

/-- An adapter is closed through the client inside. -/
def adapter (c : Client.Adapter) : FrontEnd where
  call := c.call
  calls? := c.calls?
  isClosed? := c.isClosed?
  close := c.asAsync.close

def interface (c : Client.Adapter) : FrontEnd where
  call := c.interface.call
  calls? := c.interface.calls?
  isClosed? := c.interface.isClosed?
  close := c.asAsync.close

def blocking (c : Client.Blocking) : FrontEnd where
  call := c.call
  calls? := c.calls?
  isClosed? := c.isClosed?
  close := c.close

theorem adapter_eq (c : Client.Asynchronous) : adapter (.fromAsync c) = awaited c :=
  FrontEnd.ext (funext fun method => by cases method <;> rfl) rfl rfl rfl

theorem interface_eq (c : Client.Asynchronous) : interface (.fromAsync c) = awaited c :=
  FrontEnd.ext (funext fun method => by cases method <;> rfl) rfl rfl rfl

theorem blocking_eq (c : Client.Asynchronous) (runtime : Client.Runtime) :
    blocking ⟨c, runtime⟩ = awaited c :=
  FrontEnd.ext (funext fun method => by cases method <;> rfl) rfl rfl rfl

/-- How a program holds the client of a builder. -/
inductive Kind where
  | awaited
  | adapter
  | interface
  | blocking
  deriving DecidableEq

/-- Finishes a builder in the way that leads to a front end. -/
def Kind.finish (start : Except String Client.Runtime) (b : Client.Builder) (s : Store) :
    Kind → Except ClientError (FrontEnd × Store)
  | awaited => (b.buildAsync s).map fun (c, s) => (.awaited c, s)
  | adapter => (b.build s).map fun (c, s) => (.adapter c, s)
  | interface => (b.build s).map fun (c, s) => (.interface c, s)
  | blocking => (b.buildBlocking start s).map fun (c, s) => (.blocking c, s)

/-- A front end around a client that is built is the one whose calls are awaited, if it is that for every
client. -/
theorem map_front {α : Type} {wrap : Client.Asynchronous → α} {front : α → FrontEnd}
    (h : ∀ c, front (wrap c) = awaited c) (built : Except ClientError (Client.Asynchronous × Store)) :
    ((built.map fun (c, s) => (wrap c, s)).map fun (c, s) => (front c, s)) =
      built.map fun (c, s) => (awaited c, s) := by
  cases built with
  | error e => rfl
  | ok made => exact congrArg (fun front => Except.ok (front, made.2)) (h made.1)

theorem Kind.finish_eq (kind : Kind) (runtime : Client.Runtime) (b : Client.Builder) (s : Store) :
    kind.finish (.ok runtime) b s = (b.buildAsync s).map fun (c, s) => (.awaited c, s) := by
  cases kind with
  | awaited => rfl
  | adapter => exact map_front adapter_eq (b.buildAsync s)
  | interface => exact map_front interface_eq (b.buildAsync s)
  | blocking =>
    rw [finish, Client.Builder.buildBlocking, Client.Blocking.withRuntime_ok]
    exact map_front (fun c => blocking_eq c runtime) (b.buildAsync s)

def observe (front : FrontEnd) (s : Session) : Operation → Option Observation × Session
  | .call method =>
    let (reply?, s) := front.call method s
    (reply?.map .reply, s)
  | .calls => ((front.calls? s.store).map .calls, s)
  | .isClosed => ((front.isClosed? s.store).map .isClosed, s)
  | .close =>
    let (now, store) := front.close s.store
    (some (.close now), s.setStore store)

/-- What a program sees that does one operation after the other, as far as it gets. -/
def observeAll (front : FrontEnd) : List Operation → Session → List Observation × Session
  | [], s => ([], s)
  | op :: rest, s =>
    match front.observe s op with
    | (none, s) => ([], s)
    | (some o, s) =>
      let (os, s) := front.observeAll rest s
      (o :: os, s)

/-- Makes a client of a builder and uses it: what the program sees, and what the server receives. -/
def transcript (kind : Kind) (network : Network) (b : Client.Builder) (ops : List Operation) :
    Except ClientError (List Observation × List Request) := do
  let s := Session.new network
  let (front, store) ← kind.finish s.runtime b s.store
  let (os, s) := front.observeAll ops (s.setStore store)
  return (os, s.store.requests)

variable {s : Session} {c : Client.Asynchronous} {before : List Activity} {v : Conversation}

theorem rests_observe (h : s.Rests c before v) (op : Operation) :
    ∃ o? s' v', (awaited c).observe s op = (o?, s') ∧ v.Performs op o? v' ∧ s'.Rests c before v' := by
  cases op with
  | call method =>
    obtain ⟨reply?, s', v', hawait, hcalls, hrests⟩ := h.await method
    refine ⟨_, s', v', ?_, .call hcalls, hrests⟩
    simp only [observe, awaited, hawait]
  | calls => exact ⟨_, s, v, by simp only [observe, awaited, h.calls?, Option.map_some], .calls, h⟩
  | isClosed =>
    exact ⟨_, s, v, by simp only [observe, awaited, h.isClosed?, Option.map_some], .isClosed, h⟩
  | close =>
    obtain ⟨hnow, hrests⟩ := h.close
    exact ⟨_, _, _, by simp only [observe, awaited, hnow], .close, hrests⟩

theorem rests_observeAll (h : s.Rests c before v) (ops : List Operation) :
    ∃ os s' v', (awaited c).observeAll ops s = (os, s') ∧ v.Runs ops os v' ∧ s'.Rests c before v' := by
  induction ops generalizing s v with
  | nil => exact ⟨[], s, v, rfl, .nil v, h⟩
  | cons op rest ih =>
    obtain ⟨o?, s₁, v₁, hobserve, hperforms, h₁⟩ := rests_observe h op
    cases o? with
    | none => exact ⟨[], s₁, v₁, by rw [observeAll, hobserve], .waits hperforms, h₁⟩
    | some o =>
      obtain ⟨os, s₂, v₂, hrest, hruns, h₂⟩ := ih h₁
      exact ⟨o :: os, s₂, v₂, by simp only [observeAll, hobserve, hrest], .cons hperforms hruns, h₂⟩

variable {b : Client.Builder} {token : Option ServiceToken} {uri : Uri}

/-- On every front end a program sees a run of the conversation that the builder opens on the network, and
the same one on each. The server receives the requests of the conversation: of the calls, some in their
order, each once. -/
theorem runs_transcript (htoken : b.token? = .ok token) (huri : b.config.endpoint = .ok uri)
    (network : Network) (ops : List Operation) : ∃ os v,
      (Conversation.opened network b.config uri token).Runs ops os v ∧
        (∀ kind, transcript kind network b ops = .ok (os, v.requests)) ∧
        (v.requests.map (·.method)).Sublist (ops.filterMap Operation.method?) := by
  have hopened : ((Session.new network).setStore (b.added token uri b.created .empty).2).Rests
      (b.added token uri b.created .empty).1 [] (.opened network b.config uri token) :=
    rests_added network [] b token uri b.created
  obtain ⟨os, s, v, hobserve, hruns, hrests⟩ := rests_observeAll hopened ops
  obtain ⟨requests, hrequests, hsublist⟩ := hruns.requests
  refine ⟨os, v, hruns, fun kind => ?_, ?_⟩
  · have hbuild := b.buildAsync_of_check (Client.Builder.check_eq_ok_iff.mpr ⟨htoken, huri⟩) .empty
    have hfinish := kind.finish_eq ⟨⟩ b .empty
    rw [hbuild] at hfinish
    rw [transcript, show (Session.new network).runtime = .ok ⟨⟩ from rfl,
      show (Session.new network).store = .empty from rfl, hfinish, ← hrests.requests]
    simp only [Except.map, bind, Except.bind, hobserve]
    rfl
  · rw [hrequests]
    exact hsublist

/-- A server that acknowledges and has no statistics. -/
def sampleNetwork : Network :=
  ⟨fun _ => true, ⟨[.body [8, 1]], [.status ⟨.notFound, "nobody"⟩]⟩, fun _ _ => ""⟩

def sampleOperations : List Operation := [.call .ack, .call .stats, .close, .call .ack, .calls, .isClosed]

theorem sampleNetwork_runs : ∃ v,
    (Conversation.opened sampleNetwork (Client.Builder.new "localhost").config
        (.absolute "http".toList "localhost".toList [] none) none).Runs sampleOperations
      [.reply (.success (.ack ⟨true, ""⟩)), .reply (.failure ⟨.notFound, "nobody"⟩), .close true,
        .reply (.failure ⟨.unavailable, "channel has been shut down"⟩), .calls 2, .isClosed true] v ∧
    v.requests = [⟨.ack, [], "analytics-rs/0.1.0"⟩, ⟨.stats, [], "analytics-rs/0.1.0"⟩] := by
  have huri : (Client.Builder.new "localhost").config.endpoint =
      .ok (.absolute "http".toList "localhost".toList [] none) := by decide +kernel
  obtain ⟨os, v, hruns, htranscript, -⟩ := runs_transcript rfl huri sampleNetwork sampleOperations
  have hknown : transcript .blocking sampleNetwork (.new "localhost") sampleOperations =
      .ok ([.reply (.success (.ack ⟨true, ""⟩)), .reply (.failure ⟨.notFound, "nobody"⟩), .close true,
        .reply (.failure ⟨.unavailable, "channel has been shut down"⟩), .calls 2, .isClosed true],
        [⟨.ack, [], "analytics-rs/0.1.0"⟩, ⟨.stats, [], "analytics-rs/0.1.0"⟩]) := rfl
  obtain ⟨rfl, hrequests⟩ := Prod.mk.inj (Except.ok.inj (hknown.symm.trans (htranscript .blocking)))
  exact ⟨v, hruns, hrequests.symm⟩

end FrontEnd
end Telemetry
