import Telemetry.Client.Builder

/-!
# Runs

A world is a store, the handles that a program holds and what happened so far, the latest first. Handles
are made, cloned and discarded, and any of them may be used at any time. A run is a list of actions,
each of them one atomic step of the program or of the network. An action that cannot be taken, like the
use of a handle that was discarded or a poll of a call that is over, does nothing. Runtimes of blocking
clients start.
-/
namespace Telemetry

/-- What a program holds. -/
inductive Handle where
  | channel (link : Nat)
  | client (c : Client)
  deriving DecidableEq

namespace Handle

/-- The channel behind a handle. -/
def link? (s : Store) : Handle → Option Nat
  | channel link => some link
  | client c => (s.family? c.family).map (·.link)

/-- Whether a handle shows its channel as shut down. -/
def closed? (s : Store) : Handle → Option Bool
  | channel link => (s.link? link).map (·.closed)
  | client c => (c.state? s).map (·.closed)

/-- Shuts the channel behind a handle down. -/
def shutdown (s : Store) : Handle → Bool × Store
  | channel link => s.shutdown link
  | client c => c.close s

end Handle

/-- Whether a call has given its reply or was given up. -/
def Call.isOver (c : Call) : Bool :=
  match c.progress with
  | .finished => true
  | _ => false

/-- One atomic step. Handles and calls are named by their numbers. -/
inductive Action where
  | openChannel (config : Channel.Config)
  | connectChannel (reaches : Uri → Bool) (config : Channel.Config) (target : String)
  | rewrapChannel (handle : Nat) (target : String)
  | makeClient (form : Client.Form) (handle : Nat) (serviceToken : Option String)
  | buildClient (form : Client.Form) (b : Client.Builder)
  | connectClient (reaches : Uri → Bool) (b : Client.Builder)
  | wrapClient (form : Client.Form) (handle : Nat)
  | clone (handle : Nat)
  | discard (handle : Nat)
  | shutdown (handle : Nat)
  | start (handle : Nat) (method : Method)
  | poll (call : Nat)
  | drop (call : Nat)
  | serve (call : Nat) (reply : Reply Message)
  | fail (call : Nat) (status : Status)

/-- What happened in a step, with the channel, the family or the call that it happened to. A step that
nobody can tell from no step is quiet. -/
inductive Occurrence where
  | quiet
  | made (family : Nat) (serviceToken : Option String)
  | shutdown (link : Nat) (now : Bool)
  | started (call family : Nat) (method : Method)
  | polled (call family link : Nat) (reply : Option (Reply Message))
  | dropped (call : Nat)
  | received (call family : Nat) (request : Request) (reply : Reply Message)
  | failed (call : Nat) (status : Status)

structure World where
  store : Store
  handles : List (Option Handle)
  trace : List Occurrence

namespace World

def empty : World := ⟨.empty, [], []⟩

/-- The handle with a number, unless it was discarded. -/
def handle? (w : World) (n : Nat) : Option Handle := w.handles[n]?.join

/-- The channel behind the handle with a number. -/
def linkAt? (w : World) (n : Nat) : Option Nat := (w.handle? n).bind (·.link? w.store)

def record (o : Occurrence) (store : Store) (w : World) : World :=
  { w with store, trace := o :: w.trace }

def idle (w : World) : World := w.record .quiet w.store

def hold (h : Handle) (w : World) : World := { w with handles := w.handles ++ [some h] }

/-- A program gets hold of a new channel. -/
def opened (w : World) : Except ClientError (Nat × Store) → World
  | .error _ => w.idle
  | .ok (link, store) => (w.record .quiet store).hold (.channel link)

/-- A program gets hold of a new client. -/
def made (w : World) (serviceToken : Option String) : Except ClientError (Client × Store) → World
  | .error _ => w.idle
  | .ok (c, store) => (w.record (.made c.family serviceToken) store).hold (.client c)

/-- The poll of a call that is not over. -/
def polled (w : World) (call : Nat) (c : Call) (f : Family) : World :=
  let (reply, store) := w.store.poll call
  w.record (.polled call c.family f.link reply) store

def perform (w : World) : Action → World
  | .openChannel config => w.opened (w.store.openLazily config)
  | .connectChannel reaches config target => w.opened (w.store.connect reaches config target).result
  | .rewrapChannel handle target =>
    match (w.linkAt? handle).bind w.store.link? with
    | none => w.idle
    | some l => w.opened (.ok (w.store.addLink { l with target, closed := false }))
  | .makeClient form handle serviceToken =>
    match ServiceToken.decodeIfGiven serviceToken, w.linkAt? handle with
    | .ok token, some link =>
      w.made serviceToken
        (form.make (.ok ⟨⟩) (fun s => .ok (Client.Asynchronous.withAuth link token s)) w.store)
    | _, _ => w.idle
  | .buildClient form b => w.made b.serviceToken (form.build (.ok ⟨⟩) b w.store)
  | .connectClient reaches b =>
    w.made b.serviceToken ((b.connect reaches w.store).result.map fun (c, s) => (.adapter c, s))
  | .wrapClient form handle =>
    match w.handle? handle with
    | some (.client c) => w.idle.hold (.client (form.wrap c.inner))
    | _ => w.idle
  | .clone handle =>
    match w.handle? handle with
    | none => w.idle
    | some h => w.idle.hold h
  | .discard handle => { w.idle with handles := w.handles.set handle none }
  | .shutdown handle =>
    match w.handle? handle, w.linkAt? handle with
    | some h, some link =>
      let (now, store) := h.shutdown w.store
      w.record (.shutdown link now) store
    | _, _ => w.idle
  | .start handle method =>
    match w.handle? handle with
    | some (.client c) =>
      let (call, store) := w.store.start c.family method
      w.record (.started call c.family method) store
    | _ => w.idle
  | .poll call =>
    match w.store.call? call with
    | none => w.idle
    | some c =>
      match w.store.family? c.family with
      | none => w.idle
      | some f => if c.isOver then w.idle else w.polled call c f
  | .drop call =>
    match w.store.call? call with
    | none => w.idle
    | some c => if c.isOver then w.idle else w.record (.dropped call) (w.store.drop call)
  | .serve call reply =>
    match w.store.call? call, w.store.waiting? call with
    | some c, some request =>
      w.record (.received call c.family request reply) (w.store.serve call reply)
    | _, _ => w.idle
  | .fail call status =>
    match w.store.waiting? call with
    | none => w.idle
    | some _ => w.record (.failed call status) (w.store.fail call status)

/-- The world after more actions. -/
def run (w : World) (actions : List Action) : World := actions.foldl perform w

/-- The world after a run from its start. -/
def after (actions : List Action) : World := empty.run actions

end World
end Telemetry
