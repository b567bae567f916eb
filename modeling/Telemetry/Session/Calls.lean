import Telemetry.Client.Builder
import Telemetry.Server

/-!
# Calls over a network

A session is a store whose channels, clients and calls have names, together with a network. Requests
are on their way from the first poll of their calls, and nothing arrives before a step has to wait for a
reply or for a connection; then all of them arrive in the order of those polls. What a session does to the
world outside, the network and the standard output, is its activity.
-/
namespace Telemetry

/-- What is seen from outside: an attempt to connect at once, a request that reached a server, a text
that was written to the standard output. -/
inductive Activity where
  | connecting (config : Channel.Config)
  | received (request : Request)
  | wrote (text : String)
  deriving DecidableEq

/-- The runtime is what comes of starting one. -/
structure Session where
  network : Network
  runtime : Except String Client.Runtime
  store : Store
  onTheWay : List Nat
  channels : List (String × Nat)
  clients : List (String × Client)
  calls : List (String × Nat)
  activity : List Activity

namespace Session

/-- A session in which runtimes start. -/
def new (network : Network) : Session := ⟨network, .ok ⟨⟩, .empty, [], [], [], [], []⟩

def setStore (s : Session) (store : Store) : Session := { s with store }

def note (activity : List Activity) (s : Session) : Session :=
  { s with activity := s.activity ++ activity }

/-- Writes texts to the standard output. -/
def print (texts : List String) (s : Session) : Session := s.note (texts.map .wrote)

/-- What was written to the standard output. -/
def output (s : Session) : String :=
  String.join (s.activity.filterMap fun
    | .wrote text => some text
    | _ => none)

/-- A server receives the request of a call. Without a reply the call goes on waiting. -/
def receive (call : Nat) (request : Request) (reply? : Option (Reply Message)) (s : Session) : Session :=
  let store := match reply? with
    | some reply => s.store.serve call reply
    | none => s.store.receive request
  (s.setStore store).note [.received request]

/-- The request of a call arrives, or there is nowhere to arrive. -/
def deliver (s : Session) (call : Nat) : Session :=
  match s.store.waiting? call, s.store.route? call with
  | some request, some link =>
    if s.network.reaches link.uri then
      let (outcome, server) := s.network.server.answer request.method
      let s := { s with network := { s.network with server } }
      match outcome with
      | .lost status => s.setStore (s.store.fail call status)
      | outcome =>
        s.receive call request (outcome.reply? s.network.fault link.requestTimeout request.method)
    else s.setStore (s.store.refuse call)
  | _, _ => s

/-- All requests arrive in turn. -/
def deliverAll (s : Session) : Session :=
  { s.onTheWay.foldl deliver s with onTheWay := [] }

/-- Polls a call. A request that goes out with its first poll is on its way. -/
def pollCall (call : Nat) (s : Session) : Option (Reply Message) × Session :=
  match s.store.poll call with
  | (some r, store) => (some r, s.setStore store)
  | (none, store) =>
    (none, { s with
      store
      onTheWay := if s.store.isUnpolled call then s.onTheWay ++ [call] else s.onTheWay })

/-- Polls a call until it has a reply, letting requests arrive in between. Without a reply it would be
polled for good. -/
def awaitCall (call : Nat) (s : Session) : Option (Reply Message) × Session :=
  match s.pollCall call with
  | (some r, s) => (some r, s)
  | (none, s) => s.deliverAll.pollCall call

/-- Makes a call and waits for its reply. -/
def await (issue : Store → Nat × Store) (s : Session) : Option (Reply Message) × Session :=
  let (call, store) := issue s.store
  (s.setStore store).awaitCall call

/-- Attempts to connect at once take time, so requests on their way arrive. -/
def dial (tried : List Channel.Config) (s : Session) : Session :=
  if tried.isEmpty then s else s.deliverAll.note (tried.map .connecting)

/-- What becomes of an attempt. -/
def settle {α : Type} (s : Session) (a : Attempt (α × Store)) : Except ClientError α × Session :=
  match a.result with
  | .error e => (.error e, s.dial a.tried)
  | .ok (x, store) => (.ok x, (s.setStore store).dial a.tried)

/-- An adapter that connects at once. -/
def connect (b : Client.Builder) (s : Session) : Except ClientError Client.Adapter × Session :=
  s.settle (b.connect s.network.reaches s.store)

def startAll (c : Client.Asynchronous) : List Method → Session → List Nat × Session
  | [], s => ([], s)
  | method :: rest, s =>
    let (call, store) := c.issue s.store method
    let (calls, s) := startAll c rest (s.setStore store)
    (call :: calls, s)

def pollAll : List Nat → Session → List (Option (Reply Message)) × Session
  | [], s => ([], s)
  | call :: rest, s =>
    let (r, s) := s.pollCall call
    let (rs, s) := pollAll rest s
    (r :: rs, s)

def asksFor (s : Session) (method : Method) (call : Nat) : Bool :=
  (s.store.waiting? call).any (·.method = method)

/-- Makes calls at the same time and waits for all replies. The requests arrive sorted by method. -/
def callAll (c : Client.Asynchronous) (methods : List Method) (s : Session) :
    Option (List (Reply Message)) × Session :=
  let s := s.deliverAll
  let (calls, s) := s.startAll c methods
  let (first, s) := s.pollAll calls
  let s := { s with onTheWay :=
    s.onTheWay.filter (s.asksFor .ack) ++ s.onTheWay.filter (s.asksFor .stats) }
  let (second, s) := s.deliverAll.pollAll calls
  ((first.zip second).mapM fun (a, b) => a.or b, s)

end Session
end Telemetry
