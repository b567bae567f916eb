import Telemetry.Client.Attempt
import Telemetry.Credential.ServiceToken
import Telemetry.Log.Event
import Telemetry.Rpc

/-!
# Channels, clients and calls

A store holds all channels, all families of clients and all calls that were ever made. A channel is open
until it is shut down, for good and for everybody who holds it. A family is a client with its clones:
they share a channel, a credential and a counter. A call does nothing until it is polled. Its first poll
decides its fate: on a channel that is shut down the call is refused; on an open one it is counted, and
unless its credential cannot be sent a request goes out. What happens to the request afterwards is the
network's choice, and the store is told by `serve` and `fail`.
-/
namespace Telemetry

/-- A channel. Its target is what it is called in logs. Without a request timeout a request may take as
long as it likes. -/
structure Link where
  target : String
  uri : Uri
  userAgent : String
  requestTimeout : Option Duration
  closed : Bool
  deriving DecidableEq

/-- A client with its clones. The counter wraps around. -/
structure Family where
  link : Nat
  token : Option ServiceToken
  calls : UInt64
  deriving DecidableEq

namespace Call

inductive Progress where
  | created
  | waiting (request : Request)
  | answered (reply : Reply Message)
  | finished

end Call

structure Call where
  family : Nat
  method : Method
  progress : Call.Progress

/-- Channels, families and calls by number, the requests that reached a server, and the events of the
current step. -/
structure Store where
  links : List Link
  families : List Family
  calls : List Call
  requests : List Request
  log : List Event

namespace Store

def empty : Store := ⟨[], [], [], [], []⟩

def report (e : Event) (s : Store) : Store := { s with log := s.log ++ [e] }

def link? (s : Store) (link : Nat) : Option Link := s.links[link]?

def family? (s : Store) (family : Nat) : Option Family := s.families[family]?

def call? (s : Store) (call : Nat) : Option Call := s.calls[call]?

/-- The channel of a family. -/
def linkOf? (s : Store) (family : Nat) : Option Link :=
  (s.family? family).bind fun f => s.link? f.link

def addLink (link : Link) (s : Store) : Nat × Store :=
  (s.links.length, { s with links := s.links ++ [link] })

/-- The channel that settings describe, under the name of its target. -/
def linkFor (c : Channel.Config) (uri : Uri) (target : String) : Link :=
  ⟨target, uri, c.userAgent.getD "", c.requestTimeout, false⟩

/-- A channel that connects on first use. -/
def openLazily (c : Channel.Config) (s : Store) : Except ClientError (Nat × Store) :=
  match c.endpoint with
  | .error e => .error e
  | .ok uri => .ok ((s.report (.channelCreated c.address c.useTls)).addLink (linkFor c uri c.address))

/-- A channel that connects at once, which succeeds if its server is within reach. Nothing is tried with
settings that are wrong. -/
def connect (reaches : Uri → Bool) (c : Channel.Config) (target : String) (s : Store) :
    Attempt (Nat × Store) :=
  match c.endpoint with
  | .error e => ⟨[], .error e⟩
  | .ok uri =>
    if reaches uri then
      ⟨[c], .ok ((s.report (.connected c.address c.useTls c.requestTimeout)).addLink
        (linkFor c uri target))⟩
    else ⟨[c], .error (.connectionFailed (c.address ++ ": transport error"))⟩

/-- Whether it was this call that shut the channel down. -/
def shutdown (link : Nat) (s : Store) : Bool × Store :=
  match s.link? link with
  | none => (false, s)
  | some l =>
    if l.closed then (false, s.report (.alreadyShutDown l.target))
    else
      (true, { s with links := s.links.set link { l with closed := true } }.report
        (.shuttingDown l.target))

/-- A family over a channel that has made no calls. -/
def addFamily (link : Nat) (token : Option ServiceToken) (s : Store) : Nat × Store :=
  (s.families.length, { s with families := s.families ++ [⟨link, token, 0⟩] })

def setProgress (call : Nat) (p : Call.Progress) (s : Store) : Store :=
  { s with calls := s.calls.modify call fun c => { c with progress := p } }

/-- A new call of a family, not polled yet. -/
def start (family : Nat) (method : Method) (s : Store) : Nat × Store :=
  (s.calls.length, { s with calls := s.calls ++ [⟨family, method, .created⟩] })

/-- Counts a call of a family. -/
def count (family : Nat) (s : Store) : Store :=
  { s with families := s.families.modify family fun f => { f with calls := f.calls + 1 } }

/-- Ends a call with a reply, which is reported if it is a failure. -/
def finish (call : Nat) (method : Method) (target : String) (reply : Reply Message) (s : Store) :
    Store :=
  let s := s.setProgress call .finished
  match reply with
  | .success _ => s
  | .failure status => s.report (.callFailed method target status)

/-- The first poll of a call. -/
def firstPoll (call : Nat) (family : Nat) (f : Family) (l : Link) (method : Method) (s : Store) :
    Option (Reply Message) × Store :=
  if l.closed then
    (some (.failure .channelClosed),
      (s.setProgress call .finished).report (.callRefused method l.target))
  else
    let s := (s.count family).report (.callIssued method l.target (f.calls + 1))
    match Authorization.apply (f.token.map (·.token)) [] with
    | .error status =>
      (some (.failure status), s.finish call method l.target (.failure status))
    | .ok values => (none, s.setProgress call (.waiting ⟨method, values, l.userAgent⟩))

/-- Polls a call: its reply, once there is one. -/
def poll (call : Nat) (s : Store) : Option (Reply Message) × Store :=
  match s.call? call with
  | none => (none, s)
  | some c =>
    match s.family? c.family, s.linkOf? c.family with
    | some f, some l =>
      match c.progress with
      | .created => s.firstPoll call c.family f l c.method
      | .answered reply => (some reply, s.finish call c.method l.target reply)
      | .waiting _ => (none, s)
      | .finished => (none, s)
    | _, _ => (none, s)

/-- The request of a call that waits for its reply. -/
def waiting? (s : Store) (call : Nat) : Option Request :=
  (s.call? call).bind fun c =>
    match c.progress with
    | .waiting request => some request
    | _ => none

/-- The channel that the request of a call goes over. -/
def route? (s : Store) (call : Nat) : Option Link := (s.call? call).bind fun c => s.linkOf? c.family

/-- Whether a call was never polled. -/
def isUnpolled (s : Store) (call : Nat) : Bool :=
  (s.call? call).any fun c =>
    match c.progress with
    | .created => true
    | _ => false

/-- A server receives a request. -/
def receive (request : Request) (s : Store) : Store := { s with requests := s.requests ++ [request] }

/-- A server receives the request of a call and replies. -/
def serve (call : Nat) (reply : Reply Message) (s : Store) : Store :=
  match s.waiting? call with
  | none => s
  | some request =>
    (s.receive request).setProgress call (.answered reply)

/-- The request of a call comes to nothing. -/
def fail (call : Nat) (status : Status) (s : Store) : Store :=
  match s.waiting? call with
  | none => s
  | some _ => s.setProgress call (.answered (.failure status))

/-- No server can be reached for the request of a call. -/
def refuse (call : Nat) (s : Store) : Store := s.fail call .connectionRefused

/-- Gives a call up, together with its request if that is still on its way. -/
def drop (call : Nat) (s : Store) : Store := s.setProgress call .finished

end Store
end Telemetry
