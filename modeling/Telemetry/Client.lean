import Telemetry.Client.Store
import Telemetry.Text.Quoted

/-!
# Clients

An asynchronous client is one of a family: it counts its calls, and the futures that it makes of them do
nothing until they are polled. An adapter holds an asynchronous client, and a blocking client holds one
together with a runtime on which it runs the futures. Both hand everything on to the client inside.
-/
namespace Telemetry

namespace Client

/-- What can be seen of a client. -/
structure State where
  target : String
  closed : Bool
  calls : UInt64
  instanceUuid : Option Uuid
  deriving DecidableEq

/-- The text of a client's state. The credential is not part of it. -/
def State.shown (s : State) : List Char :=
  "AsyncAnalyticsClient \x7b target: ".toList ++ (Text.quoted s.target ++
    (", closed: ".toList ++ ((Event.flagText s.closed).toList ++
      (", calls: ".toList ++ (Decimal.digits s.calls.toNat ++
        (", instance_uuid: ".toList ++
          ((Event.optionText (s.instanceUuid.map fun u => u.text.toList)).toList ++
            " \x7d".toList)))))))

structure Asynchronous where
  family : Nat
  deriving DecidableEq

namespace Asynchronous

/-- A client over a channel with a credential, if there is one. -/
def withAuth (link : Nat) (token : Option ServiceToken) (s : Store) : Asynchronous × Store :=
  let (family, s) := s.addFamily link token
  (⟨family⟩, s)

/-- A client without a credential over a channel that connects on first use. -/
def create (config : Channel.Config) (s : Store) : Except ClientError (Asynchronous × Store) := do
  let (link, s) ← s.openLazily config
  return withAuth link none s

variable (c : Asynchronous) (s : Store)

/-- The future of a call. -/
def issue (method : Method) : Nat × Store := s.start c.family method

def connectionAck : Nat × Store := c.issue s .ack

def receiveStats : Nat × Store := c.issue s .stats

def calls? : Option UInt64 := (s.family? c.family).map (·.calls)

def isClosed? : Option Bool := (s.linkOf? c.family).map (·.closed)

def target? : Option String := (s.linkOf? c.family).map (·.target)

/-- Shuts the client's channel down, and says whether it was open. -/
def close : Bool × Store :=
  match s.family? c.family with
  | some f => s.shutdown f.link
  | none => (false, s)

def state? : Option State := do
  let f ← s.family? c.family
  let l ← s.linkOf? c.family
  return ⟨l.target, l.closed, f.calls, f.token.map (·.instanceUuid)⟩

end Asynchronous

structure Adapter where
  inner : Asynchronous
  deriving DecidableEq

namespace Adapter

def fromAsync (inner : Asynchronous) : Adapter := ⟨inner⟩

def asAsync (c : Adapter) : Asynchronous := c.inner

variable (c : Adapter) (s : Store)

def calls? : Option UInt64 := c.inner.calls? s

def isClosed? : Option Bool := c.inner.isClosed? s

def target? : Option String := c.inner.target? s

end Adapter

/-- What futures run on. Nothing of it is seen from outside. -/
structure Runtime where
  deriving DecidableEq

structure Blocking where
  inner : Asynchronous
  runtime : Runtime
  deriving DecidableEq

namespace Blocking

/-- Starts a runtime and builds the client inside it. If there is no runtime, nothing is built. -/
def withRuntime (start : Except String Runtime)
    (build : Store → Except ClientError (Asynchronous × Store)) (s : Store) :
    Except ClientError (Blocking × Store) :=
  match start with
  | .error detail => .error (.runtime detail)
  | .ok runtime => do
    let (inner, s) ← build s
    return (⟨inner, runtime⟩, s)

variable (c : Blocking) (s : Store)

def calls? : Option UInt64 := c.inner.calls? s

def isClosed? : Option Bool := c.inner.isClosed? s

def close : Bool × Store := c.inner.close s

end Blocking

inductive Form where
  | asynchronous
  | adapter
  | blocking
  deriving DecidableEq

/-- The text of a state in a form. -/
def Form.shown (state : State) : Form → List Char
  | asynchronous => state.shown
  | adapter => "AnalyticsClient \x7b inner: ".toList ++ (state.shown ++ " \x7d".toList)
  | blocking => "BlockingAnalyticsClient \x7b inner: ".toList ++ (state.shown ++ ", .. \x7d".toList)

end Client

/-- A client in one of its forms. -/
inductive Client where
  | asynchronous (c : Client.Asynchronous)
  | adapter (c : Client.Adapter)
  | blocking (c : Client.Blocking)
  deriving DecidableEq

namespace Client

def form : Client → Form
  | asynchronous _ => .asynchronous
  | adapter _ => .adapter
  | blocking _ => .blocking

/-- The asynchronous client inside. -/
def inner : Client → Asynchronous
  | asynchronous c => c
  | adapter c => c.asAsync
  | blocking c => c.inner

def family (c : Client) : Nat := c.inner.family

def state? (c : Client) (s : Store) : Option State := c.inner.state? s

/-- Shuts the client's channel down. An adapter leaves that to the client inside. -/
def close (s : Store) : Client → Bool × Store
  | asynchronous c => c.close s
  | adapter c => c.asAsync.close s
  | blocking c => c.close s

/-- A form around an asynchronous client. -/
def Form.wrap (c : Asynchronous) : Form → Client
  | asynchronous => .asynchronous c
  | adapter => .adapter (.fromAsync c)
  | blocking => .blocking ⟨c, ⟨⟩⟩

/-- A client of a form around the asynchronous one that is built for it. -/
def Form.make (start : Except String Runtime)
    (build : Store → Except ClientError (Asynchronous × Store)) (s : Store) :
    Form → Except ClientError (Client × Store)
  | asynchronous => (build s).map fun (c, s) => (.asynchronous c, s)
  | adapter => (build s).map fun (c, s) => (.adapter (.fromAsync c), s)
  | blocking => (Blocking.withRuntime start build s).map fun (c, s) => (.blocking c, s)

end Client
end Telemetry
