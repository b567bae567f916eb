import Telemetry.Session.Calls

/-!
# Clients whose calls are waited for

The calls of an adapter and of a blocking client are those of the asynchronous client inside. An adapter
waits for the future itself, and a blocking client leaves that to its runtime. Behind the interface a
program knows nothing of a client but its calls, its counter and whether it is closed.
-/
namespace Telemetry.Client

namespace Adapter

def connectionAck (c : Adapter) (s : Session) : Option (Reply Message) × Session :=
  s.await c.inner.connectionAck

def receiveStats (c : Adapter) (s : Session) : Option (Reply Message) × Session :=
  s.await c.inner.receiveStats

end Adapter

/-- The operations of a connection. -/
structure Interface where
  connectionAck : Session → Option (Reply Message) × Session
  receiveStats : Session → Option (Reply Message) × Session
  isClosed? : Store → Option Bool
  calls? : Store → Option UInt64

def Adapter.interface (c : Adapter) : Interface where
  connectionAck s := c.connectionAck s
  receiveStats s := c.receiveStats s
  isClosed? s := c.isClosed? s
  calls? s := c.calls? s

/-- Runs a future to its end while the thread waits. -/
def Runtime.blockOn (_ : Runtime) (issue : Store → Nat × Store) (s : Session) :
    Option (Reply Message) × Session := s.await issue

namespace Blocking

def connectionAck (c : Blocking) (s : Session) : Option (Reply Message) × Session :=
  c.runtime.blockOn c.inner.connectionAck s

def receiveStats (c : Blocking) (s : Session) : Option (Reply Message) × Session :=
  c.runtime.blockOn c.inner.receiveStats s

end Blocking

/-- The future of an asynchronous client's call. -/
def Asynchronous.call (c : Asynchronous) : Method → Store → Nat × Store
  | .ack => c.connectionAck
  | .stats => c.receiveStats

def Adapter.call (c : Adapter) : Method → Session → Option (Reply Message) × Session
  | .ack => c.connectionAck
  | .stats => c.receiveStats

def Interface.call (i : Interface) : Method → Session → Option (Reply Message) × Session
  | .ack => i.connectionAck
  | .stats => i.receiveStats

def Blocking.call (c : Blocking) : Method → Session → Option (Reply Message) × Session
  | .ack => c.connectionAck
  | .stats => c.receiveStats

/-- Makes a call and waits for its reply. -/
def call (method : Method) (s : Session) : Client → Option (Reply Message) × Session
  | asynchronous c => s.await (c.call method)
  | adapter c => c.call method s
  | blocking c => c.call method s

end Telemetry.Client
