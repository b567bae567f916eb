import Telemetry.Client

/-!
# Client builders

A builder gathers channel settings and a service token in its encoded form, and nothing is checked until
the client is made. Then the token is decoded first.
-/
namespace Telemetry.Client

structure Builder where
  config : Channel.Config
  serviceToken : Option String
  deriving DecidableEq

namespace Builder

def defaultUserAgent : String := "analytics-rs/0.1.0"

def ofConfig (c : Channel.Config) : Builder := ⟨c.withUserAgent defaultUserAgent, none⟩

def new (target : String) : Builder := ofConfig (.new target)

def forAddress (host : String) (port : UInt16) : Builder := ofConfig (.forAddress host port)

def withChannel (configure : Channel.Config → Channel.Config) (b : Builder) : Builder :=
  { b with config := configure b.config }

def withUserAgent (agent : String) (b : Builder) : Builder :=
  { b with config := b.config.withUserAgent agent }

def usePlaintext (b : Builder) : Builder := { b with config := b.config.withoutTls }

def withServiceToken (token : String) (b : Builder) : Builder := { b with serviceToken := some token }

/-- The decoded token, if there is one. -/
def token? (b : Builder) : Except ClientError (Option ServiceToken) :=
  ServiceToken.decodeIfGiven b.serviceToken

/-- An asynchronous client over a new channel that connects on first use. -/
def buildAsync (b : Builder) (s : Store) : Except ClientError (Asynchronous × Store) := do
  let token ← b.token?
  let (link, s) ← s.openLazily b.config
  return Asynchronous.withAuth link token s

def build (b : Builder) (s : Store) : Except ClientError (Adapter × Store) :=
  (b.buildAsync s).map fun (c, s) => (.fromAsync c, s)

/-- A blocking client, for which a runtime is started first. -/
def buildBlocking (start : Except String Runtime) (b : Builder) (s : Store) :
    Except ClientError (Blocking × Store) := Blocking.withRuntime start b.buildAsync s

/-- An adapter over a new channel that connects at once. -/
def connect (reaches : Uri → Bool) (b : Builder) (s : Store) : Attempt (Adapter × Store) := do
  let token ← b.token?
  let (link, s) ← s.connect reaches b.config b.config.address
  let (c, s) := Asynchronous.withAuth link token s
  return (.fromAsync c, s)

end Builder

/-- The client that a builder becomes in a form. -/
def Form.build (start : Except String Runtime) (b : Builder) (s : Store) :
    Form → Except ClientError (Client × Store)
  | asynchronous => (b.buildAsync s).map fun (c, s) => (.asynchronous c, s)
  | adapter => (b.build s).map fun (c, s) => (.adapter c, s)
  | blocking => (b.buildBlocking start s).map fun (c, s) => (.blocking c, s)

end Telemetry.Client
