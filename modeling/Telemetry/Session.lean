import Telemetry.Entries
import Telemetry.Json.Printer
import Telemetry.Session.Client
import Telemetry.Snapshot

/-!
# Sessions

The steps of a session make channels, clients and calls, use them and look at them, each by its name. A
step that fails leaves what its names stood for in place.
-/
namespace Telemetry.Session

/-- How a new channel connects. One that connects at once may have a name of its own. -/
inductive Opening where
  | lazily
  | atOnce
  | named (name : String)
  deriving DecidableEq

/-- What a new client is made from. -/
inductive Source where
  | channel (name : String) (token : Option String)
  | settings (config : Channel.Config)
  | client (name : String)
  | builder (b : Client.Builder)

inductive Step where
  | openChannel (name : String) (opening : Opening) (config : Channel.Config)
  | cloneChannel (name source : String)
  | shutdown (name : String)
  | channelState (name : String)
  | builder (b : Client.Builder)
  | makeClient (name : String) (form : Client.Form) (source : Source)
  | connectClient (name : String) (b : Client.Builder)
  | cloneClient (name source : String)
  | dropClient (name : String)
  | close (name : String)
  | state (name : String)
  | counters (name : String)
  | call (name : String) (method : Method)
  | callBehindInterface (name : String) (method : Method)
  | snapshot (name : String)
  | concurrent (name : String) (methods : List Method)
  | start (name : String) (method : Method) (call : String)
  | poll (call : String)
  | await (call : String)
  | drop (call : String)
  | requests

inductive Result where
  | done
  | flag (b : Bool)
  | channel (target : String) (closed : Bool)
  | config (c : Channel.Config)
  | state (s : Client.State) (shown : String)
  | counters (closed : Bool) (calls : UInt64)
  | reply (r : Reply Message)
  | document (r : Reply String)
  | replies (rs : List (Reply Message))
  | requests (rs : List Request)
  | pending
  | missing
  | refused (e : ClientError)

def remove {α : Type} (name : String) (entries : List (String × α)) : List (String × α) :=
  entries.filter (·.1 ≠ name)

def channel? (s : Session) (name : String) : Option Nat := Entries.get? name s.channels

def client? (s : Session) (name : String) : Option Client := Entries.get? name s.clients

/-- What can be seen of the client with a name. -/
def state? (s : Session) (name : String) : Option Client.State :=
  (s.client? name).bind (·.state? s.store)

def nameChannel (name : String) (link : Nat) (s : Session) : Session :=
  { s with channels := Entries.put name link s.channels }

def nameClient (name : String) (c : Client) (s : Session) : Session :=
  { s with clients := Entries.put name c s.clients }

/-- Gives a call up and forgets its name. -/
def dropCall (name : String) (s : Session) : Session :=
  match Entries.get? name s.calls with
  | none => s
  | some call => { s with store := s.store.drop call, calls := remove name s.calls }

def forgetCall (name : String) (s : Session) : Session := { s with calls := remove name s.calls }

def openChannel (opening : Opening) (c : Channel.Config) (s : Session) :
    Except ClientError Nat × Session :=
  match opening with
  | .lazily =>
    match s.store.openLazily c with
    | .error e => (.error e, s)
    | .ok (link, store) => (.ok link, s.setStore store)
  | .atOnce => s.settle (s.store.connect s.network.reaches c c.address)
  | .named name => s.settle (s.store.connect s.network.reaches c name)

/-- Why there is no client. -/
inductive NoClient where
  | missing
  | refused (e : ClientError)

/-- A client from a source. A token is decoded before a name is looked up. -/
def makeClient (form : Client.Form) (source : Source) (s : Session) :
    Except NoClient Client × Session :=
  match source with
  | .channel name token =>
    match ServiceToken.decodeIfGiven token with
    | .error e => (.error (.refused e), s)
    | .ok token =>
      match s.channel? name with
      | none => (.error .missing, s)
      | some link =>
        made (form.make s.runtime (fun store => .ok (Client.Asynchronous.withAuth link token store))
          s.store)
  | .settings config => made (form.make s.runtime (Client.Asynchronous.create config) s.store)
  | .client name =>
    match s.client? name with
    | none => (.error .missing, s)
    | some c => made (form.make s.runtime (fun store => .ok (c.inner, store)) s.store)
  | .builder b => made (form.build s.runtime b s.store)
where
  made : Except ClientError (Client × Store) → Except NoClient Client × Session
    | .error e => (.error (.refused e), s)
    | .ok (c, store) => (.ok c, s.setStore store)

/-- Whether a client is closed and how many calls it made. An adapter is asked behind its interface. -/
def counters? (store : Store) : Client → Option (Bool × UInt64)
  | .asynchronous c => pair (c.isClosed? store) (c.calls? store)
  | .adapter c => pair (c.interface.isClosed? store) (c.interface.calls? store)
  | .blocking c => pair (c.isClosed? store) (c.calls? store)
where
  pair : Option Bool → Option UInt64 → Option (Bool × UInt64)
    | some closed, some calls => some (closed, calls)
    | _, _ => none

/-- The document of a stats reply. -/
def document (r : Reply Message) : Reply String :=
  match r with
  | .success (.stats stats) => .success (Snapshot.ofStats stats).toJson.pretty
  | .success _ => .failure .missingMessage
  | .failure status => .failure status

def channelResult (s : Session) (link : Nat) : Result :=
  match s.store.link? link with
  | some l => .channel l.target l.closed
  | none => .missing

def perform (s : Session) : Step → Result × Session
  | .openChannel name opening config =>
    match s.openChannel opening config with
    | (.error e, s) => (.refused e, s)
    | (.ok link, s) => (s.channelResult link, s.nameChannel name link)
  | .cloneChannel name source =>
    match s.channel? source with
    | none => (.missing, s)
    | some link => (.done, s.nameChannel name link)
  | .shutdown name =>
    match s.channel? name with
    | none => (.missing, s)
    | some link =>
      let (now, store) := s.store.shutdown link
      (.flag now, s.setStore store)
  | .channelState name =>
    match s.channel? name with
    | none => (.missing, s)
    | some link => (s.channelResult link, s)
  | .builder b => (.config b.config, s)
  | .makeClient name form source =>
    match s.makeClient form source with
    | (.error .missing, s) => (.missing, s)
    | (.error (.refused e), s) => (.refused e, s)
    | (.ok c, s) => (.done, s.nameClient name c)
  | .connectClient name b =>
    match s.connect b with
    | (.error e, s) => (.refused e, s)
    | (.ok c, s) => (.done, s.nameClient name (.adapter c))
  | .cloneClient name source =>
    match s.client? source with
    | none => (.missing, s)
    | some c => (.done, s.nameClient name c)
  | .dropClient name =>
    (.flag (s.client? name).isSome, { s with clients := remove name s.clients })
  | .close name =>
    match s.client? name with
    | none => (.missing, s)
    | some c =>
      let (now, store) := c.close s.store
      (.flag now, s.setStore store)
  | .state name =>
    match s.client? name, s.state? name with
    | some c, some state => (.state state (.ofList (c.form.shown state)), s)
    | _, _ => (.missing, s)
  | .counters name =>
    match (s.client? name).bind (counters? s.store) with
    | some (closed, calls) => (.counters closed calls, s)
    | none => (.missing, s)
  | .call name method =>
    match s.client? name with
    | none => (.missing, s)
    | some c => replied .reply (c.call method s)
  | .callBehindInterface name method =>
    match s.client? name with
    | none => (.missing, s)
    | some (.adapter c) => replied .reply (c.interface.call method s)
    | some c => replied .reply (c.call method s)
  | .snapshot name =>
    match s.client? name with
    | none => (.missing, s)
    | some c => replied (fun r => .document (document r)) (c.call .stats s)
  | .concurrent name methods =>
    match s.client? name with
    | none => (.missing, s)
    | some c =>
      let (rs, s) := s.callAll c.inner methods
      (rs.elim .pending .replies, s.setStore { s.store with log := [] })
  | .start name method call =>
    match s.client? name with
    | none => (.missing, s)
    | some c =>
      let s := s.dropCall call
      let (id, store) := c.inner.call method s.store
      (.done, { s with store, calls := Entries.put call id s.calls })
  | .poll call =>
    match Entries.get? call s.calls with
    | none => (.missing, s)
    | some id =>
      match s.pollCall id with
      | (none, s) => (.pending, s)
      | (some r, s) => (.reply r, s.forgetCall call)
  | .await call =>
    match Entries.get? call s.calls with
    | none => (.missing, s)
    | some id => replied .reply ((s.forgetCall call).awaitCall id)
  | .drop call => (.flag (Entries.get? call s.calls).isSome, s.dropCall call)
  | .requests => (.requests s.store.requests, s)
where
  replied (result : Reply Message → Result) : Option (Reply Message) × Session → Result × Session
    | (none, s) => (.pending, s)
    | (some r, s) => (result r, s)

/-- What a step answers and reports. -/
structure Entry where
  result : Result
  log : List Event

/-- One step. Its events are those of the store's log, which starts empty. -/
def step (s : Session) (step : Step) : Entry × Session :=
  let (result, s) := (s.setStore { s.store with log := [] }).perform step
  (⟨result, s.store.log⟩, s)

end Telemetry.Session
