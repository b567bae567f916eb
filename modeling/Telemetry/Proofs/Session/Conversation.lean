import Telemetry.Proofs.Client.Effect
import Telemetry.Session.Client

/-!
# Conversations

A conversation is what a client comes down to when every call is waited for: a channel, a credential, a
counter, a network and the requests that arrived. Each call is refused, fails before it is sent, or is
sent once. What comes of it then is what the transport reports of the server's outcome, which is nothing
if a server stays silent and no time is set. A session carries a conversation if its store has the channel
and the counter of the client and its network is the same. Then a call in the session is a call in the
conversation.
-/
namespace Telemetry

/-- What the transport reports of a request that a server received: the message that the body decodes to, the
status that the server gave, or that the time is over. -/
inductive Server.Outcome.Reports (fault : MessageType → Wire.Bytes → String) (timeout : Option Duration)
    (method : Method) : Server.Outcome → Option (Reply Message) → Prop
  | message {bytes : Wire.Bytes} {m : Message} (h : Wire.decode? method.replyType bytes = some m) :
      Reports fault timeout method (.body bytes) (some (.success m))
  | unreadable {bytes : Wire.Bytes} (h : Wire.decode? method.replyType bytes = none) :
      Reports fault timeout method (.body bytes)
        (some (.failure ⟨.internal, fault method.replyType bytes⟩))
  | status {status : Status} (h : status.code ≠ .ok) :
      Reports fault timeout method (.status status) (some (.failure status))
  | noMessage {status : Status} (h : status.code = .ok) :
      Reports fault timeout method (.status status)
        (some (.failure ⟨.internal, "Missing response message."⟩))
  | timedOut {duration : Duration} (h : timeout = some duration) :
      Reports fault timeout method .silence (some (.failure ⟨.cancelled, "Timeout expired"⟩))
  | never (h : timeout = none) : Reports fault timeout method .silence none

theorem Server.Outcome.reports_reply? {outcome : Server.Outcome}
    (h : ∀ status, outcome ≠ .lost status) (fault : MessageType → Wire.Bytes → String)
    (timeout : Option Duration) (method : Method) :
    outcome.Reports fault timeout method (outcome.reply? fault timeout method) := by
  cases outcome with
  | body bytes =>
    simp only [reply?]
    split
    · next hdecode => exact .message hdecode
    · next hdecode => exact .unreadable hdecode
  | status s =>
    simp only [reply?]
    split
    · next hcode => exact .noMessage hcode
    · next hcode => exact .status hcode
  | silence =>
    cases timeout with
    | none => exact .never rfl
    | some duration => exact .timedOut rfl
  | lost status => exact absurd rfl (h status)

structure Conversation where
  link : Link
  token : Option ServiceToken
  calls : UInt64
  network : Network
  requests : List Request

namespace Conversation

/-- The conversation of a new client over a channel of its own. -/
def opened (network : Network) (c : Channel.Config) (uri : Uri) (token : Option ServiceToken) :
    Conversation :=
  ⟨⟨c.address, uri, c.userAgent.getD "", c.requestTimeout, false⟩, token, 0, network, []⟩

def counted (v : Conversation) : Conversation := { v with calls := v.calls + 1 }

/-- The conversation after an answer of the server. -/
def answered (server : Server) (v : Conversation) : Conversation :=
  { v with network := { v.network with server } }

def received (request : Request) (v : Conversation) : Conversation :=
  { v with requests := v.requests ++ [request] }

/-- Closes the channel. -/
def closed (v : Conversation) : Conversation := { v with link := { v.link with closed := true } }

/-- What comes of a request, which goes out once: it reaches nobody, it is lost on the way, or a server
receives it. -/
inductive Sends (v : Conversation) (request : Request) : Option (Reply Message) → Conversation → Prop
  | unreachable (hreaches : v.network.reaches v.link.uri = false) :
      Sends v request (some (.failure ⟨.unavailable, "tcp connect error"⟩)) v
  | lost (hreaches : v.network.reaches v.link.uri = true) {status : Status} {server : Server}
      (hanswer : v.network.server.answer request.method = (.lost status, server)) :
      Sends v request (some (.failure status)) (v.answered server)
  | received (hreaches : v.network.reaches v.link.uri = true) {outcome : Server.Outcome}
      {server : Server} (hanswer : v.network.server.answer request.method = (outcome, server))
      {reply? : Option (Reply Message)}
      (hreports : outcome.Reports v.network.fault v.link.requestTimeout request.method reply?) :
      Sends v request reply? ((v.answered server).received request)

/-- What comes of a call. On a closed channel it is refused and not counted, and a credential that cannot be
sent is noticed before anything goes out. -/
inductive Calls (v : Conversation) (method : Method) : Option (Reply Message) → Conversation → Prop
  | refused (hclosed : v.link.closed = true) :
      Calls v method (some (.failure ⟨.unavailable, "channel has been shut down"⟩)) v
  | unsendable (hopen : v.link.closed = false) {status : Status}
      (happly : Authorization.apply (v.token.map (·.token)) [] = .error status) :
      Calls v method (some (.failure status)) v.counted
  | sent (hopen : v.link.closed = false) {values : List String}
      (happly : Authorization.apply (v.token.map (·.token)) [] = .ok values)
      {reply? : Option (Reply Message)} {v' : Conversation}
      (hsends : v.counted.Sends ⟨method, values, v.link.userAgent⟩ reply? v') :
      Calls v method reply? v'

variable {v v' : Conversation} {request : Request} {method : Method} {reply? : Option (Reply Message)}

/-- A request arrives once or not at all. -/
theorem Sends.requests (h : v.Sends request reply? v') :
    v'.requests = v.requests ∨ v'.requests = v.requests ++ [request] := by
  cases h with
  | unreachable | lost => exact .inl rfl
  | received => exact .inr rfl

theorem Calls.requests (h : v.Calls method reply? v') : v'.requests = v.requests ∨
    ∃ request : Request, request.method = method ∧ v'.requests = v.requests ++ [request] := by
  cases h with
  | refused | unsendable => exact .inl rfl
  | sent _ _ hsends => exact hsends.requests.imp_right fun hmore => ⟨_, rfl, hmore⟩

theorem Sends.link (h : v.Sends request reply? v') : v'.link = v.link := by
  cases h <;> rfl

theorem Calls.link (h : v.Calls method reply? v') : v'.link = v.link := by
  cases h with
  | refused | unsendable => rfl
  | sent _ _ hsends => exact hsends.link

end Conversation

namespace Session

variable {s : Session} {c : Client.Asynchronous} {before : List Activity} {v : Conversation} {call : Nat}
  {method : Method} {request : Request}

/-- What a session shows of a conversation of a client that started after some activity. -/
structure Carries (s : Session) (c : Client.Asynchronous) (before : List Activity) (v : Conversation) :
    Prop where
  family : ∃ f, s.store.families[c.family]? = some f ∧ s.store.links[f.link]? = some v.link ∧
    f.token = v.token ∧ f.calls = v.calls
  network : s.network = v.network
  requests : s.store.requests = v.requests
  activity : s.activity = before ++ v.requests.map .received

/-- A session carries a conversation, and no request is on its way. -/
structure Rests (s : Session) (c : Client.Asynchronous) (before : List Activity) (v : Conversation) : Prop
    extends s.Carries c before v where
  quiet : s.onTheWay = []

/-- A new client of a builder starts a conversation. -/
theorem rests_added (network : Network) (before : List Activity) (b : Client.Builder)
    (token : Option ServiceToken) (uri : Uri) (event : Event) :
    Rests { Session.new network with store := (b.added token uri event .empty).2, activity := before }
      (b.added token uri event .empty).1 before (.opened network b.config uri token) :=
  ⟨⟨⟨⟨0, token, 0⟩, rfl, rfl, rfl, rfl⟩, rfl, rfl, (List.append_nil before).symm⟩, rfl⟩

/-- The call with a number is a client's call that has got so far. -/
def IsAt (s : Session) (c : Client.Asynchronous) (method : Method) (p : Call.Progress) (call : Nat) :
    Prop := s.store.calls[call]? = some ⟨c.family, method, p⟩

theorem IsAt.setProgress (store : Store) {p q : Call.Progress}
    (h : store.calls[call]? = some ⟨c.family, method, p⟩) :
    (store.setProgress call q).calls[call]? = some ⟨c.family, method, q⟩ :=
  Store.getElem?_setProgress_iff.mpr ⟨_, h, if_pos rfl⟩

/-- Counting a call of a client counts it in the conversation. -/
theorem Carries.count (h : s.Carries c before v) (store : Store)
    (hfamilies : store.families = (s.store.count c.family).families)
    (hlinks : store.links = s.store.links) (hrequests : store.requests = s.store.requests) :
    (s.setStore store).Carries c before v.counted := by
  obtain ⟨f, hf, hl, htoken, hcalls⟩ := h.family
  refine ⟨⟨{ f with calls := f.calls + 1 }, ?_, ?_, htoken, ?_⟩, h.network, ?_, h.activity⟩
  · change store.families[c.family]? = _
    rw [hfamilies]
    exact Store.getElem?_count_iff.mpr ⟨f, hf, if_pos rfl⟩
  · change store.links[f.link]? = _
    rw [hlinks, hl]
    rfl
  · change f.calls + 1 = _
    rw [hcalls]
    rfl
  · exact hrequests.trans h.requests

/-- What the store says of calls and of events does not matter to the conversation. -/
theorem Carries.of_store (h : s.Carries c before v) (store : Store)
    (hfamilies : store.families = s.store.families) (hlinks : store.links = s.store.links)
    (hrequests : store.requests = s.store.requests) : (s.setStore store).Carries c before v := by
  obtain ⟨f, hf, hl, htoken, hcalls⟩ := h.family
  refine ⟨⟨f, ?_, ?_, htoken, hcalls⟩, h.network, hrequests.trans h.requests, h.activity⟩
  · exact (congrArg (·[c.family]?) hfamilies).trans hf
  · exact (congrArg (·[f.link]?) hlinks).trans hl

/-- The conversation is the same while requests are on their way. -/
theorem Carries.setOnTheWay (h : s.Carries c before v) (onTheWay : List Nat) :
    { s with onTheWay }.Carries c before v := ⟨h.family, h.network, h.requests, h.activity⟩

theorem Carries.setServer (h : s.Carries c before v) (server : Server) :
    { s with network := { s.network with server } }.Carries c before (v.answered server) :=
  ⟨h.family, by rw [h.network]; rfl, h.requests, h.activity⟩

theorem isAt_start (s : Session) (c : Client.Asynchronous) (method : Method) :
    (s.setStore (c.issue s.store method).2).IsAt c method .created (c.issue s.store method).1 :=
  List.getElem?_concat_length

theorem Carries.poll_created (h : s.Carries c before v) (hat : s.IsAt c method .created call) :
    ∃ f, f.token = v.token ∧ s.store.poll call = s.store.firstPoll call c.family f v.link method := by
  obtain ⟨f, hf, hl, htoken, -⟩ := h.family
  refine ⟨f, htoken, ?_⟩
  have hcall : s.store.calls[call]? = some ⟨c.family, method, .created⟩ := hat
  simp only [Store.poll, Store.call?, Store.linkOf?, Store.family?, Store.link?, hcall, hf, hl,
    Option.bind_some]

/-- The poll of a call that still waits changes nothing. -/
theorem Carries.pollCall_waiting (h : s.Carries c before v)
    (hat : s.IsAt c method (.waiting request) call) : s.pollCall call = (none, s) := by
  obtain ⟨f, hf, hl, -⟩ := h.family
  have hcall : s.store.calls[call]? = some ⟨c.family, method, .waiting request⟩ := hat
  have hpoll : s.store.poll call = (none, s.store) := by
    simp only [Store.poll, Store.call?, Store.linkOf?, Store.family?, Store.link?, hcall, hf, hl,
      Option.bind_some]
  have hpolled : s.store.isUnpolled call = false := by
    rw [Store.isUnpolled, Store.call?, hcall]
    rfl
  simp only [pollCall, hpoll, hpolled, Bool.false_eq_true, if_false]

/-- The poll of a call that was answered ends it. -/
theorem Rests.pollCall_answered (h : s.Rests c before v) {reply : Reply Message}
    (hat : s.IsAt c method (.answered reply) call) :
    ∃ s', s.pollCall call = (some reply, s') ∧ s'.Rests c before v := by
  obtain ⟨f, hf, hl, -⟩ := h.family
  have hcall : s.store.calls[call]? = some ⟨c.family, method, .answered reply⟩ := hat
  have hpoll : s.store.poll call =
      (some reply, s.store.finish call method v.link.target reply) := by
    simp only [Store.poll, Store.call?, Store.linkOf?, Store.family?, Store.link?, hcall, hf, hl,
      Option.bind_some]
  refine ⟨s.setStore (s.store.finish call method v.link.target reply), ?_, ?_, h.quiet⟩
  · rw [pollCall, hpoll]
  · cases reply <;> exact h.toCarries.of_store _ rfl rfl rfl

/-- A request that comes to nothing leaves the conversation as it is. -/
theorem Carries.fail (h : s.Carries c before v) (status : Status)
    (hat : s.IsAt c method (.waiting request) call) :
    (s.setStore (s.store.fail call status)).Carries c before v ∧
      (s.setStore (s.store.fail call status)).IsAt c method (.answered (.failure status)) call := by
  have hfail : s.store.fail call status =
      s.store.setProgress call (.answered (.failure status)) := by
    rw [Store.fail, Store.waiting?_eq_some_iff.mpr ⟨_, hat, rfl⟩]
  rw [hfail]
  exact ⟨h.of_store _ rfl rfl rfl, IsAt.setProgress _ hat⟩

/-- How far a call has come whose request was sent. -/
def progress (request : Request) : Option (Reply Message) → Call.Progress
  | some reply => .answered reply
  | none => .waiting request

/-- A request that a server receives is one more in the conversation. -/
theorem Carries.receive (h : s.Carries c before v) (reply? : Option (Reply Message))
    (hat : s.IsAt c method (.waiting request) call) :
    (s.receive call request reply?).Carries c before (v.received request) ∧
      (s.receive call request reply?).IsAt c method (progress request reply?) call := by
  have hactivity : s.activity ++ [.received request] =
      before ++ (v.received request).requests.map .received := by
    rw [h.activity, Conversation.received, List.map_append, List.append_assoc]
    rfl
  have hrequests : s.store.requests ++ [request] = (v.received request).requests :=
    congrArg (· ++ [request]) h.requests
  cases reply? with
  | none => exact ⟨⟨h.family, h.network, hrequests, hactivity⟩, hat⟩
  | some reply =>
    have hserve : s.store.serve call reply =
        (s.store.receive request).setProgress call (.answered reply) := by
      rw [Store.serve, Store.waiting?_eq_some_iff.mpr ⟨_, hat, rfl⟩]
    simp only [Session.receive, hserve]
    exact ⟨⟨h.family, h.network, hrequests, hactivity⟩, IsAt.setProgress _ hat⟩

/-- A request that is on its way is sent in the conversation when it is delivered. -/
theorem Carries.deliver (h : s.Carries c before v) (hat : s.IsAt c method (.waiting request) call) :
    ∃ reply? v', v.Sends request reply? v' ∧ (s.deliver call).Carries c before v' ∧
      (s.deliver call).IsAt c method (progress request reply?) call := by
  obtain ⟨f, hf, hl, -⟩ := h.family
  have hcall : s.store.calls[call]? = some ⟨c.family, method, .waiting request⟩ := hat
  have hwaiting : s.store.waiting? call = some request :=
    Store.waiting?_eq_some_iff.mpr ⟨_, hcall, rfl⟩
  have hroute : s.store.route? call = some v.link := by
    rw [Store.route?, Store.call?, hcall, Option.bind_some, Client.Asynchronous.linkOf?_eq hf hl]
  simp only [Session.deliver, hwaiting, hroute, h.network]
  cases hreaches : v.network.reaches v.link.uri with
  | false =>
    simp only [Bool.false_eq_true, if_false]
    exact ⟨_, _, .unreachable hreaches, h.fail .connectionRefused hat⟩
  | true =>
    simp only [if_true]
    cases hanswer : v.network.server.answer request.method with | mk outcome server =>
    have hserver := h.setServer server
    rw [h.network] at hserver
    by_cases hlost : ∃ status, outcome = .lost status
    · obtain ⟨status, rfl⟩ := hlost
      exact ⟨_, _, .lost hreaches hanswer, hserver.fail status hat⟩
    · have hreports := Server.Outcome.reports_reply? (not_exists.mp hlost) v.network.fault
        v.link.requestTimeout request.method
      refine ⟨_, _, .received hreaches hanswer hreports, ?_⟩
      cases outcome with
      | lost status => exact absurd ⟨status, rfl⟩ hlost
      | _ => exact hserver.receive _ hat

/-- A request that is the only one on its way is sent when all are delivered. -/
theorem Carries.deliverAll (h : s.Carries c before v) (hway : s.onTheWay = [call])
    (hat : s.IsAt c method (.waiting request) call) :
    ∃ reply? v', v.Sends request reply? v' ∧ s.deliverAll.Rests c before v' ∧
      s.deliverAll.IsAt c method (progress request reply?) call := by
  obtain ⟨reply?, v', hsends, hcarries, hprogress⟩ := h.deliver hat
  rw [Session.deliverAll, hway]
  exact ⟨reply?, v', hsends, ⟨hcarries.setOnTheWay [], rfl⟩, hprogress⟩

/-- A call that is waited for from its start on is a call in the conversation. -/
theorem Rests.awaitCall (h : s.Rests c before v) (hat : s.IsAt c method .created call) :
    ∃ reply? s' v', s.awaitCall call = (reply?, s') ∧ v.Calls method reply? v' ∧
      s'.Rests c before v' := by
  obtain ⟨f, htoken, hpoll⟩ := h.toCarries.poll_created hat
  have hunpolled : s.store.isUnpolled call = true := by
    have hcall : s.store.calls[call]? = some ⟨c.family, method, .created⟩ := hat
    rw [Store.isUnpolled, Store.call?, hcall]
    rfl
  rw [Session.awaitCall, Session.pollCall, hpoll, Store.firstPoll, htoken]
  cases hclosed : v.link.closed with
  | true => exact ⟨_, _, v, rfl, .refused hclosed, h.toCarries.of_store _ rfl rfl rfl, h.quiet⟩
  | false =>
    simp only [Bool.false_eq_true, if_false]
    cases happly : Authorization.apply (v.token.map (·.token)) [] with
    | error status =>
      exact ⟨_, _, _, rfl, .unsendable hclosed happly, h.toCarries.count _ rfl rfl rfl, h.quiet⟩
    | ok values =>
      -- the request goes out and arrives before the second poll
      let counted := (s.store.count c.family).report (.callIssued method v.link.target (f.calls + 1))
      let request : Request := ⟨method, values, v.link.userAgent⟩
      let sent := counted.setProgress call (.waiting request)
      have hsent : { s with store := sent, onTheWay := [call] }.Carries c before v.counted :=
        (h.toCarries.count sent rfl rfl rfl).setOnTheWay [call]
      have hwaiting : { s with store := sent, onTheWay := [call] }.IsAt c method (.waiting request)
          call := IsAt.setProgress counted hat
      obtain ⟨reply?, v', hsends, hrests, hprogress⟩ := hsent.deliverAll rfl hwaiting
      simp only [hunpolled, h.quiet, if_true, List.nil_append]
      cases reply? with
      | none =>
        exact ⟨_, _, v', hrests.pollCall_waiting hprogress, .sent hclosed happly hsends, hrests⟩
      | some reply =>
        obtain ⟨s', hanswered, hrests'⟩ := hrests.pollCall_answered hprogress
        exact ⟨_, s', v', hanswered, .sent hclosed happly hsends, hrests'⟩

theorem Rests.await (h : s.Rests c before v) (method : Method) :
    ∃ reply? s' v', s.await (c.call method) = (reply?, s') ∧ v.Calls method reply? v' ∧
      s'.Rests c before v' := by
  have hissue : c.call method = fun store => c.issue store method := by
    cases method <;> rfl
  rw [Session.await, hissue]
  exact Rests.awaitCall ⟨h.toCarries.of_store _ rfl rfl rfl, h.quiet⟩ (isAt_start s c method)

/-- The channel of a client is that of the conversation, and closing it closes that. -/
theorem Rests.close (h : s.Rests c before v) : (c.close s.store).1 = !v.link.closed ∧
    (s.setStore (c.close s.store).2).Rests c before v.closed := by
  obtain ⟨f, hf, hl, htoken, hcalls⟩ := h.family
  rw [Client.Asynchronous.close_eq hf, Conversation.closed]
  simp only [Store.shutdown, Store.link?, hl]
  cases hclosed : v.link.closed with
  | true =>
    have hlink : { v.link with closed := true } = v.link := by rw [← hclosed]
    rw [hlink]
    exact ⟨rfl, h.toCarries.of_store _ rfl rfl rfl, h.quiet⟩
  | false =>
    have hset : (s.store.links.set f.link { v.link with closed := true })[f.link]? =
        some { v.link with closed := true } := by
      rw [List.getElem?_set_self (List.getElem?_eq_some_iff.mp hl).1]
    exact ⟨rfl, ⟨⟨f, hf, hset, htoken, hcalls⟩, h.network, h.requests, h.activity⟩, h.quiet⟩

theorem Carries.calls? (h : s.Carries c before v) : c.calls? s.store = some v.calls := by
  obtain ⟨f, hf, -, -, hcalls⟩ := h.family
  rw [Client.Asynchronous.calls?_eq hf, hcalls]

theorem Carries.isClosed? (h : s.Carries c before v) : c.isClosed? s.store = some v.link.closed := by
  obtain ⟨f, hf, hl, -⟩ := h.family
  exact Client.Asynchronous.isClosed?_eq hf hl

theorem Carries.target? (h : s.Carries c before v) : c.target? s.store = some v.link.target := by
  obtain ⟨f, hf, hl, -⟩ := h.family
  exact Client.Asynchronous.target?_eq hf hl

end Session
end Telemetry
