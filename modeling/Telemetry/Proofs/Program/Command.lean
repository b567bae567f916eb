import Telemetry.Program
import Telemetry.Proofs.Report
import Telemetry.Proofs.Session.Conversation
import Telemetry.Proofs.Settings
import Telemetry.Proofs.Snapshot

/-!
# Commands succeed or do nothing

A command either makes its one call and then writes all that there is to say, or it fails and has
written nothing. Its settings are judged before it turns to the network: the token first, then the
address, the server's name and the user agent. A command whose request a server never answers has
neither succeeded nor failed; it waits, and has written nothing.
-/
namespace Telemetry

theorem Wire.type_of_decode? {type : MessageType} {bytes : Wire.Bytes} {m : Message}
    (h : Wire.decode? type bytes = some m) : m.type = type := by
  cases type <;> obtain ⟨_, -, rfl⟩ := Option.map_eq_some_iff.mp h <;> rfl

namespace Command

open Session

/-- The lines of the report on an acknowledgement from a target. -/
def ackLines (color : Bool) (target : String) (a : Ack) : List Report.Line :=
  [.title false "Connection", .row "Target" 4 target.toList,
    .row "Connected" 1
      (if a.connected then Style.green.paint color "yes".toList
        else Style.red.paint color "no".toList),
    .row "Instance" 2
      (if a.instanceUuid = "" then Style.dimmed.paint color "(unknown)".toList
        else a.instanceUuid.toList)]

/-- The complete output of a command on a message: the report on an acknowledgement or on a snapshot, or the
text of a snapshot, which says the document of the response. -/
inductive Prints (color : Bool) (target : String) : Command → Message → String → Prop
  | ack (a : Ack) :
      Prints color target .ack (.ack a) (.ofList ((ackLines color target a).flatMap (·.print color)))
  | report (r : Stats) : Prints color target (.stats false) (.stats r)
      (.ofList ((Report.lines (.ofStats r)).flatMap (·.print color)))
  | document (r : Stats) {date : Option (List Char)} (hdate : Snapshot.DateText r.snapshotDate date)
      (hread : ∀ j, Json.Says (Snapshot.ofStats r).toJson.pretty j ↔ j = Snapshot.document r date) :
      Prints color target (.stats true) (.stats r) ((Snapshot.ofStats r).toJson.pretty ++ "\n")

theorem join_map_ofList (texts : List (List Char)) :
    String.join (texts.map .ofList) = .ofList texts.flatten := by
  induction texts with
  | nil => rfl
  | cons text texts ih =>
    rw [List.map_cons, String.join_cons, ih, List.flatten_cons, String.ofList_append]

theorem join_singleton (text : String) : String.join [text] = text := by
  rw [String.join_cons, String.join_nil, String.append_empty]

theorem join_ofAck (color : Bool) (target : String) (a : Ack) :
    String.join (Report.ofAck color target a) =
      .ofList ((ackLines color target a).flatMap (·.print color)) := by
  have hunknown : Report.unknown = "(unknown)".toList := rfl
  simp only [Report.ofAck, join_map_ofList, ackLines, List.flatMap_cons, List.flatMap_nil,
    List.flatten_cons, List.flatten_nil, Report.Line.print_title, Report.Line.print_row,
    Bool.false_eq_true, if_false, List.nil_append, String.isEmpty_iff, hunknown]

/-- A command has its complete output for every message of the kind that it asks for. -/
theorem exists_output (color : Bool) (target : String) (command : Command) {m : Message}
    (h : m.type = command.method.replyType) : ∃ texts, command.output? color target m = some texts ∧
      Prints color target command m (String.join texts) := by
  cases command with
  | ack =>
    cases m with
    | ack a => exact ⟨_, rfl, by rw [join_ofAck]; exact .ack a⟩
    | _ => cases h
  | stats json =>
    cases m with
    | stats r =>
      cases json with
      | true =>
        obtain ⟨date, hdate, hjson⟩ := Snapshot.exists_toJson_eq r
        refine ⟨_, rfl, ?_⟩
        rw [join_singleton]
        exact .document r hdate fun j => hjson ▸ Snapshot.says_pretty_iff r j
      | false =>
        refine ⟨_, rfl, ?_⟩
        rw [join_singleton, ← String.ofList_toList (s := Report.ofSnapshot color (.ofStats r)),
          Report.toList_ofSnapshot]
        exact .report r
    | _ => cases h

section Connect

variable {b : Client.Builder} {e : ClientError} {token : Option ServiceToken} {uri : Uri}

theorem connect_of_check_error (h : b.check = .error e) (network : Network) :
    (Session.new network).connect b = (.error e, Session.new network) := by
  rw [Session.connect, b.connect_of_check_error h]
  rfl

theorem connect_of_unreachable (h : b.check = .ok (token, uri)) {network : Network}
    (hreaches : network.reaches uri = false) : (Session.new network).connect b =
      (.error (.connectionFailed (b.config.address ++ ": transport error")),
        (Session.new network).note [.connecting b.config]) := by
  rw [Session.connect, show (Session.new network).network.reaches = network.reaches from rfl,
    b.connect_of_unreachable h hreaches]
  rfl

/-- A connection that comes about starts a conversation. -/
theorem exists_connect_of_check (h : b.check = .ok (token, uri)) {network : Network}
    (hreaches : network.reaches uri = true) : ∃ c s,
      (Session.new network).connect b = (.ok (.fromAsync c), s) ∧
        s.Rests c [.connecting b.config] (.opened network b.config uri token) := by
  let made := b.added token uri b.connected .empty
  have hconnect : (Session.new network).connect b = (.ok (.fromAsync made.1),
      ((Session.new network).setStore made.2).note [.connecting b.config]) := by
    rw [Session.connect, show (Session.new network).network.reaches = network.reaches from rfl,
      b.connect_of_check h hreaches]
    rfl
  exact ⟨_, _, hconnect, rests_added network [.connecting b.config] b token uri b.connected⟩

end Connect

/-- The values that a request has for the credential if it goes out: nothing is wrong with the token or the
channel of a builder, the server is within reach and the token can be sent. -/
inductive GoesOut (b : Client.Builder) (network : Network) (values : List String) : Prop
  | intro {token : Option ServiceToken} {uri : Uri} (htoken : b.token? = .ok token)
      (hendpoint : b.config.endpoint = .ok uri) (hreaches : network.reaches uri = true)
      (happly : Authorization.apply (token.map (·.token)) [] = .ok values)

/-- The request of a command whose client a builder makes. -/
def requestOf (b : Client.Builder) (command : Command) (values : List String) : Request :=
  ⟨command.method, values, b.config.userAgent.getD ""⟩

/-- What becomes of a command's request by the outcome at the server. -/
inductive Concludes (color : Bool) (target : String) (fault : MessageType → Wire.Bytes → String)
    (command : Command) (request : Request) :
    Server.Outcome → Option (Except Failure Unit) → List Activity → Prop
  | lost (status : Status) : Concludes color target fault command request (.lost status)
      (some (.error (.call command.method status))) []
  | failed {outcome : Server.Outcome} {status : Status}
      (h : outcome.Reports fault none command.method (some (.failure status))) :
      Concludes color target fault command request outcome
        (some (.error (.call command.method status))) [.received request]
  | waits : Concludes color target fault command request .silence none [.received request]
  | succeeded {bytes : Wire.Bytes} {m : Message} {texts : List String}
      (hdecode : Wire.decode? command.method.replyType bytes = some m)
      (hprints : Prints color target command m (String.join texts)) :
      Concludes color target fault command request (.body bytes) (some (.ok ()))
        (.received request :: texts.map .wrote)

/-- What becomes of a command whose client a builder makes. -/
inductive Ends (color : Bool) (b : Client.Builder) (command : Command) (network : Network) :
    Option (Except Failure Unit) → List Activity → Prop
  | refused {e : ClientError} (h : b.check = .error e) :
      Ends color b command network (some (.error (.client e))) []
  | unreachable {token : Option ServiceToken} {uri : Uri}
      (hcheck : b.check = .ok (token, uri)) (hreaches : network.reaches uri = false)
      (detail : String) : Ends color b command network
        (some (.error (.client (.connectionFailed detail)))) [.connecting b.config]
  | unsendable {token : Option ServiceToken} {uri : Uri}
      (hcheck : b.check = .ok (token, uri)) {status : Status}
      (happly : Authorization.apply (token.map (·.token)) [] = .error status) :
      Ends color b command network (some (.error (.call command.method status)))
        [.connecting b.config]
  | sent {values : List String} (hout : GoesOut b network values)
      {result : Option (Except Failure Unit)} {activity : List Activity}
      (h : Concludes color b.config.address network.fault command
        (requestOf b command values) (network.server.answer command.method).1 result activity) :
      Ends color b command network result (.connecting b.config :: activity)

variable {color : Bool} {b : Client.Builder} {command : Command} {network : Network}

theorem call_fromAsync (c : Client.Asynchronous) (method : Method) (s : Session) :
    (Client.Adapter.fromAsync c).call method s = s.await (c.call method) := by
  cases method <;> rfl

/-- What a command makes of a reply. -/
def concluded (color : Bool) (target : String) (command : Command) (s : Session) :
    Option (Reply Message) → Option (Except Failure Unit) × Session
  | none => (none, s)
  | some (.failure status) => (some (.error (.call command.method status)), s)
  | some (.success m) =>
    match output? color target command m with
    | some texts => (some (.ok ()), s.print texts)
    | none => (some (.error (.call command.method .missingMessage)), s)

/-- A command that has a connection makes its call and concludes from the reply. -/
theorem run_of_connect {settings : Settings} {c : Client.Asynchronous} {s s' : Session}
    {reply? : Option (Reply Message)}
    (hconnect : (Session.new network).connect settings.builder = (.ok (.fromAsync c), s))
    (hawait : s.await (c.call command.method) = (reply?, s')) :
    command.run color settings (Session.new network) =
      concluded color ((c.target? s'.store).getD "") command s' reply? := by
  rw [run, hconnect]
  simp only [call_fromAsync, hawait]
  rcases reply? with _ | m | status <;> rfl

/-- A command concludes from what is reported of its request. -/
theorem concludes_of_reports {request : Request} {outcome : Server.Outcome}
    {reply? : Option (Reply Message)} {fault : MessageType → Wire.Bytes → String}
    (h : outcome.Reports fault none command.method reply?) (target : String) (s : Session) :
    ∃ result activity, (concluded color target command s reply?).1 = result ∧
      (concluded color target command s reply?).2.activity = s.activity ++ activity ∧
      Concludes color target fault command request outcome result (.received request :: activity) := by
  cases h with
  | @message bytes m hdecode =>
    obtain ⟨texts, houtput, hprints⟩ :=
      exists_output color target command (Wire.type_of_decode? hdecode)
    refine ⟨_, texts.map .wrote, ?_, ?_, .succeeded hdecode hprints⟩
    · simp only [concluded, houtput]
    · simp only [concluded, houtput]
      rfl
  | unreadable hdecode =>
    exact ⟨_, [], rfl, (List.append_nil _).symm, .failed (.unreadable hdecode)⟩
  | status hcode => exact ⟨_, [], rfl, (List.append_nil _).symm, .failed (.status hcode)⟩
  | noMessage hcode => exact ⟨_, [], rfl, (List.append_nil _).symm, .failed (.noMessage hcode)⟩
  | never => exact ⟨_, [], rfl, (List.append_nil _).symm, .waits⟩
  | timedOut h => cases h

/-- A command whose call is a call in the conversation that its builder opens ends in one of the ways. -/
theorem ends_of_calls (hpatient : b.config.requestTimeout = none) {token : Option ServiceToken}
    {uri : Uri} (hcheck : b.check = .ok (token, uri)) (hreaches : network.reaches uri = true)
    {reply? : Option (Reply Message)} {v : Conversation}
    (hcalls : (Conversation.opened network b.config uri token).Calls command.method
      reply? v) {s : Session}
    (hactivity : s.activity = .connecting b.config :: v.requests.map .received) :
    Ends color b command network
      (concluded color b.config.address command s reply?).1
      (concluded color b.config.address command s reply?).2.activity := by
  obtain ⟨htoken, hendpoint⟩ := Client.Builder.check_eq_ok_iff.mp hcheck
  cases hcalls with
  | refused hclosed => cases hclosed
  | unsendable _ happly =>
    rw [concluded, hactivity]
    exact .unsendable hcheck happly
  | sent _ happly hsends =>
    have hout : GoesOut b network _ := .intro htoken hendpoint hreaches happly
    cases hsends with
    | unreachable hnot => cases hreaches.symm.trans hnot
    | lost _ hanswer =>
      rw [concluded, hactivity]
      refine .sent hout ?_
      rw [show network.server.answer command.method = _ from hanswer]
      exact .lost _
    | received _ hanswer hreports =>
      have htimeout :
          (Conversation.opened network b.config uri token).counted.link.requestTimeout = none := hpatient
      rw [htimeout] at hreports
      obtain ⟨result, activity, hresult, hmore, hconcludes⟩ :=
        concludes_of_reports hreports b.config.address s
      rw [hresult, hmore, hactivity]
      refine .sent hout ?_
      rw [show network.server.answer command.method = _ from hanswer]
      exact hconcludes

theorem run_ends (color : Bool) (settings : Settings) (command : Command) (network : Network) :
    Ends color settings.builder command network
      (command.run color settings (Session.new network)).1
      (command.run color settings (Session.new network)).2.activity := by
  cases hcheck : settings.builder.check with
  | error e =>
    rw [run, connect_of_check_error hcheck]
    exact .refused hcheck
  | ok checked =>
    obtain ⟨token, uri⟩ := checked
    cases hreaches : network.reaches uri with
    | false =>
      rw [run, connect_of_unreachable hcheck hreaches]
      exact .unreachable hcheck hreaches _
    | true =>
      obtain ⟨c, s, hconnect, hrests⟩ := exists_connect_of_check hcheck hreaches
      obtain ⟨reply?, s', v, hawait, hcalls, hrests'⟩ := hrests.await command.method
      have htarget : (c.target? s'.store).getD "" = settings.builder.config.address := by
        rw [hrests'.target?, hcalls.link]
        rfl
      rw [run_of_connect hconnect hawait, htarget]
      exact ends_of_calls settings.requestTimeout_builder hcheck hreaches hcalls hrests'.activity

theorem GoesOut.check {values : List String} (h : GoesOut b network values) :
    ∃ token uri, b.check = .ok (token, uri) ∧ network.reaches uri = true ∧
      Authorization.apply (token.map (·.token)) [] = .ok values := by
  obtain ⟨htoken, hendpoint, hreaches, happly⟩ := h
  exact ⟨_, _, Client.Builder.check_eq_ok_iff.mpr ⟨htoken, hendpoint⟩, hreaches, happly⟩

variable {result : Option (Except Failure Unit)} {activity : List Activity}

/-- If its request goes out, the outcome at the server decides what becomes of a command. -/
theorem Ends.concludes (h : Ends color b command network result activity) {values : List String}
    (hout : GoesOut b network values) : ∃ values rest,
      Concludes color b.config.address network.fault command
        (requestOf b command values) (network.server.answer command.method).1 result rest := by
  obtain ⟨token, uri, hcheck, hreaches, happly⟩ := hout.check
  cases h with
  | refused hrefused => cases hrefused.symm.trans hcheck
  | unreachable hcheck' hnot =>
    cases hcheck'.symm.trans hcheck
    cases hnot.symm.trans hreaches
  | unsendable hcheck' hnot =>
    cases hcheck'.symm.trans hcheck
    cases hnot.symm.trans happly
  | sent _ hconcludes => exact ⟨_, _, hconcludes⟩

/-- A command has its complete output on what a server answers. -/
inductive Answered (color : Bool) (b : Client.Builder) (command : Command) (network : Network)
    (text : String) : Prop
  | intro {bytes : Wire.Bytes} {m : Message}
      (hanswer : (network.server.answer command.method).1 = .body bytes)
      (hdecode : Wire.decode? command.method.replyType bytes = some m)
      (hprints : Prints color b.config.address command m text)

/-- What holds of the result and the activity of a command whose client a builder makes. -/
structure AllOrNothing (color : Bool) (b : Client.Builder) (command : Command) (network : Network)
    (result : Option (Except Failure Unit)) (activity : List Activity) : Prop where
  /-- A command succeeds just if its request goes out and is answered with a message of its kind. -/
  success_iff : result = some (.ok ()) ↔ ∃ values bytes m, GoesOut b network values ∧
    (network.server.answer command.method).1 = .body bytes ∧
      Wire.decode? command.method.replyType bytes = some m
  /-- With success a server has received one request, and after that the complete output was written. -/
  success : result = some (.ok ()) → ∃ values texts, GoesOut b network values ∧
    Answered color b command network (String.join texts) ∧
      activity = .connecting b.config :: .received (requestOf b command values) ::
        texts.map .wrote
  /-- With a failure a server has received one request or none, and nothing was written. -/
  failure : ∀ e, result = some (.error e) →
    activity = [] ∨ activity = [.connecting b.config] ∨
      ∃ values, GoesOut b network values ∧ activity =
        [.connecting b.config, .received (requestOf b command values)]
  /-- There is no result just if the request goes out to a server that stays silent. -/
  waits_iff : result = none ↔ ∃ values, GoesOut b network values ∧
    (network.server.answer command.method).1 = .silence
  waits : result = none → ∃ values, GoesOut b network values ∧ activity =
    [.connecting b.config, .received (requestOf b command values)]
  /-- A token that cannot be decoded is what is reported, and no connection is tried. -/
  token : ∀ text e, b.serviceToken = some text → ServiceToken.decode text = .error e →
    result = some (.error (.client e)) ∧ activity = []
  /-- Nor is one tried if anything is wrong with the address, the name of the server or the user agent. -/
  channel : ∀ token e, b.token? = .ok token → b.config.endpoint = .error e →
    result = some (.error (.client e)) ∧ activity = []

theorem Ends.of_check_error (h : Ends color b command network result activity) {e : ClientError}
    (hcheck : b.check = .error e) :
    result = some (.error (.client e)) ∧ activity = [] := by
  cases h with
  | refused h =>
    cases h.symm.trans hcheck
    exact ⟨rfl, rfl⟩
  | unreachable h => cases h.symm.trans hcheck
  | unsendable h => cases h.symm.trans hcheck
  | sent hout =>
    obtain ⟨token, uri, h, -⟩ := hout.check
    cases h.symm.trans hcheck

/-- What a command did that succeeded. -/
theorem Ends.success (h : Ends color b command network (some (.ok ())) activity) :
    ∃ values texts, GoesOut b network values ∧
      Answered color b command network (String.join texts) ∧
      activity = .connecting b.config :: .received (requestOf b command values) ::
        texts.map .wrote := by
  cases h with
  | sent hout hconcludes =>
    generalize hanswer : (network.server.answer command.method).1 = outcome at hconcludes
    cases hconcludes with
    | succeeded hdecode hprints => exact ⟨_, _, hout, .intro hanswer hdecode hprints, rfl⟩

/-- What a command did that waits. -/
theorem Ends.waits (h : Ends color b command network none activity) :
    ∃ values, GoesOut b network values ∧ (network.server.answer command.method).1 = .silence ∧
      activity =
        [.connecting b.config, .received (requestOf b command values)] := by
  cases h with
  | sent hout hconcludes =>
    generalize (network.server.answer command.method).1 = outcome at hconcludes ⊢
    cases hconcludes with
    | waits => exact ⟨_, hout, rfl, rfl⟩

theorem Ends.allOrNothing (h : Ends color b command network result activity) :
    AllOrNothing color b command network result activity := by
  constructor
  case success_iff =>
    constructor
    · rintro rfl
      obtain ⟨values, -, hout, ⟨hbody, hdecode, -⟩, -⟩ := h.success
      exact ⟨values, _, _, hout, hbody, hdecode⟩
    · rintro ⟨values, bytes, m, hout, hbody, hdecode⟩
      obtain ⟨values', rest, hconcludes⟩ := h.concludes hout
      rw [hbody] at hconcludes
      cases hconcludes with
      | failed hreports =>
        cases hreports with
        | unreadable hnone => cases hnone.symm.trans hdecode
      | succeeded => rfl
  case success =>
    rintro rfl
    exact h.success
  case failure =>
    rintro e rfl
    cases h with
    | refused => exact .inl rfl
    | unreachable | unsendable => exact .inr (.inl rfl)
    | sent hout hconcludes =>
      generalize (network.server.answer command.method).1 = outcome at hconcludes
      cases hconcludes with
      | lost => exact .inr (.inl rfl)
      | failed => exact .inr (.inr ⟨_, hout, rfl⟩)
  case waits_iff =>
    constructor
    · rintro rfl
      obtain ⟨values, hout, hsilence, -⟩ := h.waits
      exact ⟨values, hout, hsilence⟩
    · rintro ⟨values, hout, hsilence⟩
      obtain ⟨values', rest, hconcludes⟩ := h.concludes hout
      rw [hsilence] at hconcludes
      cases hconcludes with
      | failed hreports =>
        cases hreports with
        | timedOut htimeout => cases htimeout
      | waits => rfl
  case waits =>
    rintro rfl
    obtain ⟨values, hout, -, hactivity⟩ := h.waits
    exact ⟨values, hout, hactivity⟩
  case token =>
    intro text e htext he
    exact h.of_check_error (Client.Builder.check_of_decode_error htext he)
  case channel =>
    exact fun token e htoken he => h.of_check_error (Client.Builder.check_of_endpoint_error htoken he)

/-- What a process shows of a command: the log and after it the complete output if there is one. It has a
code once there is a result. -/
inductive Shows (b : Client.Builder) (command : Command) (network : Network) (log : String) :
    Option (Except Failure Unit) → Program.Exit → Prop
  | success {text : String} (h : Answered false b command network text) (errors : String) :
      Shows b command network log (some (.ok ())) ⟨some 0, log ++ text, errors⟩
  | failure (e : Failure) (errors : String) :
      Shows b command network log (some (.error e)) ⟨some 1, log, errors⟩
  | waits (errors : String) : Shows b command network log none ⟨none, log, errors⟩

theorem AllOrNothing.answered {s : Session}
    (h : AllOrNothing color b command network (some (.ok ())) s.activity) :
    Answered color b command network s.output := by
  obtain ⟨values, texts, -, hanswered, hactivity⟩ := h.success rfl
  have houtput : s.output = String.join texts := by
    rw [Session.output, hactivity]
    simp [List.filterMap_map]
  exact houtput ▸ hanswered

theorem AllOrNothing.output {s : Session}
    (h : AllOrNothing color b command network result s.activity)
    (hresult : result ≠ some (.ok ())) : s.output = "" := by
  rw [Session.output]
  rcases result with _ | e | ⟨⟩
  · obtain ⟨values, -, hactivity⟩ := h.waits rfl
    rw [hactivity]
    rfl
  · obtain hactivity | hactivity | ⟨values, -, hactivity⟩ := h.failure e rfl
    all_goals
      rw [hactivity]
      rfl
  · exact absurd rfl hresult

/-- A run of the program has the result and the activity of its command. -/
theorem ends_run (color : Bool) (home : String) (source : Settings.Source) (network : Network)
    (arguments : Arguments) :
    Ends color (Program.settings source arguments).builder arguments.command network
      (Program.run color home source network arguments).result
      (Program.run color home source network arguments).activity :=
  run_ends color (Program.settings source arguments) arguments.command network

/-- What a process shows if the directives for its log can be read. -/
theorem shows_executeCommand (subscriber : Log.Filter → List Event → String) (arguments : Arguments)
    {env : Environment} (hreadable : Log.Filter.isReadable env.log? = true) (home : String)
    (source : Settings.Source) (network : Network) :
    Shows (Program.settings source arguments).builder arguments.command network
      (subscriber (Program.filter env arguments.verbose)
        (Program.run false home source network arguments).log)
      (Program.run false home source network arguments).result
      (Program.executeCommand subscriber arguments env home source network) := by
  have hcommand := (ends_run false home source network arguments).allOrNothing
  rw [Program.executeCommand, if_pos hreadable]
  simp only [Program.run] at hcommand ⊢
  generalize arguments.command.run false (Program.settings source arguments) (Session.new network) =
    ended at hcommand ⊢
  obtain ⟨result, s⟩ := ended
  rcases result with _ | e | ⟨⟩
  · simp only [hcommand.output nofun, String.append_empty]
    exact .waits _
  · simp only [hcommand.output nofun, String.append_empty]
    exact .failure e _
  · exact .success hcommand.answered _

end Command
end Telemetry
