import Mathlib.Data.List.Forall2
import Telemetry.Proofs.Client.Builder
import Telemetry.Proofs.Client.Credentials
import Telemetry.Proofs.Client.Redacted
import Telemetry.Proofs.Credential.ServiceToken

/-!
# What raw tokens have no influence on

Two runs whose raw tokens differ, and in which the network may behave differently, have the same redacted
store and the same handles at every point. So they show the same, even if the requests of one run reach a
server and those of the other fail before they are sent.
-/
namespace Telemetry

namespace ServiceToken

/-- Two texts encode an instance's identifier with raw tokens that may differ. -/
def Twins (encoded encoded' : String) : Prop :=
  ∃ identifier token token' : List Char, ':' ∉ identifier ∧ token ≠ [] ∧ token' ≠ [] ∧
    Encodes encoded (content identifier token) ∧ Encodes encoded' (content identifier token')

theorem check_of_encodes {encoded : String} {identifier token : List Char} (hcolon : ':' ∉ identifier)
    (htoken : token ≠ []) (h : Encodes encoded (content identifier token)) :
    check encoded = match Uuid.parse identifier with
      | .error f => .error (.uuid f)
      | .ok u => .ok ⟨u, .ofList token⟩ := by
  have hread := (encodes_iff _ _).mp h
  have hsplit := (Text.splitOnce?_eq_some_iff (List.cons_ne_nil ':' [])).mpr
    (Text.splitsAt_singleton_iff.mpr ⟨rfl, hcolon⟩ :
      Text.SplitsAt _ (identifier ++ ':' :: token) _ _)
  have hempty : token.isEmpty = false := List.isEmpty_eq_false_iff.mpr htoken
  cases hparse : Uuid.parse identifier <;>
    simp only [check, hread, content, Text.ofUtf8?_utf8, String.toList_ofList, ofParts, hsplit, hparse,
      hempty, Bool.false_eq_true, if_false]

/-- Decoding tells a raw token from another in nothing but the raw token. -/
theorem Twins.decode {encoded encoded' : String} (h : Twins encoded encoded') :
    (decode encoded).map redacted = (decode encoded').map redacted := by
  obtain ⟨identifier, token, token', hcolon, htoken, htoken', hencodes, hencodes'⟩ := h
  rw [ServiceToken.decode, ServiceToken.decode, check_of_encodes hcolon htoken hencodes,
    check_of_encodes hcolon htoken' hencodes']
  cases Uuid.parse identifier <;> rfl

/-- The tokens that texts give, without their raw parts. -/
def redactedIfGiven (encoded : Option String) : Except ClientError (Option ServiceToken) :=
  (decodeIfGiven encoded).map (·.map redacted)

theorem Twins.redactedIfGiven_eq {encoded encoded' : String} (h : Twins encoded encoded') :
    redactedIfGiven (some encoded) = redactedIfGiven (some encoded') := by
  have hdecode := h.decode
  simp only [redactedIfGiven, decodeIfGiven]
  cases hd : ServiceToken.decode encoded <;> cases hd' : ServiceToken.decode encoded' <;>
    simp_all [Except.map]

end ServiceToken

open ServiceToken (Twins redactedIfGiven)

/-- What comes with a store, and the store redacted. -/
def Store.besideRedacted {α : Type} (r : α × Store) : α × Store := (r.1, r.2.redacted)

variable {s s' : Store}

theorem Store.besideRedacted_openLazily (h : s.redacted = s'.redacted) (c : Channel.Config) :
    (s.openLazily c).map besideRedacted = (s'.openLazily c).map besideRedacted := by
  have hlinks := (redacted_eq_iff.mp h).1
  unfold openLazily
  cases c.endpoint with
  | error e => rfl
  | ok uri =>
    refine congrArg Except.ok (Prod.ext (congrArg List.length hlinks) ?_)
    simp [besideRedacted, h]

theorem Store.besideRedacted_connect (h : s.redacted = s'.redacted) (reaches : Uri → Bool)
    (c : Channel.Config) (target : String) :
    (s.connect reaches c target).result.map besideRedacted =
      (s'.connect reaches c target).result.map besideRedacted := by
  have hlinks := (redacted_eq_iff.mp h).1
  unfold connect
  cases c.endpoint with
  | error e => rfl
  | ok uri =>
    cases hreaches : reaches uri with
    | false => simp [hreaches, Except.map]
    | true =>
      simp only [hreaches, if_true]
      refine congrArg Except.ok (Prod.ext (congrArg List.length hlinks) ?_)
      simp [besideRedacted, h]

/-- What is made of a client does not depend on the store that comes with it. -/
theorem Store.besideRedacted_map {α β : Type} {r r' : Except ClientError (α × Store)}
    (h : r.map besideRedacted = r'.map besideRedacted) (g : α → β) :
    (r.map fun (a, s) => (g a, s)).map besideRedacted =
      (r'.map fun (a, s) => (g a, s)).map besideRedacted := by
  have hcomm (r : Except ClientError (α × Store)) : (r.map fun (a, s) => (g a, s)).map besideRedacted =
      (r.map besideRedacted).map fun (a, s) => (g a, s) := by
    cases r <;> rfl
  rw [hcomm, h, hcomm]

theorem Client.besideRedacted_withAuth (h : s.redacted = s'.redacted) (link : Nat)
    {token token' : Option ServiceToken}
    (htoken : token.map ServiceToken.redacted = token'.map ServiceToken.redacted) :
    Store.besideRedacted (Asynchronous.withAuth link token s) =
      Store.besideRedacted (Asynchronous.withAuth link token' s') := by
  have hfamilies : s.families.length = s'.families.length := by
    simpa using congrArg List.length (Store.redacted_eq_iff.mp h).2.1
  refine Prod.ext (congrArg Asynchronous.mk hfamilies) ?_
  have hstore := Store.redacted_addFamily s link token
  rw [h, htoken, ← Store.redacted_addFamily s' link token'] at hstore
  exact hstore

namespace Client.Builder

variable {b b' : Builder}

theorem exists_token_of_redacted (h : redactedIfGiven b.serviceToken = redactedIfGiven b'.serviceToken)
    {token : Option ServiceToken} (htoken : b.token? = .ok token) :
    ∃ token', b'.token? = .ok token' ∧
      token.map ServiceToken.redacted = token'.map ServiceToken.redacted := by
  rw [redactedIfGiven, redactedIfGiven, ← token?, ← token?, htoken] at h
  cases htoken' : b'.token? with
  | error e => simp [htoken', Except.map] at h
  | ok token' => exact ⟨token', rfl, by simpa [htoken', Except.map] using h⟩

theorem token_error_of_redacted (h : redactedIfGiven b.serviceToken = redactedIfGiven b'.serviceToken)
    {e : ClientError} (htoken : b.token? = .error e) : b'.token? = .error e := by
  rw [redactedIfGiven, redactedIfGiven, ← token?, ← token?, htoken] at h
  cases htoken' : b'.token? with
  | error e' => simpa [htoken', Except.map] using h.symm
  | ok token' => simp [htoken', Except.map] at h

/-- Builders that differ in the raw token pass the same check. -/
theorem check_of_redacted (hconfig : b.config = b'.config)
    (h : redactedIfGiven b.serviceToken = redactedIfGiven b'.serviceToken) :
    (∃ e, b.check = .error e ∧ b'.check = .error e) ∨ ∃ token token' uri,
      b.check = .ok (token, uri) ∧ b'.check = .ok (token', uri) ∧
        token.map ServiceToken.redacted = token'.map ServiceToken.redacted := by
  cases htoken : b.token? with
  | error e =>
    exact .inl ⟨e, check_of_token_error htoken, check_of_token_error (token_error_of_redacted h htoken)⟩
  | ok token =>
    obtain ⟨token', htoken', heq⟩ := exists_token_of_redacted h htoken
    cases hendpoint : b'.config.endpoint with
    | error e =>
      exact .inl ⟨e, check_of_endpoint_error htoken (hconfig ▸ hendpoint),
        check_of_endpoint_error htoken' hendpoint⟩
    | ok uri =>
      exact .inr ⟨token, token', uri, check_eq_ok_iff.mpr ⟨htoken, hconfig ▸ hendpoint⟩,
        check_eq_ok_iff.mpr ⟨htoken', hendpoint⟩, heq⟩

theorem besideRedacted_added (hconfig : b.config = b'.config) (hs : s.redacted = s'.redacted)
    {token token' : Option ServiceToken}
    (htoken : token.map ServiceToken.redacted = token'.map ServiceToken.redacted) (uri : Uri)
    (event event' : Event) : Store.besideRedacted (b.added token uri event s) =
      Store.besideRedacted (b'.added token' uri event' s') := by
  rw [added, added, hconfig, (Store.redacted_eq_iff.mp hs).1]
  refine besideRedacted_withAuth ?_ _ htoken
  simp [hs]

theorem besideRedacted_buildAsync (hconfig : b.config = b'.config)
    (h : redactedIfGiven b.serviceToken = redactedIfGiven b'.serviceToken)
    (hs : s.redacted = s'.redacted) : (b.buildAsync s).map Store.besideRedacted =
      (b'.buildAsync s').map Store.besideRedacted := by
  obtain ⟨e, he, he'⟩ | ⟨token, token', uri, hcheck, hcheck', heq⟩ := check_of_redacted hconfig h
  · rw [buildAsync_of_check_error he, buildAsync_of_check_error he']
  · rw [buildAsync_of_check hcheck, buildAsync_of_check hcheck']
    exact congrArg Except.ok (besideRedacted_added hconfig hs heq uri _ _)

theorem besideRedacted_connect (hconfig : b.config = b'.config)
    (h : redactedIfGiven b.serviceToken = redactedIfGiven b'.serviceToken)
    (hs : s.redacted = s'.redacted) (reaches : Uri → Bool) :
    (b.connect reaches s).result.map Store.besideRedacted =
      (b'.connect reaches s').result.map Store.besideRedacted := by
  obtain ⟨e, he, he'⟩ | ⟨token, token', uri, hcheck, hcheck', heq⟩ := check_of_redacted hconfig h
  · rw [connect_of_check_error he, connect_of_check_error he']
  · cases hreaches : reaches uri with
    | false =>
      rw [connect_of_unreachable hcheck hreaches, connect_of_unreachable hcheck' hreaches, hconfig]
    | true =>
      have hadded := besideRedacted_added hconfig hs heq uri b.connected b'.connected
      obtain ⟨hclient, hstore⟩ := Prod.mk.inj hadded
      rw [connect_of_check hcheck hreaches, connect_of_check hcheck' hreaches]
      exact congrArg Except.ok (Prod.ext (congrArg Adapter.fromAsync hclient) hstore)

end Client.Builder

namespace Action

/-- Whether it is the network that acts. -/
def isNetwork : Action → Bool
  | serve _ _ | fail _ _ => true
  | _ => false

/-- Two actions are the same up to the raw token of a new client. -/
inductive Alike : Action → Action → Prop
  | same (a : Action) : Alike a a
  | makeClient (form : Client.Form) (handle : Nat) {encoded encoded' : String}
      (h : Twins encoded encoded') :
      Alike (.makeClient form handle (some encoded)) (.makeClient form handle (some encoded'))
  | buildClient (form : Client.Form) (config : Channel.Config) {encoded encoded' : String}
      (h : Twins encoded encoded') :
      Alike (.buildClient form ⟨config, some encoded⟩) (.buildClient form ⟨config, some encoded'⟩)
  | connectClient (reaches : Uri → Bool) (config : Channel.Config) {encoded encoded' : String}
      (h : Twins encoded encoded') :
      Alike (.connectClient reaches ⟨config, some encoded⟩)
        (.connectClient reaches ⟨config, some encoded'⟩)

end Action

@[simp] theorem Handle.link?_redacted (h : Handle) (s : Store) : h.link? s.redacted = h.link? s := by
  cases h with
  | channel link => rfl
  | client c =>
    rw [link?, link?, Store.family?_redacted]
    cases s.family? c.family <;> rfl

@[simp] theorem Client.state?_redacted (c : Client) (s : Store) : c.state? s.redacted = c.state? s := by
  rw [state?, state?, Asynchronous.state?, Asynchronous.state?, ← family, Store.family?_redacted,
    Store.linkOf?_redacted]
  cases s.family? c.family with
  | none => rfl
  | some f =>
    have hkept : (·.instanceUuid) ∘ ServiceToken.redacted = (·.instanceUuid) := rfl
    cases s.linkOf? c.family <;> simp [Family.redacted, hkept]

theorem Handle.redacted_shutdown (h : Handle) (hs : s.redacted = s'.redacted) :
    (h.shutdown s).2.redacted = (h.shutdown s').2.redacted := by
  cases h with
  | channel link => exact Store.redacted_shutdown hs link
  | client c =>
    have hfamily : (s.family? c.inner.family).map Family.redacted =
        (s'.family? c.inner.family).map Family.redacted := by
      rw [← Store.family?_redacted, hs, Store.family?_redacted]
    simp only [shutdown, Client.close_eq_inner, Client.Asynchronous.close]
    cases hf : s.family? c.inner.family <;> cases hf' : s'.family? c.inner.family
    · exact hs
    · simp [hf, hf'] at hfamily
    · simp [hf, hf'] at hfamily
    · next f f' =>
      have hredacted : f.redacted = f'.redacted := by simpa [hf, hf'] using hfamily
      have hlink : f.link = f'.link := (Family.mk.inj hredacted).1
      simpa only [hlink] using Store.redacted_shutdown hs f'.link

namespace World

def redacted (w : World) : World := ⟨w.store.redacted, w.handles, []⟩

variable {w w' : World}

theorem redacted_eq_iff : w.redacted = w'.redacted ↔
    w.store.redacted = w'.store.redacted ∧ w.handles = w'.handles := by
  simp [redacted]

theorem handle?_eq (hw : w.redacted = w'.redacted) (n : Nat) : w.handle? n = w'.handle? n := by
  rw [handle?, handle?, (redacted_eq_iff.mp hw).2]

theorem linkAt?_eq (hw : w.redacted = w'.redacted) (n : Nat) : w.linkAt? n = w'.linkAt? n := by
  have hlink (h : Handle) : h.link? w.store = h.link? w'.store := by
    rw [← h.link?_redacted, (redacted_eq_iff.mp hw).1, h.link?_redacted]
  rw [linkAt?, linkAt?, handle?_eq hw]
  exact congrArg ((w'.handle? n).bind) (funext hlink)

theorem redacted_record (hw : w.redacted = w'.redacted) {o o' : Occurrence}
    (hs : s.redacted = s'.redacted) : (w.record o s).redacted = (w'.record o' s').redacted :=
  redacted_eq_iff.mpr ⟨hs, (redacted_eq_iff.mp hw).2⟩

theorem redacted_hold (hw : w.redacted = w'.redacted) (h : Handle) :
    (w.hold h).redacted = (w'.hold h).redacted := congrArg (hold h) hw

theorem redacted_opened (hw : w.redacted = w'.redacted) {r r' : Except ClientError (Nat × Store)}
    (hr : r.map Store.besideRedacted = r'.map Store.besideRedacted) :
    (w.opened r).redacted = (w'.opened r').redacted := by
  cases r with
  | error e =>
    cases r' with
    | error e' => exact hw
    | ok opening => cases hr
  | ok opening =>
    cases r' with
    | error e' => cases hr
    | ok opening' =>
      obtain ⟨hlink, hstore⟩ := Prod.mk.inj (Except.ok.inj hr)
      rw [opened, opened, hlink]
      exact redacted_hold (redacted_record hw hstore) _

theorem redacted_made (hw : w.redacted = w'.redacted) (serviceToken serviceToken' : Option String)
    {r r' : Except ClientError (Client × Store)}
    (hr : r.map Store.besideRedacted = r'.map Store.besideRedacted) :
    (w.made serviceToken r).redacted = (w'.made serviceToken' r').redacted := by
  cases r with
  | error e =>
    cases r' with
    | error e' => exact hw
    | ok making => cases hr
  | ok making =>
    cases r' with
    | error e' => cases hr
    | ok making' =>
      obtain ⟨hclient, hstore⟩ := Prod.mk.inj (Except.ok.inj hr)
      rw [made, made, hclient]
      exact redacted_hold (redacted_record hw hstore) _

theorem store_poll (w : World) (call : Nat) :
    (w.perform (.poll call)).store = (w.store.poll call).2 := by
  simp only [perform]
  split
  · next hc => simp [idle, record, Store.poll, hc]
  · next c hc =>
    split
    · next hf => simp [idle, record, Store.poll, hc, hf]
    · next f hf =>
      split
      · next hover =>
        simp only [idle, record, Store.poll, hc, hf, Call.isOver_iff.mp hover]
        cases w.store.linkOf? c.family <;> rfl
      · rfl

theorem handles_poll (w : World) (call : Nat) : (w.perform (.poll call)).handles = w.handles := by
  simp only [perform]
  split
  · rfl
  · split
    · rfl
    · split <;> rfl

theorem redacted_poll (w : World) (call : Nat) :
    (w.perform (.poll call)).redacted = ⟨w.store.redacted.issue call, w.handles, []⟩ := by
  rw [redacted, store_poll, handles_poll, Store.redacted_poll]

theorem redacted_drop (w : World) (call : Nat) :
    (w.perform (.drop call)).redacted = ⟨w.store.redacted.drop call, w.handles, []⟩ := by
  have hdrop : w.store.redacted.drop call = (w.store.drop call).redacted :=
    (Store.redacted_setProgress w.store call .finished).symm
  simp only [perform]
  split
  · next hc =>
    have hsame : w.store.drop call = w.store := by
      rw [Store.drop, Store.setProgress, List.modify_eq_self (List.getElem?_eq_none_iff.mp hc)]
    rw [hdrop, hsame]
    rfl
  · next c hc =>
    split
    · next hover =>
      have hpolled : c.progress ≠ .created := by simp [Call.isOver_iff.mp hover]
      rw [hdrop, Store.drop, Store.redacted_setProgress_of_polled hc hpolled (by simp)]
      rfl
    · rw [hdrop]
      rfl

theorem redacted_makeClient (hw : w.redacted = w'.redacted) (form : Client.Form) (n : Nat)
    {encoded encoded' : Option String} (h : redactedIfGiven encoded = redactedIfGiven encoded') :
    (w.perform (.makeClient form n encoded)).redacted =
      (w'.perform (.makeClient form n encoded')).redacted := by
  simp only [perform, linkAt?_eq hw]
  rw [redactedIfGiven, redactedIfGiven] at h
  cases hd : ServiceToken.decodeIfGiven encoded <;> cases hd' : ServiceToken.decodeIfGiven encoded'
  · exact hw
  · simp [hd, hd', Except.map] at h
  · simp [hd, hd', Except.map] at h
  · next token token' =>
    have htoken : token.map ServiceToken.redacted = token'.map ServiceToken.redacted := by
      simpa [hd, hd', Except.map] using h
    cases w'.linkAt? n with
    | none => exact hw
    | some link =>
      have hs := (redacted_eq_iff.mp hw).1
      let made (token : Option ServiceToken) (s : Store) :
          Except ClientError (Client.Asynchronous × Store) :=
        .ok (Client.Asynchronous.withAuth link token s)
      have hmade : (made token w.store).map Store.besideRedacted =
          (made token' w'.store).map Store.besideRedacted :=
        congrArg Except.ok (Client.besideRedacted_withAuth hs link htoken)
      refine redacted_made hw _ _ ?_
      rw [form.make_eq, form.make_eq]
      exact Store.besideRedacted_map hmade form.wrap

theorem redacted_buildClient (hw : w.redacted = w'.redacted) (form : Client.Form)
    {b b' : Client.Builder} (hconfig : b.config = b'.config)
    (h : redactedIfGiven b.serviceToken = redactedIfGiven b'.serviceToken) :
    (w.perform (.buildClient form b)).redacted = (w'.perform (.buildClient form b')).redacted := by
  refine redacted_made hw _ _ ?_
  rw [form.build_eq, form.build_eq]
  exact Store.besideRedacted_map
    (Client.Builder.besideRedacted_buildAsync hconfig h (redacted_eq_iff.mp hw).1) form.wrap

theorem redacted_connectClient (hw : w.redacted = w'.redacted) (reaches : Uri → Bool)
    {b b' : Client.Builder} (hconfig : b.config = b'.config)
    (h : redactedIfGiven b.serviceToken = redactedIfGiven b'.serviceToken) :
    (w.perform (.connectClient reaches b)).redacted =
      (w'.perform (.connectClient reaches b')).redacted :=
  redacted_made hw _ _ (Store.besideRedacted_map
    (Client.Builder.besideRedacted_connect hconfig h (redacted_eq_iff.mp hw).1 reaches) Client.adapter)

theorem redacted_shutdown (hw : w.redacted = w'.redacted) (n : Nat) :
    (w.perform (.shutdown n)).redacted = (w'.perform (.shutdown n)).redacted := by
  simp only [perform, linkAt?_eq hw, handle?_eq hw]
  split
  · exact redacted_record hw (Handle.redacted_shutdown _ (redacted_eq_iff.mp hw).1)
  · exact hw

/-- What the network does leaves the redacted world alone. -/
theorem redacted_perform_of_isNetwork (w : World) {a : Action} (ha : a.isNetwork) :
    (w.perform a).redacted = w.redacted := by
  have hanswered {call : Nat} {request : Request} (hrequest : w.store.waiting? call = some request)
      (reply : Reply Message) :
      (w.store.setProgress call (.answered reply)).redacted = w.store.redacted := by
    obtain ⟨c, hc, hwaiting⟩ := Store.waiting?_eq_some_iff.mp hrequest
    exact Store.redacted_setProgress_of_polled hc (by simp [hwaiting]) (by simp)
  cases a with
  | serve call reply =>
    simp only [perform]
    split
    · next hrequest =>
      rw [Store.serve, hrequest]
      exact redacted_eq_iff.mpr ⟨hanswered hrequest reply, rfl⟩
    · rfl
  | fail call status =>
    simp only [perform]
    split
    · rfl
    · next hrequest =>
      rw [Store.fail, hrequest]
      exact redacted_eq_iff.mpr ⟨hanswered hrequest (.failure status), rfl⟩
  | _ => exact absurd ha (by simp [Action.isNetwork])

theorem redacted_perform (hw : w.redacted = w'.redacted) (a : Action) :
    (w.perform a).redacted = (w'.perform a).redacted := by
  obtain ⟨hs, hhandles⟩ := redacted_eq_iff.mp hw
  cases a with
  | openChannel config => exact redacted_opened hw (Store.besideRedacted_openLazily hs config)
  | connectChannel reaches config target =>
    exact redacted_opened hw (Store.besideRedacted_connect hs reaches config target)
  | rewrapChannel n target =>
    have hlinks := (Store.redacted_eq_iff.mp hs).1
    have hlink : w.store.link? = w'.store.link? := funext fun link => congrArg (·[link]?) hlinks
    simp only [perform, linkAt?_eq hw, hlink]
    cases (w'.linkAt? n).bind w'.store.link? with
    | none => exact hw
    | some l =>
      have hadded : Store.besideRedacted (w.store.addLink { l with target, closed := false }) =
          Store.besideRedacted (w'.store.addLink { l with target, closed := false }) :=
        Prod.ext (congrArg List.length hlinks) (by simp [Store.besideRedacted, hs])
      exact redacted_opened hw (congrArg Except.ok hadded)
  | makeClient form n encoded => exact redacted_makeClient hw form n rfl
  | buildClient form b => exact redacted_buildClient hw form rfl rfl
  | connectClient reaches b => exact redacted_connectClient hw reaches rfl rfl
  | wrapClient form n =>
    simp only [perform, handle?_eq hw]
    split
    · exact redacted_hold hw _
    · exact hw
  | clone n =>
    simp only [perform, handle?_eq hw]
    split
    · exact hw
    · exact redacted_hold hw _
  | discard n => exact redacted_eq_iff.mpr ⟨hs, congrArg (List.set · n none) hhandles⟩
  | shutdown n => exact redacted_shutdown hw n
  | start n method =>
    simp only [perform, handle?_eq hw]
    split
    · exact redacted_record hw (by simp [hs])
    · exact hw
  | poll call => rw [redacted_poll, redacted_poll, hs, hhandles]
  | drop call => rw [redacted_drop, redacted_drop, hs, hhandles]
  | serve call reply =>
    rw [redacted_perform_of_isNetwork w rfl, redacted_perform_of_isNetwork w' rfl, hw]
  | fail call status =>
    rw [redacted_perform_of_isNetwork w rfl, redacted_perform_of_isNetwork w' rfl, hw]

theorem redacted_perform_of_alike (hw : w.redacted = w'.redacted) {a a' : Action} (ha : a.Alike a') :
    (w.perform a).redacted = (w'.perform a').redacted := by
  cases ha with
  | same => exact redacted_perform hw a
  | makeClient form n htwins => exact redacted_makeClient hw form n htwins.redactedIfGiven_eq
  | buildClient form config htwins =>
    exact redacted_buildClient hw form rfl htwins.redactedIfGiven_eq
  | connectClient reaches config htwins =>
    exact redacted_connectClient hw reaches rfl htwins.redactedIfGiven_eq

theorem redacted_run (hw : w.redacted = w'.redacted) {actions actions' : List Action}
    (h : List.Forall₂ Action.Alike actions actions') :
    (w.run actions).redacted = (w'.run actions').redacted := by
  induction h generalizing w w' with
  | nil => exact hw
  | cons ha _ ih => exact ih (redacted_perform_of_alike hw ha)

/-- What the program does in a run. The rest is the network's. -/
def program (actions : List Action) : List Action := actions.filter fun a => !a.isNetwork

theorem redacted_run_program (w : World) (actions : List Action) :
    (w.run actions).redacted = (w.run (program actions)).redacted := by
  induction actions generalizing w with
  | nil => rfl
  | cons a actions ih =>
    have hrest : (w.run (a :: actions)).redacted = ((w.perform a).run (program actions)).redacted :=
      ih (w.perform a)
    cases ha : a.isNetwork with
    | false =>
      have hprogram : program (a :: actions) = a :: program actions := by simp [program, ha]
      rw [hrest, hprogram]
      rfl
    | true =>
      have hprogram : program (a :: actions) = program actions := by simp [program, ha]
      have hsame := List.forall₂_same.mpr fun a (_ : a ∈ program actions) => Action.Alike.same a
      rw [hrest, hprogram]
      exact redacted_run (redacted_perform_of_isNetwork w ha) hsame

/-- Two worlds with the same handles, in which every handle shows the same. -/
structure ShowsSame (w w' : World) : Prop where
  handle : ∀ n, w.handle? n = w'.handle? n
  closed : ∀ h : Handle, h.closed? w.store = h.closed? w'.store
  calls : ∀ c : Client, (c.state? w.store).map (·.calls) = (c.state? w'.store).map (·.calls)
  text : ∀ c : Client, (c.state? w.store).map c.form.shown = (c.state? w'.store).map c.form.shown

theorem showsSame_of_redacted (hw : w.redacted = w'.redacted) : ShowsSame w w' := by
  have hs := (redacted_eq_iff.mp hw).1
  have hstate (c : Client) : c.state? w.store = c.state? w'.store := by
    rw [← c.state?_redacted, hs, c.state?_redacted]
  refine ⟨handle?_eq hw, fun h => ?_, fun c => by rw [hstate], fun c => by rw [hstate]⟩
  cases h with
  | channel link =>
    rw [Handle.closed?, Handle.closed?, ← Store.link?_redacted, hs, Store.link?_redacted]
  | client c => rw [Handle.closed?, Handle.closed?, hstate]

/-- Decoding and whole runs of clients show nothing of the raw token, whatever the network does. -/
theorem showsSame_of_twins {encoded encoded' : String} (htwins : Twins encoded encoded')
    {actions actions' : List Action}
    (halike : List.Forall₂ Action.Alike (program actions) (program actions')) :
    (ServiceToken.decode encoded).map (fun t => (t.instanceUuid, t.shown)) =
        (ServiceToken.decode encoded').map (fun t => (t.instanceUuid, t.shown)) ∧
      ShowsSame (after actions) (after actions') := by
  constructor
  · have hkept (r : Except ClientError ServiceToken) : r.map (fun t => (t.instanceUuid, t.shown)) =
        (r.map ServiceToken.redacted).map fun t => (t.instanceUuid, t.shown) := by
      cases r <;> rfl
    rw [hkept, htwins.decode, ← hkept]
  · have hrun := redacted_run (w := empty) rfl halike
    refine showsSame_of_redacted ?_
    rw [after, redacted_run_program, hrun, ← redacted_run_program, after]

/-- The identifier of the sample token with a raw token that no header can hold. -/
def unsendableToken : String := "MGUyYTc0NTEtMmI1MC00NmMzLTg0ODEtOGM3YmQyNmRlN2NjOmJsYWgKYmxhaA=="

/-- What a program does with a signed client, and what the network does meanwhile. -/
def signedSteps (encoded : String) (meanwhile : List Action) : List Action :=
  [.openChannel (.new "http://a:1"), .makeClient .blocking 0 (some encoded), .start 1 .stats,
    .poll 0] ++ meanwhile ++ [.poll 0, .clone 1, .shutdown 1]

def servedRun : List Action := signedSteps sampleToken [.serve 0 (.failure .timedOut)]

def unsentRun : List Action := signedSteps unsendableToken []

theorem servedRun_shows_same : (after servedRun).store.requests.length = 1 ∧
    (after unsentRun).store.requests.length = 0 ∧
    (ServiceToken.decode sampleToken).map (fun t => (t.instanceUuid, t.shown)) =
      (ServiceToken.decode unsendableToken).map (fun t => (t.instanceUuid, t.shown)) ∧
    ShowsSame (after servedRun) (after unsentRun) := by
  have htwins : Twins sampleToken unsendableToken :=
    ⟨"0e2a7451-2b50-46c3-8481-8c7bd26de7cc".toList, "blahblahblah".toList, "blah\nblah".toList,
      by decide, by decide, by decide, (ServiceToken.encodes_iff _ _).mpr (by decide +kernel),
      (ServiceToken.encodes_iff _ _).mpr (by decide +kernel)⟩
  have halike : List.Forall₂ Action.Alike (program servedRun) (program unsentRun) :=
    .cons (.same _) <| .cons (.makeClient _ _ htwins) <| .cons (.same _) <| .cons (.same _) <|
      .cons (.same _) <| .cons (.same _) <| .cons (.same _) .nil
  exact ⟨by decide +kernel, by decide +kernel, showsSame_of_twins htwins halike⟩

end World
end Telemetry
