import Telemetry.ClientError
import Telemetry.Credential.Base64
import Telemetry.Credential.Uuid
import Telemetry.HeaderText
import Telemetry.Status
import Telemetry.Text.Blank
import Telemetry.Text.Utf8

/-!
# Service tokens

A service token is the base64 form of an instance's identifier, a colon and the raw token. Only the raw
token is sent, as the bearer credential of a request, and it is shown nowhere.
-/
namespace Telemetry

structure ServiceToken where
  instanceUuid : Uuid
  token : String
  deriving DecidableEq

namespace ServiceToken

/-- What is wrong with a text, in the order in which it is checked. -/
inductive Fault where
  | base64 (e : Base64.Error)
  | utf8
  | separator
  | uuid (f : Uuid.Fault)
  | emptyToken
  deriving DecidableEq

def Fault.message : Fault → String
  | base64 e => "not base64: " ++ e.message
  | utf8 => "not valid UTF-8"
  | separator => "expected 'instanceUUID:token'"
  | uuid f => "bad instance UUID: " ++ f.message
  | emptyToken => "token part is empty"

/-- The identifier in front of the first colon and the token after it. -/
def ofParts (decoded : List Char) : Except Fault ServiceToken :=
  match Text.splitOnce? [':'] decoded with
  | none => .error .separator
  | some (identifier, token) =>
    match Uuid.parse identifier with
    | .error f => .error (.uuid f)
    | .ok u => if token.isEmpty then .error .emptyToken else .ok ⟨u, .ofList token⟩

def check (encoded : String) : Except Fault ServiceToken :=
  match Base64.decode (Text.utf8 (.ofList (Text.trim encoded.toList))) with
  | .error e => .error (.base64 e)
  | .ok bytes =>
    match Text.ofUtf8? bytes with
    | none => .error .utf8
    | some decoded => ofParts decoded.toList

def decode (encoded : String) : Except ClientError ServiceToken :=
  (check encoded).mapError fun f => .invalidServiceToken f.message

/-- The token of an encoded form that need not be there. -/
def decodeIfGiven (encoded : Option String) : Except ClientError (Option ServiceToken) :=
  match encoded with
  | none => .ok none
  | some encoded => (decode encoded).map some

/-- What may be shown of a token. -/
def shown (t : ServiceToken) : String :=
  "ServiceToken \x7b instance_uuid: " ++ t.instanceUuid.text ++ ", token: \"<redacted>\" \x7d"

end ServiceToken

namespace Authorization

def bearer (token : String) : String := "Bearer " ++ token

def invalidToken : Status := ⟨.internal, "invalid token format"⟩

/-- The authorization values of a request after the raw token, if there is one, has replaced them. A
token that cannot stand in a header fails the request. -/
def apply (token : Option String) (values : List String) : Except Status (List String) :=
  match token with
  | none => .ok values
  | some token => if isHeaderText (bearer token) then .ok [bearer token] else .error invalidToken

end Authorization
end Telemetry
