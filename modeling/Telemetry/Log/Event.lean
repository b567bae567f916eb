import Telemetry.Duration
import Telemetry.Log.Level
import Telemetry.Rpc

/-!
# Logged events

What clients and the command line report while they work. An event is its cause; the level, the text
and the fields of its record are read off it.
-/
namespace Telemetry

inductive Event where
  | channelCreated (address : String) (useTls : Bool)
  | connected (address : String) (useTls : Bool) (requestTimeout : Option Duration)
  | shuttingDown (target : String)
  | alreadyShutDown (target : String)
  | callRefused (method : Method) (target : String)
  | callIssued (method : Method) (target : String) (calls : UInt64)
  | callFailed (method : Method) (target : String) (status : Status)
  | settingsResolved (target : String) (port : Option UInt16)
  | configIgnored (path : String) (error : String)
  deriving DecidableEq

namespace Event

def level : Event → Level
  | channelCreated _ _ => .debug
  | connected _ _ _ => .debug
  | shuttingDown _ => .warn
  | alreadyShutDown _ => .debug
  | callRefused _ _ => .debug
  | callIssued _ _ _ => .debug
  | callFailed _ _ _ => .error
  | settingsResolved _ _ => .debug
  | configIgnored _ _ => .warn

/-- The part of the program that reports an event, by which a filter selects it. -/
def source : Event → String
  | channelCreated _ _ => "analytics_grpc::channel"
  | connected _ _ _ => "analytics_grpc::channel"
  | shuttingDown _ => "analytics_grpc::channel"
  | alreadyShutDown _ => "analytics_grpc::channel"
  | callRefused _ _ => "analytics_client::async_client"
  | callIssued _ _ _ => "analytics_client::async_client"
  | callFailed _ _ _ => "analytics_client::async_client"
  | settingsResolved _ _ => "analytics_cli"
  | configIgnored _ _ => "analytics_cli::config"

def message : Event → String
  | channelCreated _ _ => "gRPC channel created (lazy)"
  | connected _ _ _ => "Connected to analytics server"
  | shuttingDown _ => "Shutting down gRPC channel"
  | alreadyShutDown _ => "gRPC channel already shut down"
  | callRefused _ _ => "Refusing call on closed channel"
  | callIssued _ _ _ => "Issuing RPC"
  | callFailed _ _ _ => "RPC failed"
  | settingsResolved _ _ => "Resolved settings"
  | configIgnored _ _ => "Ignoring config file"

def flagText (b : Bool) : String := if b then "true" else "false"

/-- The text of a value that may be absent. -/
def optionText : Option (List Char) → String
  | none => "None"
  | some text => .ofList ("Some(".toList ++ (text ++ [')']))

def fields : Event → List (String × String)
  | channelCreated address useTls => [("address", address), ("use_tls", flagText useTls)]
  | connected address useTls timeout =>
    [("address", address), ("use_tls", flagText useTls),
      ("request_timeout", optionText (timeout.map Duration.text))]
  | shuttingDown target => [("target_address", target)]
  | alreadyShutDown target => [("target_address", target)]
  | callRefused method target => [("method", method.name), ("target_address", target)]
  | callIssued method target calls =>
    [("method", method.name), ("target_address", target),
      ("calls", .ofList (Decimal.digits calls.toNat))]
  | callFailed method target status =>
    [("method", method.name), ("target_address", target), ("code", status.code.name),
      ("message", status.message)]
  | settingsResolved target port =>
    [("target_address", target),
      ("port", optionText (port.map fun p => Decimal.digits p.toNat))]
  | configIgnored path error => [("path", path), ("error", error)]

end Event
end Telemetry
