import Telemetry.Message
import Telemetry.Status

/-!
# Remote calls

The two calls of the service, the requests that they send and the statuses with which a call fails on
its own side.
-/
namespace Telemetry

inductive Method where
  | ack
  | stats
  deriving DecidableEq

def Method.name : Method → String
  | ack => "ConnectionAck"
  | stats => "RetrieveStats"

/-- What a server replies to a call with. -/
def Method.replyType : Method → MessageType
  | ack => .ack
  | stats => .stats

/-- A request as the server receives it. -/
structure Request where
  method : Method
  authorization : List String
  userAgent : String
  deriving DecidableEq

namespace Status

def channelClosed : Status := ⟨.unavailable, "channel has been shut down"⟩

def connectionRefused : Status := ⟨.unavailable, "tcp connect error"⟩

def timedOut : Status := ⟨.cancelled, "Timeout expired"⟩

def missingMessage : Status := ⟨.internal, "Missing response message."⟩

end Status
end Telemetry
