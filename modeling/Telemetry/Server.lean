import Telemetry.Duration
import Telemetry.Rpc
import Telemetry.Uri
import Telemetry.Wire.Message

/-!
# Servers

A server gives its outcomes in turn, the last of them again and again. What a client makes of an outcome
is its reply: a body is read as the message that the call asks for, and a status comes back as it is unless
it says that all went well. Silence ends with the time allowed, and never if no time is set. A request may
also be lost before the server receives it. A network is what can be reached, the server there, and what is
said of a body that cannot be read.
-/
namespace Telemetry

namespace Server

/-- How a request ends. A body is one that the transport accepts, and a server is silent that does not
answer within the time allowed, or at all. -/
inductive Outcome where
  | body (bytes : Wire.Bytes)
  | status (s : Status)
  | silence
  | lost (s : Status)

/-- What the client sees of an outcome, if it does not wait for good. -/
def Outcome.reply? (fault : MessageType → Wire.Bytes → String) (timeout : Option Duration)
    (method : Method) : Outcome → Option (Reply Message)
  | body bytes =>
    match Wire.decode? method.replyType bytes with
    | some m => some (.success m)
    | none => some (.failure ⟨.internal, fault method.replyType bytes⟩)
  | status s => some (.failure (if s.code = .ok then .missingMessage else s))
  | silence => timeout.map fun _ => .failure .timedOut
  | lost s => some (.failure s)

end Server

/-- The outcomes to come of each call. -/
structure Server where
  acks : List Server.Outcome
  statistics : List Server.Outcome

namespace Server

/-- The next outcome of a script and the script after it. Without a script the reply is an empty body. -/
def next : List Outcome → Outcome × List Outcome
  | [] => (.body [], [])
  | [o] => (o, [o])
  | o :: rest => (o, rest)

def answer (s : Server) : Method → Outcome × Server
  | .ack =>
    let (o, rest) := next s.acks
    (o, { s with acks := rest })
  | .stats =>
    let (o, rest) := next s.statistics
    (o, { s with statistics := rest })

end Server

/-- The identifiers that lead to a server, the server, and what is said of a body that is no message of its
type. -/
structure Network where
  reaches : Uri → Bool
  server : Server
  fault : MessageType → Wire.Bytes → String

namespace Network

def localHost : List Char := "127.0.0.1".toList

/-- Whether an identifier leads to a port of the local address without a secure protocol. -/
def isLocal (port : UInt16) : Uri → Bool
  | .absolute scheme authority _ _ =>
    decide (scheme = "http".toList) && decide (Uri.hostOf authority = localHost) &&
      decide (Uri.portOf authority = some port)
  | _ => false

/-- A network with a server at a port of the local address. -/
def atPort (port : UInt16) (server : Server) (fault : MessageType → Wire.Bytes → String) : Network :=
  ⟨isLocal port, server, fault⟩

/-- A network on which nobody listens. -/
def silent : Network := ⟨fun _ => false, ⟨[], []⟩, fun _ _ => ""⟩

end Network
end Telemetry
