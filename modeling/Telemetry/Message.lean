import Telemetry.Value

/-!
# Messages of the analytics service

The two requests carry nothing. An `Ack` says whether the server accepts connections and which instance
it is; `Stats` are its build data and the statistics it has collected.
-/
namespace Telemetry

/-- A point in time as it travels: seconds since 1970 and nanoseconds, neither of them checked. -/
structure Timestamp where
  seconds : Int64
  nanos : Int32
  deriving DecidableEq

structure Ack where
  connected : Bool
  instanceUuid : String
  deriving DecidableEq

structure Stats where
  buildDate : String
  buildFlavour : Int32
  commitSha : String
  snapshotDate : Option Timestamp
  product : String
  version : String
  vendor : String
  data : Option (List (String × Value))

def Ack.empty : Ack := ⟨false, ""⟩

def Timestamp.zero : Timestamp := ⟨0, 0⟩

def Stats.empty : Stats := ⟨"", 0, "", none, "", "", "", none⟩

/-- The ways in which a product is distributed. -/
inductive BuildFlavour where
  | none
  | docker
  | deb
  | rpm
  | windows
  | macos
  | helm
  deriving DecidableEq

namespace BuildFlavour

def all : List BuildFlavour := [none, docker, deb, rpm, windows, macos, helm]

def number : BuildFlavour → Int32
  | none => 0
  | docker => 1
  | deb => 2
  | rpm => 3
  | windows => 4
  | macos => 5
  | helm => 6

def name : BuildFlavour → String
  | none => "NONE"
  | docker => "DOCKER"
  | deb => "DEB"
  | rpm => "RPM"
  | windows => "WINDOWS"
  | macos => "MACOS"
  | helm => "HELM"

def ofNumber? (n : Int32) : Option BuildFlavour := all.find? (·.number = n)

def ofName? (s : String) : Option BuildFlavour := all.find? (·.name = s)

end BuildFlavour

/-- A message of the service, or a value on its own. -/
inductive Message where
  | ackRequest
  | statsRequest
  | ack (reply : Ack)
  | stats (reply : Stats)
  | value (v : Value)

inductive MessageType where
  | ackRequest
  | statsRequest
  | ack
  | stats
  | value
  deriving DecidableEq

def Message.type : Message → MessageType
  | .ackRequest => .ackRequest
  | .statsRequest => .statsRequest
  | .ack _ => .ack
  | .stats _ => .stats
  | .value _ => .value

/-- The message that no bytes stand for. -/
def MessageType.empty : MessageType → Message
  | .ackRequest => .ackRequest
  | .statsRequest => .statsRequest
  | .ack => .ack Ack.empty
  | .stats => .stats Stats.empty
  | .value => .value .unset

end Telemetry
