import Telemetry.Client.Builder
import Telemetry.Settings.File

/-!
# Settings of a command

What the command line gives counts before what the file gives, and that before the defaults; each setting
is resolved on its own.
-/
namespace Telemetry

structure Settings where
  target : String
  port : Option UInt16
  serviceToken : Option String
  userAgent : Option String
  connectTimeout : Duration
  deriving DecidableEq

namespace Settings

def defaultTarget : String := "http://localhost:10234"

def defaultConnectSeconds : Nat := 10

def resolve (target : Option String) (port : Option UInt16) (serviceToken : Option String)
    (file : File) : Settings where
  target := (target.or file.target).getD defaultTarget
  port := port
  serviceToken := serviceToken.or file.serviceToken
  userAgent := file.userAgent
  connectTimeout := .ofSeconds (file.connectTimeoutSeconds.getD defaultConnectSeconds)

/-- The builder of the command's client. The connection is used once, so it is not kept alive. -/
def builder (s : Settings) : Client.Builder :=
  let b := match s.port with
    | some port => Client.Builder.forAddress s.target port
    | none => .new s.target
  let b := b.withChannel fun c => c.withoutKeepAlive.withConnectTimeout s.connectTimeout
  let b := match s.userAgent with
    | some agent => b.withUserAgent agent
    | none => b
  match s.serviceToken with
  | some token => b.withServiceToken token
  | none => b

end Settings
end Telemetry
