import Telemetry.ClientError
import Telemetry.Duration
import Telemetry.HeaderText
import Telemetry.ServerName
import Telemetry.Text.Lower
import Telemetry.Uri

/-!
# Channel settings

Settings are made from a target or from a host and a port. The scheme of the address and the use of TLS
are kept in step: a step that changes one changes the other. `Config.endpoint` checks settings before
a channel is made of them.
-/
namespace Telemetry

structure KeepAlive where
  interval : Duration
  timeout : Duration
  whileIdle : Bool
  deriving DecidableEq

def KeepAlive.standard : KeepAlive := ⟨.ofSeconds 30, .ofSeconds 10, true⟩

namespace Channel

structure Config where
  address : String
  keepAlive : Option KeepAlive
  connectTimeout : Option Duration
  requestTimeout : Option Duration
  userAgent : Option String
  useTls : Bool
  deriving DecidableEq

namespace Config

/-- The scheme of an address as it is written, if it has one, and the rest. -/
def splitScheme (address : List Char) : Option (List Char) × List Char :=
  match Text.splitOnce? Uri.schemeEnd address with
  | some (scheme, rest) => (some scheme, rest)
  | none => (none, address)

def isHttps (address : List Char) : Bool :=
  match (splitScheme address).1 with
  | some scheme => Text.sameLetters scheme "https".toList
  | none => false

/-- The address of a target: one without a scheme gets one, unless it is empty. -/
def addressOf (target : List Char) : List Char :=
  let target := Text.trim target
  if target.isEmpty || (splitScheme target).1.isSome then target else "http://".toList ++ target

/-- The host in front of an authority, without its port. A bare literal with several colons is put in
brackets. -/
def hostWithoutPort (authority : List Char) : List Char :=
  if authority.head? = some '[' then
    if authority.contains ']' then authority.takeWhile (· ≠ ']') ++ [']'] else authority
  else
    match authority.count ':' with
    | 0 => authority
    | 1 => authority.takeWhile (· ≠ ':')
    | _ => '[' :: (authority ++ [']'])

/-- The target that a host and a port make. The host may have a scheme, a port and slashes of its own. -/
def targetOf (host : List Char) (port : UInt16) : List Char :=
  let (scheme, rest) := splitScheme (Text.trim host)
  let host := hostWithoutPort (Text.dropEnd (· = '/') rest)
  let scheme := (scheme.map Text.lower).getD "http".toList
  scheme ++ (Uri.schemeEnd ++ (host ++ ':' :: Decimal.digits port.toNat))

/-- The settings for a target. -/
def new (target : String) : Config :=
  let address := addressOf target.toList
  { address := .ofList address
    keepAlive := some KeepAlive.standard
    connectTimeout := some (.ofSeconds 20)
    requestTimeout := none
    userAgent := none
    useTls := isHttps address }

/-- The settings for a host and a port, which replaces the host's own. -/
def forAddress (host : String) (port : UInt16) : Config :=
  new (.ofList (targetOf host.toList port))

def withoutKeepAlive (c : Config) : Config := { c with keepAlive := none }

def withKeepAlive (c : Config) (k : KeepAlive) : Config := { c with keepAlive := some k }

def withConnectTimeout (c : Config) (d : Duration) : Config := { c with connectTimeout := some d }

def withRequestTimeout (c : Config) (d : Duration) : Config := { c with requestTimeout := some d }

def withUserAgent (c : Config) (agent : String) : Config := { c with userAgent := some agent }

/-- The address with the scheme that goes with a setting of TLS, if it has a scheme. -/
def addressWithTls (address : List Char) (enabled : Bool) : List Char :=
  match splitScheme address with
  | (some _, rest) =>
    (if enabled then "https".toList else "http".toList) ++ (Uri.schemeEnd ++ rest)
  | (none, _) => address

def setTls (c : Config) (enabled : Bool) : Config :=
  { c with address := .ofList (addressWithTls c.address.toList enabled), useTls := enabled }

def withTls (c : Config) : Config := c.setTls true

def withoutTls (c : Config) : Config := c.setTls false

/-- What is wrong with settings. -/
inductive Fault where
  | address
  | serverName
  | userAgent
  deriving DecidableEq

def Fault.toError (c : Config) : Fault → ClientError
  | address => .invalidAddress (c.address ++ ": invalid URI")
  | serverName => .invalidConfig "TLS config error: transport error"
  | userAgent => .invalidConfig "user agent: user agent is not a valid header value"

/-- The identifier of the server. The address is checked first, then under TLS the server's name, then
the user agent. -/
def check (c : Config) : Except Fault Uri :=
  match Uri.parse? c.address with
  | none => .error .address
  | some uri =>
    if c.useTls && !uri.host?.any isServerName then .error .serverName
    else if !c.userAgent.all isHeaderText then .error .userAgent
    else .ok uri

def endpoint (c : Config) : Except ClientError Uri := c.check.mapError (Fault.toError c)

end Config
end Channel
end Telemetry
