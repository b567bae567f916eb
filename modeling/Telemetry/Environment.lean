import Telemetry.Entries

/-!
# Environments

An environment maps the names of variables to their values.
-/
namespace Telemetry

abbrev Environment := List (String × String)

namespace Environment

def get? (name : String) (env : Environment) : Option String := Entries.get? name env

/-- Whether a text can be the value of a variable. -/
def isValue (value : String) : Bool := !value.toList.contains (Char.ofNat 0)

/-- Sets a variable unless it is set; `none` if the text cannot be its value. -/
def supply? (name value : String) (env : Environment) : Option Environment :=
  match env.get? name with
  | some _ => some env
  | none => if isValue value then some (Entries.put name value env) else none

def targetName : String := "ANALYTICS_TARGET"

def tokenName : String := "ANALYTICS_SERVICE_TOKEN"

def logName : String := "RUST_LOG"

def target? (env : Environment) : Option String := env.get? targetName

def token? (env : Environment) : Option String := env.get? tokenName

def log? (env : Environment) : Option String := env.get? logName

end Environment
end Telemetry
