import Telemetry.Decimal
import Telemetry.Text.Blank

/-!
# Log levels

A threshold lets events of a level and of all graver ones pass, or none at all.
-/
namespace Telemetry

inductive Level where
  | error
  | warn
  | info
  | debug
  | trace
  deriving DecidableEq

namespace Level

def all : List Level := [error, warn, info, debug, trace]

def name : Level → String
  | error => "ERROR"
  | warn => "WARN"
  | info => "INFO"
  | debug => "DEBUG"
  | trace => "TRACE"

/-- The name in lower case. -/
def text : Level → String
  | error => "error"
  | warn => "warn"
  | info => "info"
  | debug => "debug"
  | trace => "trace"

end Level

/-- The least grave level that passes, or `none` for silence. -/
abbrev Threshold := Option Level

namespace Threshold

/-- The thresholds in the order of their numbers, from zero. -/
def all : List Threshold := none :: Level.all.map some

def text : Threshold → String
  | none => "off"
  | some l => l.text

/-- The threshold that a number or a name in any letter case stands for. -/
def ofText? (cs : List Char) : Option Threshold :=
  match Decimal.natural? (if cs.head? = some '+' then cs.drop 1 else cs) with
  | some n => all[n]?
  | none => all.find? fun t => Text.sameLetters (text t).toList cs

end Threshold
end Telemetry
