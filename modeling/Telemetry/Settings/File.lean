import Telemetry.Text.Utf8
import Telemetry.Toml.Parser

/-!
# The settings file

A file in the user's home may give a target, a service token, a user agent and a time for connecting.
Entries it does not know are passed over. A file with anything wrong in it gives nothing at all.
-/
namespace Telemetry.Settings

structure File where
  target : Option String
  serviceToken : Option String
  userAgent : Option String
  connectTimeoutSeconds : Option Nat
  deriving DecidableEq

/-- What stands at a path. -/
inductive Source where
  | absent
  | directory
  | bytes (content : List UInt8)
  deriving DecidableEq

namespace File

def empty : File := ⟨none, none, none, none⟩

inductive Fault where
  | unreadable
  | malformed
  deriving DecidableEq

def Fault.message : Fault → String
  | unreadable => "Failed to read config file"
  | malformed => "Failed to parse config"

/-- The text of an entry, if there is one. The outer `none` is an entry of another type. -/
def text? (key : String) (t : Toml.Table) : Option (Option String) :=
  match t.find? key with
  | none => some none
  | some (.string s) => some (some s)
  | some _ => none

/-- The number of an entry, if there is one. The outer `none` is an entry of another type or below
zero. -/
def natural? (key : String) (t : Toml.Table) : Option (Option Nat) :=
  match t.find? key with
  | none => some none
  | some (.integer n) => if 0 ≤ n then some (some n.toNat) else none
  | some _ => none

def ofTable? (t : Toml.Table) : Option File := do
  return {
    target := ← text? "target" t
    serviceToken := ← text? "service_token" t
    userAgent := ← text? "user_agent" t
    connectTimeoutSeconds := ← natural? "connect_timeout_secs" t }

def parse? (text : String) : Option File := (Toml.parse? text).bind ofTable?

/-- The settings that a path gives. -/
def load : Source → Except Fault File
  | .absent => .error .unreadable
  | .directory => .error .unreadable
  | .bytes content =>
    match Text.ofUtf8? content with
    | none => .error .unreadable
    | some text =>
      match parse? text with
      | none => .error .malformed
      | some file => .ok file

/-- Where the file is in a home. -/
def relativePath : String := ".config/analytics/config.toml"

def path (home : String) : String := home ++ "/" ++ relativePath

/-- The settings of a file that need not be there, and why it is passed over. -/
def loadOrIgnore (source : Source) : File × Option Fault :=
  match source with
  | .absent => (empty, none)
  | source =>
    match load source with
    | .ok file => (file, none)
    | .error fault => (empty, some fault)

end File
end Telemetry.Settings
