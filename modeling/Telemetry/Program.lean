import Telemetry.Arguments.Help
import Telemetry.Environment.File
import Telemetry.Log.Filter
import Telemetry.Report
import Telemetry.Session
import Telemetry.Settings

/-!
# The command-line program

A command connects to the server, makes one call and prints what came of it.
-/
namespace Telemetry

namespace Command

/-- Why a command failed. -/
inductive Failure where
  | client (e : ClientError)
  | call (method : Method) (status : Status)
  deriving DecidableEq

def Failure.message : Failure → String
  | client e => e.message
  | call method status =>
    method.name ++ " failed (" ++ status.code.name ++ "): " ++ status.message

/-- The call that a command makes. -/
def method : Command → Method
  | ack => .ack
  | stats _ => .stats

/-- What a command prints of a message, if it is the one it asked for, in the pieces that it is written
in. -/
def output? (color : Bool) (target : String) : Command → Message → Option (List String)
  | ack, .ack a => some (Report.ofAck color target a)
  | stats true, .stats s => some [(Snapshot.ofStats s).toJson.pretty ++ "\n"]
  | stats false, .stats s => some [Report.ofSnapshot color (Snapshot.ofStats s)]
  | _, _ => none

/-- Runs a command in a session. There is no result while it waits for a reply that never comes. -/
def run (color : Bool) (settings : Settings) (command : Command) (s : Session) :
    Option (Except Failure Unit) × Session :=
  match s.connect settings.builder with
  | (.error e, s) => (some (.error (.client e)), s)
  | (.ok c, s) =>
    match c.call command.method s with
    | (none, s) => (none, s)
    | (some (.failure status), s) => (some (.error (.call command.method status)), s)
    | (some (.success m), s) =>
      match output? color ((c.target? s.store).getD "") command m with
      | some texts => (some (.ok ()), s.print texts)
      | none => (some (.error (.call command.method .missingMessage)), s)

end Command

namespace Program

/-- What a command line does: its result, the events that it reports, what it does to the world outside, what
it prints of that and the requests that it sends. -/
structure Run where
  result : Option (Except Command.Failure Unit)
  log : List Event
  activity : List Activity
  output : String
  requests : List Request

/-- The settings of a command line with a settings file. -/
def settings (source : Settings.Source) (args : Arguments) : Settings :=
  Settings.resolve args.target args.port args.token (Settings.File.loadOrIgnore source).1

/-- Runs a command line with a settings file at its place in a home. -/
def run (color : Bool) (home : String) (source : Settings.Source) (network : Network)
    (args : Arguments) : Run :=
  let ignored := match (Settings.File.loadOrIgnore source).2 with
    | none => []
    | some fault => [Event.configIgnored (Settings.File.path home) fault.message]
  let settings := settings source args
  let (result, s) := args.command.run color settings (Session.new network)
  ⟨result, ignored ++ (.settingsResolved settings.target settings.port :: s.store.log), s.activity,
    s.output, s.store.requests⟩

/-- What there is of a process. It has no code while it goes on. -/
structure Exit where
  code : Option Nat
  stdout : String
  stderr : String
  deriving DecidableEq

/-- The parts of the program, which are heard in full when asked for. -/
def parts : List String := ["analytics_client", "analytics_grpc", "analytics_cli"]

/-- What is heard of the program. -/
def filter (env : Environment) (verbose : Bool) : Log.Filter :=
  if verbose then .new env.log? .warn parts .debug else .new env.log? .warn ["analytics_cli"] .info

/-- What a process leaves that a fault ends which it does not handle. -/
def Exit.aborted (stderr : String) : Exit := ⟨some 101, "", stderr⟩

/-- Runs the command that arguments ask for, and says first what is wrong with the directives for the
log. The log goes to the standard output, in the form that the subscriber gives it, and all of it comes
before what the command prints. -/
def executeCommand (subscriber : Log.Filter → List Event → String) (arguments : Arguments)
    (env : Environment) (home : String) (source : Settings.Source) (network : Network) : Exit :=
  let complaints := String.join ((Log.Filter.complaints env.log?).map (· ++ "\n"))
  if Log.Filter.isReadable env.log? then
    let run := run false home source network arguments
    let stdout := subscriber (filter env arguments.verbose) run.log ++ run.output
    match run.result with
    | none => ⟨none, stdout, complaints⟩
    | some (.ok _) => ⟨some 0, stdout, complaints⟩
    | some (.error e) => ⟨some 1, stdout, complaints ++ ("Error: " ++ e.message ++ "\n")⟩
  else .aborted complaints

/-- Runs the program as a process, without colours. An environment file supplies variables first. -/
def execute (subscriber : Log.Filter → List Event → String) (args : List String) (env : Environment)
    (environmentFile : Option String) (home : String) (source : Settings.Source) (network : Network) :
    Exit :=
  match environmentFile.elim (some env) fun text => Environment.File.load? text env with
  | none => .aborted ""
  | some env =>
    match Arguments.parse env args with
    | .error r =>
      if r.isAnswer then ⟨some 0, r.text env, ""⟩ else ⟨some 2, "", r.text env ++ "\n"⟩
    | .ok arguments => executeCommand subscriber arguments env home source network

end Program
end Telemetry
