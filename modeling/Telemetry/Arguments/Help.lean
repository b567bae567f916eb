import Telemetry.Arguments
import Telemetry.Text.Visible

/-!
# Help and messages about command lines
-/
namespace Telemetry.Arguments

/-- Lines of text, each with its end. -/
def lines (ls : List String) : List Char := ls.flatMap fun l => l.toList ++ ['\n']

/-- The column in which the descriptions of options begin. -/
def descriptionColumn : Nat := 25

/-- A text whose further lines begin in the column of descriptions. -/
def indented (cs : List Char) : List Char :=
  cs.flatMap fun c => if c = '\n' then '\n' :: List.replicate descriptionColumn ' ' else [c]

/-- What is visible of the current value of the target's variable and of what follows it up to the name
of the next option, where a new sequence begins. -/
def targetValue (env : Environment) : List Char :=
  Text.visible (indented ((env.target?).getD "").toList ++ "]\n      ".toList)

/-- The options of a place. The current value of the target's variable is shown, that of the token's is
not. -/
def optionHelp (env : Environment) (place : Place) : List Char :=
  (if place = .stats then lines ["      --json             Print the snapshot as JSON"] else []) ++
  ("      --target <TARGET>  Server address ".toList ++
    "(e.g., localhost:10234 or https://analytics.example.com) [env: ANALYTICS_TARGET=".toList ++
    targetValue env) ++
  lines [
    "--port <PORT>      Port to use with a bare host given in --target",
    "      --token <TOKEN>    Base64 service token issued by the instance " ++
      "[env: ANALYTICS_SERVICE_TOKEN]",
    "  -v, --verbose          Log debug output from the client",
    "  -h, --help             Print help"] ++
  (if place = .top then lines ["  -V, --version          Print version"] else [])

def about : Place → String
  | .top => "Query Noelware analytics endpoints"
  | .ack => "Check that the server accepts analytics connections"
  | .stats => "Show the server's stats snapshot"

def usage : Place → String
  | .top => "Usage: analytics [OPTIONS] <COMMAND>"
  | .ack => "Usage: analytics ack [OPTIONS]"
  | .stats => "Usage: analytics stats [OPTIONS]"

def commandHelp : List Char :=
  lines ["Commands:",
    "  ack    Check that the server accepts analytics connections",
    "  stats  Show the server's stats snapshot",
    "  help   Print this message or the help of the given subcommand(s)",
    ""]

def Topic.text (env : Environment) : Topic → List Char
  | .place p =>
    lines [about p, "", usage p, ""] ++ (if p = .top then commandHelp else []) ++
      lines ["Options:"] ++ optionHelp env p
  | .help =>
    lines ["Print this message or the help of the given subcommand(s)", "",
      "Usage: analytics help [COMMAND]...", "", "Arguments:",
      "  [COMMAND]...  Print help for the subcommand(s)"]

def versionText : List Char := lines ["analytics 0.1.0"]

def ValueOption.shown : ValueOption → String
  | .target => "--target <TARGET>"
  | .port => "--port <PORT>"
  | .token => "--token <TOKEN>"

def Flag.shown : Flag → String
  | .verbose => "--verbose"
  | .json => "--json"
  | .help => "--help"
  | .version => "--version"

def PortFault.message : PortFault → String
  | .empty => "cannot parse integer from empty string"
  | .digit => "invalid digit found in string"
  | .tooLarge => "number too large to fit in target type"
  | .tooSmall => "number too small to fit in target type"
  | .range n => .ofList (Decimal.signed n) ++ " is not in 0..=65535"

/-- What is visible of an argument in a message. -/
def quoted (text : String) : String := "'" ++ .ofList (Text.visible text.toList) ++ "'"

/-- What an error says after its mark. -/
def Refusal.detail : Refusal → String
  | .missingCommand => "'analytics' requires a subcommand but one was not provided"
  | .missingValue o => "a value is required for '" ++ o.shown ++ "' but none was supplied"
  | .repeatedOption o => "the argument '" ++ o.shown ++ "' cannot be used multiple times"
  | .repeatedFlag f => "the argument '" ++ f.shown ++ "' cannot be used multiple times"
  | .invalidPort text fault =>
    "invalid value " ++ quoted text ++ " for '" ++ ValueOption.port.shown ++ "': " ++ fault.message
  | .unneededValue value f =>
    "unexpected value " ++ quoted value ++ " for '" ++ f.shown ++ "' found; no more were expected"
  | .unknownArgument text => "unexpected argument " ++ quoted text ++ " found"
  | .unknownCommand text => "unrecognized subcommand " ++ quoted text
  | _ => ""

/-- A text up to the end of its first line. -/
def firstLine (cs : List Char) : List Char :=
  let line := cs.takeWhile (· ≠ '\n')
  if line.length < cs.length ∧ line.getLast? = some '\r' then line.dropLast else line

/-- What is printed when there is nothing to run: help and the version whole, of an error its first
line. -/
def Refusal.text (env : Environment) (r : Refusal) : String :=
  match r with
  | .help topic => .ofList (topic.text env)
  | .version => .ofList versionText
  | .empty => about .top
  | r => .ofList (firstLine ("error: ".toList ++ r.detail.toList))

/-- Help and the version are no errors. -/
def Refusal.isAnswer : Refusal → Bool
  | .help _ => true
  | .version => true
  | _ => false

end Telemetry.Arguments
