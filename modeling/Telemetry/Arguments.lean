import Telemetry.Decimal
import Telemetry.Environment

/-!
# Command lines

A command line is a command with options before and after it. An option may be given once before and
once after the command, and the later one counts; what the command line does not give the environment
may. The arguments are read from left to right, but the value of an option is looked at only when the
next option comes or the place ends, so that an argument that cannot be understood is reported before a
wrong value in front of it.
-/
namespace Telemetry

inductive Command where
  | ack
  | stats (json : Bool)
  deriving DecidableEq

structure Arguments where
  command : Command
  target : Option String
  port : Option UInt16
  token : Option String
  verbose : Bool
  deriving DecidableEq

namespace Arguments

/-- Where options stand: before the command or after it. -/
inductive Place where
  | top
  | ack
  | stats
  deriving DecidableEq

inductive ValueOption where
  | target
  | port
  | token
  deriving DecidableEq

inductive Flag where
  | verbose
  | json
  | help
  | version
  deriving DecidableEq

/-- What help is asked for. -/
inductive Topic where
  | place (p : Place)
  | help
  deriving DecidableEq

/-- What is wrong with a port. -/
inductive PortFault where
  | empty
  | digit
  | tooLarge
  | tooSmall
  | range (n : Int)
  deriving DecidableEq

/-- Why there is nothing to run. -/
inductive Refusal where
  | help (topic : Topic)
  | version
  | empty
  | missingCommand
  | missingValue (o : ValueOption)
  | repeatedOption (o : ValueOption)
  | repeatedFlag (f : Flag)
  | invalidPort (text : String) (fault : PortFault)
  | unneededValue (value : String) (f : Flag)
  | unknownArgument (text : String)
  | unknownCommand (text : String)
  deriving DecidableEq

/-- The digits of a number with 64 bits and a sign; `limit` is the largest magnitude. -/
def magnitude (limit : Nat) (overflow : PortFault) : Nat → List Char → Except PortFault Nat
  | n, [] => .ok n
  | n, c :: cs =>
    match Decimal.digit? c with
    | none => .error .digit
    | some d => if limit < 10 * n + d then .error overflow else magnitude limit overflow (10 * n + d) cs

def number (cs : List Char) : Except PortFault Int :=
  match cs with
  | [] => .error .empty
  | ['+'] => .error .digit
  | ['-'] => .error .digit
  | '-' :: cs => (magnitude (Nat.pow 2 63) .tooSmall 0 cs).map fun n => -(n : Int)
  | '+' :: cs => (magnitude (Nat.pow 2 63 - 1) .tooLarge 0 cs).map fun n => (n : Int)
  | cs => (magnitude (Nat.pow 2 63 - 1) .tooLarge 0 cs).map fun n => (n : Int)

def maxPort : Int := 65535

def readPort (text : String) : Except PortFault UInt16 :=
  match number text.toList with
  | .error e => .error e
  | .ok n => if 0 ≤ n ∧ n ≤ maxPort then .ok (.ofNat n.toNat) else .error (.range n)

structure Options where
  target : Option String
  port : Option UInt16
  token : Option String
  verbose : Bool
  json : Bool
  deriving DecidableEq

namespace Options

def empty : Options := ⟨none, none, none, false, false⟩

def has (os : Options) : ValueOption → Bool
  | .target => os.target.isSome
  | .port => os.port.isSome
  | .token => os.token.isSome

/-- Gives an option its value, which it may not have yet. -/
def set (o : ValueOption) (v : String) (os : Options) : Except Refusal Options :=
  if os.has o then .error (.repeatedOption o)
  else
    match o with
    | .target => .ok { os with target := some v }
    | .token => .ok { os with token := some v }
    | .port =>
      match readPort v with
      | .ok p => .ok { os with port := some p }
      | .error e => .error (.invalidPort v e)

def isGiven (os : Options) : Bool :=
  os.target.isSome || os.port.isSome || os.token.isSome || os.verbose || os.json

end Options

/-- The options of a place so far, the option whose value has not been looked at, if there is one, and
whether only what is no option may follow. -/
structure Scan where
  options : Options
  pending : Option (ValueOption × Option String)
  trailing : Bool
  deriving DecidableEq

namespace Scan

def start : Scan := ⟨.empty, none, false⟩

/-- Looks at the value of the last option. -/
def settle (s : Scan) : Except Refusal Scan :=
  match s.pending with
  | none => .ok s
  | some (o, none) => .error (.missingValue o)
  | some (o, some v) => (s.options.set o v).map fun options => { s with options, pending := none }

/-- Whether the last option has no value yet. -/
def isAwaiting (s : Scan) : Bool :=
  match s.pending with
  | some (_, none) => true
  | _ => false

def flag (place : Place) (f : Flag) (s : Scan) : Except Refusal Scan := do
  let s ← s.settle
  match f with
  | .help => .error (.help (.place place))
  | .version => .error .version
  | .verbose =>
    if s.options.verbose then .error (.repeatedFlag .verbose)
    else .ok { s with options := { s.options with verbose := true } }
  | .json =>
    if s.options.json then .error (.repeatedFlag .json)
    else .ok { s with options := { s.options with json := true } }

end Scan

inductive LongName where
  | option (o : ValueOption)
  | flag (f : Flag)
  | unknown
  deriving DecidableEq

def longName (place : Place) (name : List Char) : LongName :=
  if name = "target".toList then .option .target
  else if name = "port".toList then .option .port
  else if name = "token".toList then .option .token
  else if name = "verbose".toList then .flag .verbose
  else if name = "help".toList then .flag .help
  else if name = "version".toList ∧ place = .top then .flag .version
  else if name = "json".toList ∧ place = .stats then .flag .json
  else .unknown

def shortName? (place : Place) (c : Char) : Option Flag :=
  if c = 'v' then some .verbose
  else if c = 'h' then some .help
  else if c = 'V' ∧ place = .top then some .version
  else none

/-- An argument after two hyphens, with the value after an equals sign if there is one. -/
def long (place : Place) (name : List Char) (value : Option (List Char)) (s : Scan) :
    Except Refusal Scan :=
  match longName place name, value with
  | .option o, none => s.settle.map fun s => { s with pending := some (o, none) }
  | .option o, some v => do
    let s ← s.settle
    let options ← s.options.set o (.ofList v)
    return { s with options }
  | .flag f, none => s.flag place f
  | .flag f, some v => .error (.unneededValue (.ofList v) f)
  | .unknown, _ => .error (.unknownArgument (.ofList ('-' :: '-' :: name)))

/-- The letters after one hyphen. -/
def short (place : Place) : List Char → Scan → Except Refusal Scan
  | [], s => .ok s
  | c :: cs, s =>
    match shortName? place c with
    | some f => (s.flag place f).bind (short place cs)
    | none => .error (.unknownArgument (.ofList ['-', c]))

def isCommandName (arg : String) : Bool := arg = "ack" || arg = "stats" || arg = "help"

/-- What is said about an argument that is no option and no value. -/
def stray (place : Place) (trailing : Bool) (arg : String) : Refusal :=
  if place = .top then
    if trailing && isCommandName arg then .unknownArgument arg else .unknownCommand arg
  else .unknownArgument arg

def splitEquals (cs : List Char) : List Char × Option (List Char) :=
  match cs.dropWhile (· ≠ '=') with
  | '=' :: v => (cs.takeWhile (· ≠ '='), some v)
  | _ => (cs, none)

/-- An argument that is no command. -/
def argument (place : Place) (arg : String) (s : Scan) : Except Refusal Scan :=
  if s.trailing then .error (stray place true arg)
  else
    match arg.toList with
    | ['-', '-'] => .ok { s with trailing := true }
    | '-' :: '-' :: cs =>
      let (name, value) := splitEquals cs
      long place name value s
    | '-' :: c :: cs => short place (c :: cs) s
    | _ =>
      match s.pending with
      | some (o, none) => .ok { s with pending := some (o, some arg) }
      | _ => .error (stray place false arg)

/-- The options after a command. -/
def optionsAfter (place : Place) (args : List String) : Except Refusal Options := do
  let s ← args.foldlM (fun s arg => argument place arg s) Scan.start
  let s ← s.settle
  return s.options

/-- What the command for help answers to the arguments after it. -/
def helpOn : List String → Refusal
  | [] => .help (.place .top)
  | [name] =>
    if name = "ack" then .help (.place .ack)
    else if name = "stats" then .help (.place .stats)
    else if name = "help" then .help .help
    else .unknownCommand name
  | name :: other :: _ => if isCommandName name then .unknownCommand other else .unknownCommand name

/-- The place of a command. -/
def commandPlace? (arg : String) : Option Place :=
  if arg = "ack" then some .ack else if arg = "stats" then some .stats else none

/-- The options before the command and, if there is one, the command's place with the options after
it. -/
def sections (s : Scan) : List String → Except Refusal (Options × Option (Place × Options))
  | [] => s.settle.map fun s => (s.options, none)
  | arg :: rest =>
    if !s.trailing && !s.isAwaiting && arg = "help" then .error (helpOn rest)
    else
      match if s.trailing || s.isAwaiting then none else commandPlace? arg with
      | some place => do
        let after ← optionsAfter place rest
        let s ← s.settle
        return (s.options, some (place, after))
      | none => do
        let s ← argument .top arg s
        sections s rest

def commandOf (place : Place) (os : Options) : Command :=
  match place with
  | .stats => .stats os.json
  | _ => .ack

/-- The command line in an environment. -/
def parse (env : Environment) (args : List String) : Except Refusal Arguments := do
  let (before, command) ← sections Scan.start args
  match command with
  | none =>
    if before.isGiven || env.target?.isSome || env.token?.isSome then .error .missingCommand
    else .error .empty
  | some (place, after) =>
    return {
      command := commandOf place after
      target := (after.target.or before.target).or env.target?
      port := after.port.or before.port
      token := (after.token.or before.token).or env.token?
      verbose := after.verbose || before.verbose }

end Arguments
end Telemetry
