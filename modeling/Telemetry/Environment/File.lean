import Telemetry.Environment
import Telemetry.Text.Alphanumeric
import Telemetry.Text.Blank

/-!
# Environment files

A file gives variables line by line, `NAME=value` or `export NAME=value`, and supplies those that the
environment does not have. A value may be quoted in parts, may refer to variables, and goes over several
lines while a quote is open. The first line that cannot be read ends the reading; what was supplied
before it stays.
-/
namespace Telemetry.Environment.File

/-- Where a reader of characters is that only looks for the end of a line of the file. -/
inductive Position where
  | plain
  | blank
  | escaped
  | weak
  | weakEscaped
  | strong
  | strongEscaped
  deriving DecidableEq

def opened (c : Char) : Position :=
  if c = '\\' then .escaped else if c = '"' then .weak else if c = '\'' then .strong else .plain

def Position.step (c : Char) : Position → Position
  | plain => if Text.isBlank c && c ≠ '\n' && c ≠ '\r' then blank else opened c
  | blank => opened c
  | escaped => plain
  | weak => if c = '\\' then weakEscaped else if c = '"' then plain else weak
  | weakEscaped => weak
  | strong => if c = '\\' then strongEscaped else if c = '\'' then plain else strong
  | strongEscaped => strong

/-- The position after a piece of a line, or what stands before a comment in it. -/
def scan : Position → List Char → Position ⊕ List Char
  | p, [] => .inl p
  | p, c :: cs =>
    if p = .blank ∧ c = '#' then .inr []
    else
      match scan (p.step c) cs with
      | .inl p => .inl p
      | .inr before => .inr (c :: before)

/-- The pieces of a text, each up to a line end and with it. -/
def pieces : List Char → List (List Char)
  | [] => []
  | c :: cs =>
    if c = '\n' then [c] :: pieces cs
    else
      match pieces cs with
      | [] => [[c]]
      | piece :: rest => (c :: piece) :: rest

/-- A line without its end. -/
def chomp (line : List Char) : List Char :=
  if line.getLast? = some '\n' then
    let line := line.dropLast
    if line.getLast? = some '\r' then line.dropLast else line
  else line

/-- The lines of a file, each of one or more pieces; the first argument is where the line begun stands
and the second what it has so far. A line that is not complete at the end of the file is `none`. -/
def lines (p : Position) (begun : List Char) : List (List Char) → List (Option (List Char))
  | [] => if p = .plain then [] else [none]
  | piece :: rest =>
    let line := begun ++ piece
    if (line.dropWhile Text.isBlank).head? = some '#' then some [] :: lines .plain [] rest
    else
      match scan p piece with
      | .inr before => some (begun ++ before) :: lines .plain [] rest
      | .inl p => if p = .plain then some (chomp line) :: lines p [] rest else lines p line rest

/-- The name of a variable in the making. -/
inductive Reference where
  | bare (name : List Char)
  | braced (name : List Char)
  deriving DecidableEq

inductive Quote where
  | open
  | weak
  | strong
  deriving DecidableEq

/-- A value in the making. After a blank outside of quotes only blanks and a comment may follow. -/
structure Draft where
  quote : Quote
  escaped : Bool
  reference : Option Reference
  ending : Bool
  commented : Bool
  value : List Char

namespace Draft

def start : Draft := ⟨.open, false, none, false, false, []⟩

def push (c : Char) (d : Draft) : Draft := { d with value := d.value ++ [c] }

/-- Puts the value of a variable; one that is not set counts as empty. -/
def refer (env : Environment) (name : List Char) (d : Draft) : Draft :=
  { d with value := d.value ++ ((env.get? (.ofList name)).getD "").toList, reference := none }

/-- What a backslash may stand before. -/
def unescaped? (c : Char) : Option Char :=
  if c = 'n' then some '\n'
  else if c = '\\' ∨ c = '\'' ∨ c = '"' ∨ c = '$' ∨ c = ' ' then some c
  else none

def stepReference (env : Environment) (c : Char) (d : Draft) : Reference → Draft
  | .bare name =>
    if Text.isAlphanumeric c then { d with reference := some (.bare (name ++ [c])) }
    else if c = '\x7b' ∧ name = [] then { d with reference := some (.braced []) }
    else if c = '$' then { d.refer env name with reference := some (.bare []) }
    else (d.refer env name).push c
  | .braced name =>
    if Text.isAlphanumeric c then { d with reference := some (.braced (name ++ [c])) }
    else if c = '\x7d' then d.refer env name
    else { d with reference := some (.braced (name ++ [c])) }

/-- A character outside of strong quotes, escapes and references. -/
def stepPlain (c : Char) (d : Draft) : Draft :=
  if c = '$' then { d with reference := some (.bare []) }
  else if c = '\\' then { d with escaped := true }
  else if d.quote = .weak then if c = '"' then { d with quote := .open } else d.push c
  else if c = '\'' then { d with quote := .strong }
  else if c = '"' then { d with quote := .weak }
  else if c = ' ' ∨ c = '\t' then { d with ending := true }
  else d.push c

def step? (env : Environment) (d : Draft) (c : Char) : Option Draft :=
  if d.commented then some d
  else if d.ending then
    if c = ' ' ∨ c = '\t' then some d
    else if c = '#' then some { d with commented := true }
    else none
  else if d.escaped then
    (unescaped? c).map fun c => { d.push c with escaped := false }
  else if d.quote = .strong then
    some (if c = '\'' then { d with quote := .open } else d.push c)
  else
    match d.reference with
    | some r => some (d.stepReference env c r)
    | none => some (d.stepPlain c)

/-- The value, if no quote and no brace is open. -/
def finish? (env : Environment) (d : Draft) : Option (List Char) :=
  if d.quote ≠ .open then none
  else
    match d.reference with
    | some (.braced _) => none
    | some (.bare name) => some (d.refer env name).value
    | none => some d.value

end Draft

def value? (env : Environment) (cs : List Char) : Option (List Char) :=
  (cs.foldlM (Draft.step? env) Draft.start).bind (Draft.finish? env)

def isNameStart (c : Char) : Bool := c.isAlpha || c = '_'

def isNameChar (c : Char) : Bool := c.isAlphanum || c = '_' || c = '.'

def skipBlank (cs : List Char) : List Char := cs.dropWhile Text.isBlank

/-- A name, and the rest after it and the blanks that follow. -/
def name? (cs : List Char) : Option (List Char × List Char) :=
  match cs with
  | c :: _ =>
    if isNameStart c then some (cs.takeWhile isNameChar, skipBlank (cs.dropWhile isNameChar))
    else none
  | [] => none

def equals? : List Char → Option (List Char)
  | '=' :: rest => some rest
  | _ => none

/-- A name, after the word `export` or not, and the rest after the equals sign. -/
def nameAndRest? (cs : List Char) : Option (List Char × List Char) := do
  let (name, rest) ← name? cs
  match equals? rest with
  | some rest => return (name, rest)
  | none =>
    if name = "export".toList then
      let (name, rest) ← name? rest
      let rest ← equals? rest
      return (name, rest)
    else none

/-- What a line gives: nothing if it is empty or a comment. The outer `none` is a line that cannot be
read. -/
def entry? (env : Environment) (line : List Char) : Option (Option (String × String)) :=
  let cs := skipBlank (Text.dropEnd Text.isBlank line)
  if cs.isEmpty || cs.head? = some '#' then some none
  else do
    let (name, rest) ← nameAndRest? cs
    let rest := skipBlank rest
    let v ← if rest.isEmpty || rest.head? = some '#' then pure [] else value? env rest
    return some (.ofList name, .ofList v)

/-- Supplies what lines give, up to the first that cannot be read; `none` if that cannot be supplied. -/
def supplyLines? (env : Environment) : List (Option (List Char)) → Option Environment
  | [] => some env
  | none :: _ => some env
  | some line :: rest =>
    match entry? env line with
    | none => some env
    | some none => supplyLines? env rest
    | some (some (name, v)) => (env.supply? name v).bind fun env => supplyLines? env rest

/-- The environment with what a file supplies. There is none if the file gives a text to a variable that
no variable can have. -/
def load? (text : String) (env : Environment) : Option Environment :=
  let cs := text.toList
  let cs := if cs.head? = some '\uFEFF' then cs.drop 1 else cs
  supplyLines? env (lines .plain [] (pieces cs))

end Telemetry.Environment.File
