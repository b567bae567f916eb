import Telemetry.Text.Alphanumeric
import Telemetry.Text.Blank
import Telemetry.Text.Hex

/-!
# Patterns

A pattern describes the texts that a field may hold. This module tells which texts are patterns. Only the
patterns without Unicode's tables are known: letters have no case and there are no named classes of
characters, unless a pattern turns to bytes for them, and it may then match no bytes that are no text.

A pattern stands between the braces of a directive, so it holds no closing brace and no repetition with a
count is ever complete.
-/
namespace Telemetry.Log.Pattern

/-- Why a text is no pattern. -/
inductive Fault where
  | malformed
  /-- It looks for the boundaries of words in all scripts. -/
  | wordBoundary
  deriving DecidableEq

def Fault.message : Fault → String
  | malformed => "error building NFA"
  | wordBoundary => "unsupported regex feature for DFAs: cannot build DFAs for regexes with Unicode " ++
      "word boundaries; switch to ASCII word boundaries, or heuristically enable Unicode word " ++
      "boundaries or use a different regex engine"

/-- What flags change of how a pattern is read. -/
structure Flags where
  /-- Letters of both cases are the same. -/
  caseless : Bool
  /-- Characters are matched, and not bytes. -/
  unicode : Bool
  /-- Blanks and comments are passed over. -/
  spaced : Bool
  deriving DecidableEq

namespace Flags

def start : Flags := ⟨false, true, false⟩

/-- Whether the cases of letters would have to be known. -/
def needsCases (f : Flags) : Bool := f.caseless && f.unicode

def set (c : Char) (value : Bool) (f : Flags) : Flags :=
  if c = 'i' then { f with caseless := value }
  else if c = 'u' then { f with unicode := value }
  else if c = 'x' then { f with spaced := value }
  else f

def letters : List Char := ['i', 'm', 's', 'U', 'u', 'R', 'x']

/-- Flags up to a colon or a closing parenthesis: what they change, the end and the rest. No flag stands
twice, none is missing after a minus, and there is one before a closing parenthesis. The first argument
holds what has been read, last first. -/
def read? (seen : List Char) (f : Flags) : List Char → Option (Flags × Char × List Char)
  | [] => none
  | c :: rest =>
    if c = ':' ∨ c = ')' then
      if seen.head? = some '-' ∨ (c = ')' ∧ seen = []) then none else some (f, c, rest)
    else if seen.contains c then none
    else if c = '-' then read? ('-' :: seen) f rest
    else if letters.contains c then read? (c :: seen) (f.set c (!seen.contains '-')) rest
    else none

end Flags

/-- A text without the characters of a class at its front and, when these are passed over, without blanks
and comments between them. -/
def skipAll (p : Char → Bool) (spaced comment : Bool) : List Char → List Char
  | [] => []
  | c :: rest =>
    if comment then skipAll p spaced (c ≠ '\n') rest
    else if p c || (spaced && Text.isBlank c) then skipAll p spaced false rest
    else if spaced && c = '#' then skipAll p spaced true rest
    else c :: rest

def skip (f : Flags) (cs : List Char) : List Char := skipAll (fun _ => false) f.spaced false cs

/-- What stands for one place in a text. -/
inductive Item where
  /-- A character, which is perhaps written as a byte. -/
  | letter (c : Char) (byte : Bool)
  /-- One of the classes of digits, blanks and letters, or all but such a class. -/
  | kind (negated : Bool)
  | boundary
  | anchor
  | any
  deriving DecidableEq

/-- A number of so many hexadecimal digits. -/
def hex? (f : Flags) : Nat → Nat → List Char → Option (Nat × List Char)
  | 0, value, cs => some (value, cs)
  | _ + 1, _, [] => none
  | n + 1, value, c :: rest =>
    (Text.Hex.digit? c).bind fun d => hex? f n (16 * value + d) (skip f rest)

/-- The character with a number of so many digits. -/
def coded? (f : Flags) (digits : Nat) (cs : List Char) : Option (Item × List Char) :=
  (hex? f digits 0 (skip f cs)).bind fun (n, rest) =>
    if n.isValidChar then some (.letter (Char.ofNat n) (digits = 2), rest) else none

/-- The letters that stand for control characters after a backslash. -/
def controls : List (Char × Char) :=
  [('a', '\x07'), ('f', '\x0c'), ('t', '\t'), ('n', '\n'), ('r', '\r'), ('v', '\x0b')]

/-- The item that a letter or an angle stands for after a backslash. -/
def named? (c : Char) : Option Item :=
  if ['d', 's', 'w'].contains c then some (.kind false)
  else if ['D', 'S', 'W'].contains c then some (.kind true)
  else if ['b', 'B', '<', '>'].contains c then some .boundary
  else if ['A', 'z'].contains c then some .anchor
  else (controls.lookup c).map (.letter · false)

/-- What stands after a backslash. Marks stand for themselves. -/
def escape? (f : Flags) : List Char → Option (Item × List Char)
  | [] => none
  | c :: rest =>
    if c = 'x' then coded? f 2 rest
    else if c = 'u' then coded? f 4 rest
    else if c = 'U' then coded? f 8 rest
    else
      match named? c with
      | some item => some (item, rest)
      | none =>
        if c.toNat < 0x80 ∧ !c.isAlphanum then some (.letter c false, rest) else none

/-- The item at the front of a text. -/
def item? (f : Flags) : List Char → Option (Item × List Char)
  | [] => none
  | c :: rest =>
    if c = '\\' then escape? f rest
    else if c = '.' then some (.any, rest)
    else if c = '^' ∨ c = '$' then some (.anchor, rest)
    else some (.letter c false, rest)

/-- Whether an item can be matched. -/
def allows (f : Flags) : Item → Bool
  | .letter c byte => if f.unicode then !f.caseless else !(byte && decide (0x80 ≤ c.toNat))
  | .kind negated => !f.unicode && !negated
  | .boundary => true
  | .anchor => true
  | .any => f.unicode

/-- The item at the front of a class. -/
def memberItem? (f : Flags) : List Char → Option (Item × List Char)
  | [] => none
  | c :: rest => if c = '\\' then escape? f rest else some (.letter c false, rest)

/-- Whether an item can be in a class. -/
def allowsMember (f : Flags) : Item → Bool
  | .letter c _ => if f.unicode then !f.caseless else decide (c.toNat < 0x80)
  | .kind negated => !f.unicode && !negated
  | _ => false

/-- A member of a class, or a range of characters in order, and the rest. A hyphen before a closing
bracket or another hyphen makes no range. -/
def member? (f : Flags) (cs : List Char) : Option (List Char) := do
  let (first, rest) ← memberItem? f cs
  let rest := skip f rest
  let afterHyphen := skip f (rest.drop 1)
  if rest.head? = some '-' ∧ afterHyphen.head? ≠ some ']' ∧ afterHyphen.head? ≠ some '-' then
    let (last, rest) ← memberItem? f afterHyphen
    match first, last with
    | .letter a _, .letter b _ =>
      if a ≤ b ∧ allowsMember f first ∧ allowsMember f last then some rest else none
    | _, _ => none
  else if rest.isEmpty then none
  else if allowsMember f first then some rest
  else none

def classNames : List String :=
  ["alnum", "alpha", "ascii", "blank", "cntrl", "digit", "graph", "lower", "print", "punct", "space",
    "upper", "word", "xdigit"]

/-- A named class after its first bracket: whether it is all but that class, and the rest. -/
def namedClass? : List Char → Option (Bool × List Char)
  | ':' :: rest =>
    let negated := rest.head? = some '^'
    let rest := if negated then rest.drop 1 else rest
    match rest.dropWhile (· ≠ ':') with
    | ':' :: ']' :: after =>
      if classNames.contains (.ofList (rest.takeWhile (· ≠ ':'))) then some (negated, after) else none
    | _ => none
  | _ => none

/-- The front of a class after its bracket: a caret, and hyphens or one closing bracket that stand for
themselves. -/
def openClass? (f : Flags) (cs : List Char) : Option (List Char) :=
  let cs := skip f cs
  let negated := cs.head? = some '^'
  let cs := if negated then skip f (cs.drop 1) else cs
  let members := cs.head? = some '-' ∨ cs.head? = some ']'
  if (negated ∧ !f.unicode) ∨ (members ∧ f.needsCases) then none
  else if cs.head? = some ']' then some (skip f (cs.drop 1))
  else some (skipAll (· = '-') f.spaced false cs)

/-- The rest after classes that are open to a depth. Operators may stand anywhere between members. -/
def closeClass? (f : Flags) : Nat → Nat → List Char → Option (List Char)
  | 0, _, _ => none
  | _, 0, cs => some cs
  | fuel + 1, depth + 1, cs =>
    match skip f cs with
    | [] => none
    | '[' :: rest =>
      match namedClass? rest with
      | some (negated, rest) =>
        if f.needsCases ∨ (negated ∧ !f.unicode) then none else closeClass? f fuel (depth + 1) rest
      | none => (openClass? f rest).bind (closeClass? f fuel (depth + 2))
    | ']' :: rest => closeClass? f fuel depth rest
    | '&' :: '&' :: rest => closeClass? f fuel (depth + 1) rest
    | '-' :: '-' :: rest => closeClass? f fuel (depth + 1) rest
    | '~' :: '~' :: rest => closeClass? f fuel (depth + 1) rest
    | cs => (member? f cs).bind (closeClass? f fuel (depth + 1))

/-- The rest after a class without its first bracket. -/
def class? (f : Flags) (cs : List Char) : Option (List Char) :=
  (openClass? f cs).bind fun rest => closeClass? f (rest.length + 2) 1 rest

def startsName (c : Char) : Bool := c = '_' || Text.isAlphabetic c

def continuesName (c : Char) : Bool :=
  c = '_' || c = '.' || c = '[' || c = ']' || Text.isAlphanumeric c

/-- The name of a group up to its closing angle, and the rest. -/
def groupName? (cs : List Char) : Option (List Char × List Char) :=
  match cs.takeWhile (· ≠ '>'), cs.dropWhile (· ≠ '>') with
  | c :: name, _ :: rest =>
    if startsName c && name.all continuesName then some (c :: name, rest) else none
  | _, _ => none

/-- Where a reader of patterns is. -/
structure State where
  flags : Flags
  /-- The flags outside of each group that is open, innermost first. -/
  groups : List Flags
  names : List (List Char)
  /-- Whether there is something to repeat. -/
  repeatable : Bool
  /-- Whether boundaries of words in all scripts are looked for. -/
  boundary : Bool

namespace State

def start : State := ⟨.start, [], [], false, false⟩

def enter (f : Flags) (s : State) : State :=
  { s with flags := f, groups := s.flags :: s.groups, repeatable := false }

def enterNamed? (s : State) (cs : List Char) : Option (State × List Char) := do
  let (name, rest) ← groupName? cs
  if s.names.contains name then none
  else return ({ s.enter s.flags with names := name :: s.names }, rest)

/-- Goes into a group, or sets flags for the rest of the one it is in. What stands before or after a text
cannot be looked at. -/
def open? (s : State) : List Char → Option (State × List Char)
  | '?' :: 'P' :: '<' :: rest => s.enterNamed? rest
  | '?' :: '<' :: rest => s.enterNamed? rest
  | '?' :: rest => do
    let (f, last, rest) ← Flags.read? [] s.flags rest
    return (if last = ')' then { s with flags := f, repeatable := false } else s.enter f, rest)
  | rest => some (s.enter s.flags, rest)

def close? (s : State) : Option State :=
  match s.groups with
  | [] => none
  | f :: groups => some { s with flags := f, groups, repeatable := true }

def take (item : Item) (s : State) : State :=
  { s with repeatable := true, boundary := s.boundary || (item = .boundary && s.flags.unicode) }

end State

/-- What repeats a thing stands after it, perhaps with a mark for as few times as possible. -/
def isRepetition (c : Char) : Bool := c = '*' || c = '+' || c = '?'

def dropReluctance : List Char → List Char
  | '?' :: rest => rest
  | rest => rest

/-- Reads a pattern to its end; `none` where it is malformed. -/
def scan? : Nat → State → List Char → Option State
  | 0, _, _ => none
  | fuel + 1, s, cs =>
    match skip s.flags cs with
    | [] => if s.groups = [] then some s else none
    | '(' :: rest => (s.open? (skip s.flags rest)).bind fun (s, rest) => scan? fuel s rest
    | ')' :: rest => s.close?.bind fun s => scan? fuel s rest
    | '|' :: rest => scan? fuel { s with repeatable := false } rest
    | '[' :: rest => (class? s.flags rest).bind (scan? fuel { s with repeatable := true })
    | c :: rest =>
      if isRepetition c then
        if s.repeatable then scan? fuel s (dropReluctance rest) else none
      else if c = '\x7b' then none
      else do
        let (item, rest) ← item? s.flags (c :: rest)
        if allows s.flags item then scan? fuel (s.take item) rest else none

/-- What is wrong with a text that is no pattern. -/
def fault? (cs : List Char) : Option Fault :=
  match scan? (cs.length + 1) .start cs with
  | none => some .malformed
  | some s => if s.boundary then some .wordBoundary else none

end Telemetry.Log.Pattern
