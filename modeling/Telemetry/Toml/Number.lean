import Telemetry.Decimal
import Telemetry.Text.Hex
import Telemetry.Toml

/-!
# TOML numbers and points in time

Digits may be grouped by single underscores. Whole numbers have 64 bits with a sign; a fraction may not
be too large for a double.
-/
namespace Telemetry.Toml

/-- Digits of a class with underscores between them, without the underscores. -/
def grouped (p : Char → Bool) : List Char → List Char × List Char
  | '_' :: c :: rest =>
    if p c then
      let (ds, rest) := grouped p rest
      (c :: ds, rest)
    else ([], '_' :: c :: rest)
  | c :: rest =>
    if p c then
      let (ds, rest) := grouped p rest
      (c :: ds, rest)
    else ([], c :: rest)
  | [] => ([], [])

/-- At least one digit of a class. -/
def digits? (p : Char → Bool) (cs : List Char) : Option (List Char × List Char) :=
  match cs with
  | c :: _ => if p c then some (grouped p cs) else none
  | [] => none

/-- A sign, and whether it is a minus. -/
def sign : List Char → Bool × List Char
  | '-' :: rest => (true, rest)
  | '+' :: rest => (false, rest)
  | cs => (false, cs)

/-- The digits of a decimal number without a sign. A zero stands alone. -/
def unsigned? : List Char → Option (List Char × List Char)
  | '0' :: rest => some (['0'], rest)
  | cs => digits? Char.isDigit cs

def isInt64 (n : Int) : Bool := decide (-Nat.pow 2 63 ≤ n ∧ n < Nat.pow 2 63)

def digitsWithin (base : Nat) (c : Char) : Bool :=
  match Text.Hex.digit? c with
  | some d => decide (d < base)
  | none => false

def ofDigits (base : Nat) (ds : List Char) : Nat :=
  ds.foldl (fun n c => base * n + (Text.Hex.digit? c).getD 0) 0

/-- A whole number in a base other than ten. -/
def basedInteger? (base : Nat) (cs : List Char) : Option (Int × List Char) := do
  let (ds, rest) ← digits? (digitsWithin base) cs
  return (ofDigits base ds, rest)

def integer? (cs : List Char) : Option (Int × List Char) := do
  let (n, rest) ← match cs with
    | '0' :: 'x' :: rest => basedInteger? 16 rest
    | '0' :: 'o' :: rest => basedInteger? 8 rest
    | '0' :: 'b' :: rest => basedInteger? 2 rest
    | cs => do
      let (negative, cs) := sign cs
      let (ds, rest) ← unsigned? cs
      let n : Int := ofDigits 10 ds
      pure (if negative then -n else n, rest)
  if isInt64 n then return (n, rest) else none

/-- The least number that no double is near: half a step above the largest double. -/
def overflowBound : Nat := Nat.pow 2 1024 - Nat.pow 2 970

/-- Whether a decimal with so many places after the point and an exponent is too large. -/
def overflows (ds : List Char) (places : Nat) (exponent : Int) : Bool :=
  let n := ofDigits 10 ds
  let e := exponent - places
  let width : Int := (Decimal.digits n).length
  if n = 0 then false
  else if 310 < width + e then true
  else if width + e < 308 then false
  else if 0 ≤ e then decide (overflowBound ≤ n * Nat.pow 10 e.toNat)
  else decide (overflowBound * Nat.pow 10 (-e).toNat ≤ n)

/-- The digits after a point. -/
def places? : List Char → Option (List Char × List Char)
  | '.' :: rest => digits? Char.isDigit rest
  | _ => none

def exponent? : List Char → Option (Int × List Char)
  | c :: rest =>
    if c = 'e' ∨ c = 'E' then do
      let (negative, rest) := sign rest
      let (ds, rest) ← digits? Char.isDigit rest
      let n : Int := ofDigits 10 ds
      return (if negative then -n else n, rest)
    else none
  | [] => none

/-- The rest after one of the two special fractions. -/
def special? : List Char → Option (List Char)
  | 'i' :: 'n' :: 'f' :: rest => some rest
  | 'n' :: 'a' :: 'n' :: rest => some rest
  | _ => none

/-- The rest after a fraction: a number with places, an exponent or both, or a special one. Only an
excess without a minus is refused. -/
def float? (cs : List Char) : Option (List Char) :=
  let (negative, unsigned) := sign cs
  match special? unsigned with
  | some rest => some rest
  | none => do
    let (whole, rest) ← unsigned? unsigned
    let (places, rest) ← match places? rest with
      | some (ds, rest) => pure (ds, rest)
      | none => if (exponent? rest).isSome then pure ([], rest) else none
    let (e, rest) := (exponent? rest).getD (0, rest)
    if !negative && overflows (whole ++ places) places.length e then none else return rest

/-- A number of exactly so many digits within bounds. -/
def field? (width low high : Nat) (cs : List Char) : Option (Nat × List Char) :=
  let ds := cs.take width
  if ds.length = width ∧ ds.all Char.isDigit then
    let n := Decimal.ofDigits ds
    if low ≤ n ∧ n ≤ high then some (n, cs.drop width) else none
  else none

def separator? (c : Char) : List Char → Option (List Char)
  | d :: rest => if d = c then some rest else none
  | [] => none

def daysIn (year month : Nat) : Nat :=
  if month = 2 then
    if year % 4 = 0 ∧ (year % 100 ≠ 0 ∨ year % 400 = 0) then 29 else 28
  else if month = 4 ∨ month = 6 ∨ month = 9 ∨ month = 11 then 30
  else 31

/-- The rest after a date. -/
def date? (cs : List Char) : Option (List Char) := do
  let (year, rest) ← field? 4 0 9999 cs
  let rest ← separator? '-' rest
  let (month, rest) ← field? 2 1 12 rest
  let rest ← separator? '-' rest
  let (_, rest) ← field? 2 1 (daysIn year month) rest
  return rest

/-- The rest after digits of a second's fraction, if a point begins them. -/
def secondFraction? : List Char → Option (List Char)
  | '.' :: c :: rest => if c.isDigit then some (rest.dropWhile Char.isDigit) else none
  | '.' :: [] => none
  | cs => some cs

/-- The rest after a time of day. -/
def time? (cs : List Char) : Option (List Char) := do
  let (_, rest) ← field? 2 0 23 cs
  let rest ← separator? ':' rest
  let (_, rest) ← field? 2 0 59 rest
  let rest ← separator? ':' rest
  let (_, rest) ← field? 2 0 60 rest
  secondFraction? rest

/-- The rest after a distance from universal time, if there is one. -/
def offset? : List Char → Option (List Char)
  | [] => some []
  | c :: rest =>
    if c = 'Z' ∨ c = 'z' then some rest
    else if c = '+' ∨ c = '-' then do
      let (_, rest) ← field? 2 0 23 rest
      let rest ← separator? ':' rest
      let (_, rest) ← field? 2 0 59 rest
      return rest
    else some (c :: rest)

/-- The rest after a date, a time, or a date and a time with or without a distance. -/
def moment? (cs : List Char) : Option (List Char) :=
  match date? cs with
  | none => time? cs
  | some rest =>
    match rest with
    | c :: after =>
      if c = 'T' ∨ c = 't' ∨ c = ' ' then
        match time? after with
        | some rest => offset? rest
        | none => some rest
      else some rest
    | [] => some []

/-- What is read of a text when some rest is left. -/
def consumed (cs rest : List Char) : List Char := cs.take (cs.length - rest.length)

/-- A number or a point in time. -/
def number? (cs : List Char) : Option (Node × List Char) :=
  match moment? cs with
  | some rest => some (.moment (consumed cs rest), rest)
  | none =>
    match float? cs with
    | some rest => some (.float (consumed cs rest), rest)
    | none => (integer? cs).map fun (n, rest) => (.integer n, rest)

end Telemetry.Toml
