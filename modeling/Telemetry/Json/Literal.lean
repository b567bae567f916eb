import Telemetry.Decimal
import Telemetry.Json

/-!
# Number literals

A literal keeps the digits of a number as they are written. `Number.ofLiteral?` gives its value: an
integer that fits 64 bits is kept, any other number becomes a double from the leading digits that fit
64 bits and one power of ten, each step rounded.
-/
namespace Telemetry

structure Literal where
  negative : Bool
  whole : List Char
  fraction : Option (List Char)
  exponent : Option Int
  deriving DecidableEq

namespace Literal

/-- Digits up to the first other character; there must be one. -/
def digits? (cs : List Char) : Option (List Char × List Char) :=
  match cs.takeWhile Char.isDigit with
  | [] => none
  | d :: ds => some (d :: ds, cs.dropWhile Char.isDigit)

/-- A fraction, if a point follows. -/
def fraction? : List Char → Option (Option (List Char) × List Char)
  | '.' :: rest => (digits? rest).map fun (ds, rest) => (some ds, rest)
  | rest => some (none, rest)

/-- The digits of an exponent after its sign. -/
def signedExponent? : List Char → Option (Int × List Char)
  | '+' :: rest => (digits? rest).map fun (ds, rest) => ((Decimal.ofDigits ds : Int), rest)
  | '-' :: rest => (digits? rest).map fun (ds, rest) => (-(Decimal.ofDigits ds : Int), rest)
  | rest => (digits? rest).map fun (ds, rest) => ((Decimal.ofDigits ds : Int), rest)

/-- An exponent, if its mark follows. -/
def exponent? : List Char → Option (Option Int × List Char)
  | 'e' :: rest => (signedExponent? rest).map fun (e, rest) => (some e, rest)
  | 'E' :: rest => (signedExponent? rest).map fun (e, rest) => (some e, rest)
  | rest => some (none, rest)

/-- A literal without its sign. A whole part of several digits does not start with zero. -/
def unsigned? (negative : Bool) (cs : List Char) : Option (Literal × List Char) := do
  let (whole, rest) ← digits? cs
  if whole.head? = some '0' ∧ whole.length ≠ 1 then none
  else
    let (fraction, rest) ← fraction? rest
    let (exponent, rest) ← exponent? rest
    return (⟨negative, whole, fraction, exponent⟩, rest)

/-- The literal at the front of a text. -/
def read? : List Char → Option (Literal × List Char)
  | '-' :: rest => unsigned? true rest
  | rest => unsigned? false rest

end Literal

namespace Number

/-- Takes digits into a coefficient as long as it stays below `2 ^ 64`, and leaves the others. -/
def fill (coefficient : Nat) : List Char → Nat × List Char
  | [] => (coefficient, [])
  | d :: ds =>
    let next := 10 * coefficient + (d.toNat - '0'.toNat)
    if next < Nat.pow 2 64 then fill next ds else (coefficient, d :: ds)

/-- The leading digits of a literal that fit 64 bits, and the power of ten to scale them by. -/
def parts (l : Literal) : Nat × Int :=
  let (whole, cut) := fill 0 l.whole
  let (coefficient, taken) :=
    match l.fraction with
    | none => (whole, 0)
    | some ds =>
      let (coefficient, rest) := fill whole ds
      (coefficient, ds.length - rest.length)
  (coefficient, (cut.length : Int) - taken + l.exponent.getD 0)

/-- The double nearest to a power of ten. -/
def powerWord (e : Nat) : Nat := Binary64.nearestWord (Nat.pow 10 e * Binary64.stepsPerOne) 1

/-- A word times a power of ten, `none` where that is no double. The largest power that is a double
is `10 ^ 308`. -/
def scaleUp? (word e : Nat) : Option Nat :=
  if word = 0 then some 0
  else if 308 < e then none
  else
    let scaled := Binary64.mulWord word (powerWord e)
    if scaled < Binary64.infinityWord then some scaled else none

/-- A word divided by `10 ^ 308` a number of times. -/
def shrink (word : Nat) : Nat → Nat
  | 0 => word
  | n + 1 => if word = 0 then 0 else shrink (Binary64.divWord word (powerWord 308)) n

/-- A word divided by a power of ten, by no more than `10 ^ 308` at a time. -/
def scaleDown (word e : Nat) : Nat :=
  let rounds := (e - 1) / 308
  Binary64.divWord (shrink word rounds) (powerWord (e - 308 * rounds))

def scale? (word : Nat) (e : Int) : Option Nat :=
  if 0 ≤ e then scaleUp? word e.toNat else some (scaleDown word e.natAbs)

/-- The double of a literal, `none` where it is too large. -/
def doubleOfLiteral? (l : Literal) : Option Number := do
  let (coefficient, e) := parts l
  let word ← scale? (Binary64.nearestWord (coefficient * Binary64.stepsPerOne) 1) e
  let x := Binary64.ofWord l.negative word
  if h : x.isFinite = true then some (.double x h) else none

/-- The value of a literal. Negative zero is a double, since no integer is. -/
def ofLiteral? (l : Literal) : Option Number :=
  if l.fraction.isSome ∨ l.exponent.isSome then doubleOfLiteral? l
  else
    let magnitude : Int := Decimal.ofDigits l.whole
    if l.negative ∧ magnitude = 0 then doubleOfLiteral? l
    else
      let n := if l.negative then -magnitude else magnitude
      if h : -Nat.pow 2 63 ≤ n ∧ n < Nat.pow 2 64 then some (.integer n h) else doubleOfLiteral? l

end Number
end Telemetry
