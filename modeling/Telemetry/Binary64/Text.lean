import Telemetry.Decimal.Shortest

/-!
# Doubles as texts

A double is written in as few digits as tell it from every other, always positionally and with a point
only before a fraction. It is read from decimal digits with a point and an exponent, or from the name of
what is no finite number, and is then the double nearest to what is written.
-/
namespace Telemetry.Binary64

/-- Digits whose first has a place, written positionally. -/
def positional (ds : List Char) (place : Int) : List Char :=
  if place < 0 then '0' :: '.' :: (List.replicate (place.natAbs - 1) '0' ++ ds)
  else
    let whole := place.toNat + 1
    let fraction := ds.drop whole
    ds.take whole ++ List.replicate (whole - ds.length) '0' ++
      (if fraction.isEmpty then [] else '.' :: fraction)

def magnitudeText (word : Nat) : List Char :=
  if infinityWord ≤ word then ['i', 'n', 'f']
  else if word = 0 then ['0']
  else
    let (ds, place) := (Decimal.shortest word).significant
    positional ds place

/-- The text of a double. What is no number has no sign. -/
def toText (x : Binary64) : List Char :=
  if x.isNaN then ['N', 'a', 'N']
  else if x.isNegative then '-' :: magnitudeText x.word
  else magnitudeText x.word

/-- A word that is no number. -/
def notANumber : Nat := infinityWord + Nat.pow 2 51

/-- The word nearest to `n * 10 ^ e`. What has its first digit far beyond the places of all doubles
rounds to infinity or to zero. -/
def nearestDecimal (n : Nat) (e : Int) : Nat :=
  let place := (Decimal.digits n).length + e
  if n = 0 ∨ place < -400 then 0
  else if 400 < place then infinityWord
  else if 0 ≤ e then nearestWord (n * Nat.pow 10 e.toNat * stepsPerOne) 1
  else nearestWord (n * stepsPerOne) (Nat.pow 10 e.natAbs)

/-- A sign, and whether it is a minus. -/
def sign : List Char → Bool × List Char
  | '-' :: rest => (true, rest)
  | '+' :: rest => (false, rest)
  | cs => (false, cs)

/-- The exponent that a text writes after its mark, or zero when nothing is written. -/
def exponent? : List Char → Option Int
  | [] => some 0
  | c :: rest =>
    if c = 'e' ∨ c = 'E' then
      let (negative, ds) := sign rest
      (Decimal.natural? ds).map fun n => if negative then -n else n
    else none

/-- The digits after a point, and the rest; there may be neither point nor digits. -/
def fraction : List Char → List Char × List Char
  | '.' :: rest => (rest.takeWhile Char.isDigit, rest.dropWhile Char.isDigit)
  | rest => ([], rest)

/-- The word of a decimal without a sign. There is a digit before the point or after it. -/
def decimalWord? (cs : List Char) : Option Nat := do
  let whole := cs.takeWhile Char.isDigit
  let (places, rest) := fraction (cs.dropWhile Char.isDigit)
  if whole.isEmpty && places.isEmpty then none
  else
    let e ← exponent? rest
    return nearestDecimal (Decimal.ofDigits (whole ++ places)) (e - places.length)

/-- The names of what is no finite number, in lower case, with their words. -/
def names : List (List Char × Nat) :=
  [("inf".toList, infinityWord), ("infinity".toList, infinityWord), ("nan".toList, notANumber)]

def word? (cs : List Char) : Option Nat :=
  (names.lookup (cs.map Char.toLower)).or (decimalWord? cs)

def ofText? (cs : List Char) : Option Binary64 :=
  let (negative, unsigned) := sign cs
  (word? unsigned).map (ofWord negative)

end Telemetry.Binary64
