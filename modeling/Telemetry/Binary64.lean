/-!
# Double-precision numbers

A double is its 64-bit word, and two doubles are the same when their words are. Every finite double
is a whole number of steps of `2 ^ (-1074)`, and the word without its sign bit grows with the
magnitude. So nothing here needs fractions: a magnitude is a number of steps, an exact result is a
quotient of natural numbers in steps, and `nearestWord` takes it to the word of the nearest double.
-/
namespace Telemetry

structure Binary64 where
  bits : UInt64
  deriving DecidableEq

namespace Binary64

/-- The number of steps in one. -/
def stepsPerOne : Nat := Nat.pow 2 1074

/-- The word of positive infinity; the words above it are not numbers. -/
def infinityWord : Nat := 2047 * Nat.pow 2 52

def isNegative (x : Binary64) : Bool := decide (Nat.pow 2 63 ≤ x.bits.toNat)

/-- The word without its sign bit. -/
def word (x : Binary64) : Nat := x.bits.toNat % Nat.pow 2 63

def ofWord (negative : Bool) (word : Nat) : Binary64 :=
  ⟨.ofNat (if negative then Nat.pow 2 63 + word else word)⟩

def isFinite (x : Binary64) : Bool := decide (x.word < infinityWord)

def isNaN (x : Binary64) : Bool := decide (infinityWord < x.word)

/-- The binary logarithm of the gap above a word's double, in steps. The two lowest exponent fields
share the gap of one step. -/
def gapExponent (word : Nat) : Nat := word / Nat.pow 2 52 - 1

/-- The double of a word counted in gaps: below `2 ^ 53`, and at least `2 ^ 52` unless the gap is
one step. -/
def significand (word : Nat) : Nat := word - gapExponent word * Nat.pow 2 52

/-- The magnitude of a finite word, in steps. -/
def steps (word : Nat) : Nat := significand word * Nat.pow 2 (gapExponent word)

/-- The word nearest to `num / den` steps. A tie goes to the even word, and what rounds beyond the
largest finite double is infinite. -/
def nearestWord (num den : Nat) : Nat :=
  let gap := (num / den).log2 - 52
  let unit := den * Nat.pow 2 gap
  let below := num / unit
  let left := num % unit
  let count := if 2 * left < unit ∨ (2 * left = unit ∧ below % 2 = 0) then below else below + 1
  min (gap * Nat.pow 2 52 + count) infinityWord

def ofInt (n : Int) : Binary64 :=
  ofWord (decide (n < 0)) (nearestWord (n.natAbs * stepsPerOne) 1)

/-- The rounded product of two finite magnitudes. -/
def mulWord (a b : Nat) : Nat := nearestWord (steps a * steps b) stepsPerOne

/-- The rounded quotient of two finite magnitudes. -/
def divWord (a b : Nat) : Nat := nearestWord (steps a * stepsPerOne) (steps b)

/-- The double of a single-precision word. A single is a whole number of `2 ^ (-149)`, so the value
is kept exactly; what is not a number stays none, with its payload. -/
def ofSingle (bits : UInt32) : Binary64 :=
  let negative := decide (Nat.pow 2 31 ≤ bits.toNat)
  let single := bits.toNat % Nat.pow 2 31
  if single < 255 * Nat.pow 2 23 then
    let gap := single / Nat.pow 2 23 - 1
    let magnitude := (single - gap * Nat.pow 2 23) * Nat.pow 2 gap * Nat.pow 2 (1074 - 149)
    ofWord negative (nearestWord magnitude 1)
  else if single = 255 * Nat.pow 2 23 then
    ofWord negative infinityWord
  else
    ofWord negative (infinityWord + Nat.pow 2 51 + single % Nat.pow 2 22 * Nat.pow 2 29)

end Binary64
end Telemetry
