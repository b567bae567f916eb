import Telemetry.Binary64
import Telemetry.Decimal

/-!
# The shortest decimal of a double

Among the decimals that round to a double, `shortest` takes one with the fewest digits; of these the
nearest, and of two equally near ones the even one. In units of `10 ^ (-1074)` every finite double is a
natural number, so the grids of decimals with fewer places are the multiples of `10 ^ n`, and the search
for the coarsest grid that still tells the double apart works on natural numbers alone.
-/
namespace Telemetry.Decimal

/-- A positive decimal `coefficient * 10 ^ (place - 1074)`. -/
structure Grid where
  coefficient : Nat
  place : Nat
  deriving DecidableEq

/-- The digits of a decimal without the zeros at their end, and the place of the first digit. -/
def Grid.significant (grid : Grid) : List Char × Int :=
  let ds := digits grid.coefficient
  let kept := (ds.reverse.dropWhile (· == '0')).reverse
  (kept, (ds.length : Int) - 1 + grid.place - 1074)

/-- One step of a double in units of `10 ^ (-1074)`. -/
def unitsPerStep : Nat := Nat.pow 5 1074

/-- The magnitude of a finite word in units of `10 ^ (-1074)`. -/
def units (word : Nat) : Nat := Binary64.steps word * unitsPerStep

/-- Whether a number of units rounds to a finite word: it is at most half a gap away, less than that
when the word is odd. Below a power of two the gap is half of the gap above. -/
def roundsTo (word n : Nat) : Bool :=
  let gap := Nat.pow 2 (Binary64.gapExponent word) * unitsPerStep
  let halved := Binary64.significand word = Nat.pow 2 52 ∧ 0 < Binary64.gapExponent word
  let low := 4 * units word - (if halved then gap else 2 * gap)
  let high := 4 * units word + 2 * gap
  if word % 2 = 0 then decide (low ≤ 4 * n ∧ 4 * n ≤ high) else decide (low < 4 * n ∧ 4 * n < high)

/-- The multiple of `10 ^ place` nearest to a word among its two neighbours that round to it. A grid
coarser than the word's first digit has none. -/
def onGrid? (word place : Nat) : Option Nat :=
  let spacing := Nat.pow 10 place
  let below := units word / spacing
  let left := units word % spacing
  let lower := roundsTo word (below * spacing)
  let upper := roundsTo word ((below + 1) * spacing)
  if below = 0 then none
  else if lower && upper then
    if 2 * left < spacing ∨ (2 * left = spacing ∧ below % 2 = 0) then some below
    else some (below + 1)
  else if lower then some below
  else if upper then some (below + 1)
  else none

/-- The coarsest grid at or below a place that holds a decimal. Place zero holds every double exactly. -/
def coarsest (decimal? : Nat → Option Nat) (exact : Nat) : Nat → Grid
  | 0 => ⟨exact, 0⟩
  | place + 1 =>
    match decimal? (place + 1) with
    | some n => ⟨n, place + 1⟩
    | none => coarsest decimal? exact place

/-- The shortest decimal of a positive finite word. Thirteen binary places are fewer than four decimal
ones, so the search starts above the first digit. -/
def shortest (word : Nat) : Grid :=
  coarsest (onGrid? word) (units word) ((units word).log2 * 4 / 13 + 1)

end Telemetry.Decimal
