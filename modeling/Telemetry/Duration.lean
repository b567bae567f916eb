import Telemetry.Decimal

/-!
# Lengths of time

A length of time is a number of nanoseconds. It is shown in the largest unit of which it holds at least
one.
-/
namespace Telemetry

abbrev Duration := Nat

namespace Duration

def ofSeconds (n : Nat) : Duration := n * 1000000000

/-- A whole number of units and what is left, as a decimal. `scale` is the number of digits that the
rest has. -/
def decimal (whole rest scale : Nat) : List Char :=
  let fraction := Decimal.padded scale rest
  let fraction := (fraction.reverse.dropWhile (· = '0')).reverse
  Decimal.digits whole ++ if fraction.isEmpty then [] else '.' :: fraction

/-- The text in seconds, in thousandths, in millionths or in nanoseconds. -/
def text (d : Duration) : List Char :=
  if 1000000000 ≤ d then decimal (d / 1000000000) (d % 1000000000) 9 ++ ['s']
  else if 1000000 ≤ d then decimal (d / 1000000) (d % 1000000) 6 ++ ['m', 's']
  else if 1000 ≤ d then decimal (d / 1000) (d % 1000) 3 ++ ['µ', 's']
  else Decimal.digits d ++ ['n', 's']

end Duration
end Telemetry
