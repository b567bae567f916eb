/-!
# Decimal digits

Numbers written in decimal digits, and read from them.
-/
namespace Telemetry.Decimal

def ofDigit (d : Nat) : Char := Char.ofNat ('0'.toNat + d)

def digit? (c : Char) : Option Nat :=
  if c.isDigit then some (c.toNat - '0'.toNat) else none

/-- The decimal digits of a number, most significant first. -/
def digits (n : Nat) : List Char :=
  if n < 10 then [ofDigit n] else digits (n / 10) ++ [ofDigit (n % 10)]

/-- The number that decimal digits write, after a number written before them. -/
def appendDigits (before : Nat) (ds : List Char) : Nat :=
  ds.foldl (fun n c => 10 * n + (c.toNat - '0'.toNat)) before

def ofDigits (ds : List Char) : Nat := appendDigits 0 ds

def signed (n : Int) : List Char :=
  if n < 0 then '-' :: digits n.natAbs else digits n.natAbs

/-- The number that a text writes in decimal digits alone, at least one of them. -/
def natural? (cs : List Char) : Option Nat :=
  if cs.isEmpty then none else if cs.all Char.isDigit then some (ofDigits cs) else none

/-- The text of a number, padded with zeros to a width. -/
def padded (width n : Nat) : List Char :=
  let ds := digits n
  List.replicate (width - ds.length) '0' ++ ds

end Telemetry.Decimal
