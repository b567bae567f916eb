/-!
# Hexadecimal digits
-/
namespace Telemetry.Text.Hex

/-- The lower-case digit of a number below sixteen. -/
def ofDigit (d : Nat) : Char :=
  if d < 10 then Char.ofNat ('0'.toNat + d) else Char.ofNat ('a'.toNat + (d - 10))

/-- The value of a digit in either letter case. -/
def digit? (c : Char) : Option Nat :=
  if '0' ≤ c ∧ c ≤ '9' then some (c.toNat - '0'.toNat)
  else if 'a' ≤ c ∧ c ≤ 'f' then some (c.toNat - 'a'.toNat + 10)
  else if 'A' ≤ c ∧ c ≤ 'F' then some (c.toNat - 'A'.toNat + 10)
  else none

/-- The lowest `width` digits of a number, most significant first. -/
def padded : Nat → Nat → List Char
  | 0, _ => []
  | width + 1, n => padded width (n / 16) ++ [ofDigit (n % 16)]

/-- The digits of a number without leading zeros. -/
def digits (n : Nat) : List Char :=
  if n < 16 then [ofDigit n] else digits (n / 16) ++ [ofDigit (n % 16)]

/-- The number that digits write, or `none` if one of them is no digit. -/
def value? (cs : List Char) : Option Nat :=
  cs.foldlM (fun n c => (digit? c).map (16 * n + ·)) 0

/-- Two digits for each byte. -/
def ofBytes (bytes : List UInt8) : List Char :=
  bytes.flatMap fun b => padded 2 b.toNat

def toBytes? : List Char → Option (List UInt8)
  | [] => some []
  | [_] => none
  | a :: b :: rest => do
    let high ← digit? a
    let low ← digit? b
    let bytes ← toBytes? rest
    return .ofNat (16 * high + low) :: bytes

end Telemetry.Text.Hex
