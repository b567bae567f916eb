/-!
# Base64

The standard alphabet with padding in its one canonical form: groups of four symbols, of which only the
last may be padded, and no bits left over. An error names the byte and its offset.
-/
namespace Telemetry.Base64

inductive Error where
  | invalidSymbol (byte : UInt8) (offset : Nat)
  | invalidLength (length : Nat)
  | invalidLastSymbol (byte : UInt8) (offset : Nat)
  | invalidPadding
  deriving DecidableEq

def Error.message : Error → String
  | invalidSymbol byte offset => s!"Invalid symbol {byte.toNat}, offset {offset}."
  | invalidLength length => s!"Invalid input length: {length}"
  | invalidLastSymbol byte offset => s!"Invalid last symbol {byte.toNat}, offset {offset}."
  | invalidPadding => "Invalid padding"

def pad : UInt8 := 61

/-- The six bits of a symbol: letters, small letters, digits, `+` and `/`. -/
def symbol? (b : UInt8) : Option Nat :=
  let n := b.toNat
  if 65 ≤ n ∧ n ≤ 90 then some (n - 65)
  else if 97 ≤ n ∧ n ≤ 122 then some (n - 97 + 26)
  else if 48 ≤ n ∧ n ≤ 57 then some (n - 48 + 52)
  else if n = 43 then some 62
  else if n = 47 then some 63
  else none

/-- The symbol of six bits. -/
def ofSixBits (n : Nat) : UInt8 :=
  if n < 26 then .ofNat (65 + n)
  else if n < 52 then .ofNat (97 + (n - 26))
  else if n < 62 then .ofNat (48 + (n - 52))
  else if n = 62 then 43
  else 47

/-- Symbols for each three bytes, with the last group padded. -/
def encode : List UInt8 → List UInt8
  | [] => []
  | [a] => [ofSixBits (a.toNat / 4), ofSixBits (a.toNat % 4 * 16), pad, pad]
  | [a, b] =>
    [ofSixBits (a.toNat / 4), ofSixBits (a.toNat % 4 * 16 + b.toNat / 16),
      ofSixBits (b.toNat % 16 * 4), pad]
  | a :: b :: c :: rest =>
    ofSixBits (a.toNat / 4) :: ofSixBits (a.toNat % 4 * 16 + b.toNat / 16) ::
      ofSixBits (b.toNat % 16 * 4 + c.toNat / 64) :: ofSixBits (c.toNat % 64) :: encode rest

/-- The symbols of bytes that start at an offset. -/
def symbols (offset : Nat) : List UInt8 → Except Error (List Nat)
  | [] => .ok []
  | b :: rest =>
    match symbol? b with
    | none => .error (.invalidSymbol b offset)
    | some n =>
      match symbols (offset + 1) rest with
      | .error e => .error e
      | .ok ns => .ok (n :: ns)

/-- The number that symbols write. -/
def ofSymbols (ns : List Nat) : Nat := ns.foldl (fun acc n => 64 * acc + n) 0

/-- The highest bytes of a number of so many bits. -/
def bytesOf (bits value : Nat) : List UInt8 :=
  (List.range (bits / 8)).map fun i => .ofNat (value / Nat.pow 2 (bits - 8 * (i + 1)) % 256)

/-- The last group: two symbols at least, padding to four, and no bits left over. -/
def decodeLast (offset : Nat) (group : List UInt8) : Except Error (List UInt8) :=
  let written := group.takeWhile (· ≠ pad)
  let padding := group.dropWhile (· ≠ pad)
  match symbols offset written with
  | .error e => .error e
  | .ok ns =>
    let count := ns.length
    if !padding.isEmpty && (decide (count < 2) || padding.any (· ≠ pad)) then
      .error (.invalidSymbol pad (offset + count))
    else if !group.isEmpty && decide (count < 2) then .error (.invalidLength (offset + count))
    else if (count + padding.length) % 4 ≠ 0 then .error .invalidPadding
    else
      let value := ofSymbols ns
      if value % Nat.pow 2 (6 * count % 8) ≠ 0 then
        .error (.invalidLastSymbol (written.getLast?.getD pad) (offset + (count - 1)))
      else .ok (bytesOf (6 * count) value)

/-- Groups from an offset on. -/
def decodeFrom (offset : Nat) : List UInt8 → Except Error (List UInt8)
  | a :: b :: c :: d :: rest =>
    if rest.isEmpty then decodeLast offset [a, b, c, d]
    else
      match symbols offset [a, b, c, d] with
      | .error e => .error e
      | .ok ns =>
        match decodeFrom (offset + 4) rest with
        | .error e => .error e
        | .ok bytes => .ok (bytesOf 24 (ofSymbols ns) ++ bytes)
  | group => decodeLast offset group

/-- A byte too many that is no symbol either is reported first. -/
def decode (bytes : List UInt8) : Except Error (List UInt8) :=
  match bytes.getLast? with
  | some last =>
    if bytes.length % 4 = 1 ∧ last ≠ pad ∧ symbol? last = none then
      .error (.invalidSymbol last (bytes.length - 1))
    else decodeFrom 0 bytes
  | none => .ok []

end Telemetry.Base64
