import Telemetry.Text.Utf8

/-!
# Fields on the wire

A message is a run of fields, each a key (number and wire type) and a content. Readers take bytes and
give what stands at their front with the rest. `mergeFields` reads a whole message by folding its
fields into a state; `skip?` passes over the content of a field that nobody knows, and nested groups
use up its budget.
-/
namespace Telemetry.Wire

abbrev Bytes := List UInt8

/-- The bytes of a number in groups of seven bits, the lowest first. -/
def varint (n : Nat) : Bytes :=
  if n < 128 then [.ofNat n] else .ofNat (n % 128 + 128) :: varint (n / 128)

/-- A number of at most so many bytes; the last of them holds one bit. -/
def varintWithin? : Nat → Bytes → Option (Nat × Bytes)
  | 0, _ => none
  | _, [] => none
  | n + 1, b :: rest =>
    if b.toNat < 128 then
      if n = 0 ∧ 2 ≤ b.toNat then none else some (b.toNat, rest)
    else
      (varintWithin? n rest).map fun (v, rest) => (b.toNat - 128 + 128 * v, rest)

/-- A number below `2 ^ 64`. -/
def varint? (bytes : Bytes) : Option (Nat × Bytes) := varintWithin? 10 bytes

/-- So many bytes from the front. -/
def take? : Nat → Bytes → Option (Bytes × Bytes)
  | 0, bytes => some ([], bytes)
  | _ + 1, [] => none
  | n + 1, b :: rest => (take? n rest).map fun (taken, rest) => (b :: taken, rest)

/-- The lowest `width` bytes of a number, the lowest first. -/
def littleEndian : Nat → Nat → Bytes
  | 0, _ => []
  | width + 1, n => .ofNat (n % 256) :: littleEndian width (n / 256)

def ofLittleEndian : Bytes → Nat
  | [] => 0
  | b :: rest => b.toNat + 256 * ofLittleEndian rest

inductive WireType where
  | varint
  | fixed64
  | delimited
  | groupStart
  | groupEnd
  | fixed32
  deriving DecidableEq

namespace WireType

def code : WireType → Nat
  | varint => 0
  | fixed64 => 1
  | delimited => 2
  | groupStart => 3
  | groupEnd => 4
  | fixed32 => 5

def ofCode? : Nat → Option WireType
  | 0 => some varint
  | 1 => some fixed64
  | 2 => some delimited
  | 3 => some groupStart
  | 4 => some groupEnd
  | 5 => some fixed32
  | _ => none

end WireType

def key (number : Nat) (type : WireType) : Bytes := varint (8 * number + type.code)

/-- A key of at most 32 bits with a number that is not zero. -/
def key? (bytes : Bytes) : Option ((Nat × WireType) × Bytes) := do
  let (k, rest) ← varint? bytes
  let type ← WireType.ofCode? (k % 8)
  if k < Nat.pow 2 32 ∧ 8 ≤ k then return ((k / 8, type), rest) else none

/-- A run of bytes after its length. -/
def delimitedContent? (bytes : Bytes) : Option (Bytes × Bytes) := do
  let (n, rest) ← varint? bytes
  take? n rest

def varintField? (type : WireType) (bytes : Bytes) : Option (Nat × Bytes) :=
  if type = .varint then varint? bytes else none

def fixed64Field? (type : WireType) (bytes : Bytes) : Option (Nat × Bytes) :=
  if type = .fixed64 then (take? 8 bytes).map fun (taken, rest) => (ofLittleEndian taken, rest)
  else none

def delimitedField? (type : WireType) (bytes : Bytes) : Option (Bytes × Bytes) :=
  if type = .delimited then delimitedContent? bytes else none

def textField? (type : WireType) (bytes : Bytes) : Option (String × Bytes) := do
  let (content, rest) ← delimitedField? type bytes
  let s ← Text.ofUtf8? content
  return (s, rest)

/-- The fields of a group up to its end, at most as many as the budget of steps. -/
def skipGroup? (inner : Nat → WireType → Bytes → Option Bytes) (number : Nat) :
    Nat → Bytes → Option Bytes
  | 0, _ => none
  | n + 1, bytes => do
    let ((m, type), rest) ← key? bytes
    if type = .groupEnd then
      if m = number then return rest else none
    else
      let rest ← inner m type rest
      skipGroup? inner number n rest

/-- Passes over the content of a field. Without a budget nothing is passed over. -/
def skip? : Nat → Nat → WireType → Bytes → Option Bytes
  | 0, _, _, _ => none
  | budget + 1, number, type, bytes =>
    match type with
    | .varint => (varint? bytes).map (·.2)
    | .fixed64 => (take? 8 bytes).map (·.2)
    | .delimited => (delimitedContent? bytes).map (·.2)
    | .groupStart => skipGroup? (skip? budget) number bytes.length bytes
    | .groupEnd => none
    | .fixed32 => (take? 4 bytes).map (·.2)

/-- Folds the fields of a message into a state, at most as many as the budget of steps. -/
def mergeWithin {σ : Type} (step : Nat → WireType → σ → Bytes → Option (σ × Bytes)) :
    Nat → σ → Bytes → Option σ
  | _, s, [] => some s
  | 0, _, _ :: _ => none
  | n + 1, s, b :: bytes => do
    let ((number, type), rest) ← key? (b :: bytes)
    let (s, rest) ← step number type s rest
    mergeWithin step n s rest

/-- Folds the fields of a message into a state. A field takes at least one byte. -/
def mergeFields {σ : Type} (step : Nat → WireType → σ → Bytes → Option (σ × Bytes)) (s : σ)
    (bytes : Bytes) : Option σ :=
  mergeWithin step bytes.length s bytes

def delimited (number : Nat) (content : Bytes) : Bytes :=
  key number .delimited ++ (varint content.length ++ content)

/-- The number whose 64-bit form, read with a sign, is the given one. -/
def twosComplement (n : Int) : Nat := (n % Nat.pow 2 64).toNat

/-- A text that is left out when empty. -/
def textUnlessEmpty (number : Nat) (s : String) : Bytes :=
  if s = "" then [] else delimited number (Text.utf8 s)

/-- A number that is left out when zero. -/
def numberUnlessZero (number : Nat) (n : Int) : Bytes :=
  if n = 0 then [] else key number .varint ++ varint (twosComplement n)

end Telemetry.Wire
