import Telemetry.Text.Hex

/-!
# Universally unique identifiers

An identifier is read from 32 hexadecimal digits, from the hyphenated form with groups of 8, 4, 4, 4
and 12 digits, or from the hyphenated form in braces, and written in the hyphenated form. Any other text
has a fault, which `Uuid.fault` finds.
-/
namespace Telemetry

structure Uuid where
  bits : BitVec 128
  deriving DecidableEq

namespace Uuid

def hyphenate (ds : List Char) : List Char :=
  ds.take 8 ++ '-' :: ((ds.drop 8).take 4 ++ '-' :: ((ds.drop 12).take 4 ++ '-' ::
    ((ds.drop 16).take 4 ++ '-' :: ds.drop 20)))

def toList (u : Uuid) : List Char := hyphenate (Text.Hex.padded 32 u.bits.toNat)

def text (u : Uuid) : String := .ofList u.toList

def ofDigits? (cs : List Char) : Option Uuid :=
  if cs.length = 32 then (Text.Hex.value? cs).map fun n => ⟨.ofNat 128 n⟩ else none

/-- The digits of a hyphenated form, which has hyphens in four places and nowhere else. -/
def unhyphenate (cs : List Char) : List Char :=
  cs.take 8 ++ ((cs.drop 9).take 4 ++ ((cs.drop 14).take 4 ++ ((cs.drop 19).take 4 ++ cs.drop 24)))

def ofHyphenated? (cs : List Char) : Option Uuid :=
  if cs = hyphenate (unhyphenate cs) then ofDigits? (unhyphenate cs) else none

/-- What stands between braces. -/
def unbrace? : List Char → Option (List Char)
  | '\x7b' :: rest => if rest.getLast? = some '\x7d' then some rest.dropLast else none
  | _ => none

def ofList? (cs : List Char) : Option Uuid :=
  (ofDigits? cs).or ((ofHyphenated? cs).or ((unbrace? cs).bind ofHyphenated?))

inductive Fault where
  | length (found : Nat)
  | character (found : Char) (offset : Nat)
  | groupCount (found : Nat)
  | groupLength (group found : Nat)
  deriving DecidableEq

/-- The digits that a group of the hyphenated form has. -/
def groupSize (group : Nat) : Nat :=
  if group = 0 then 8 else if group = 4 then 12 else 4

def Fault.message : Fault → String
  | length found => s!"invalid length: found {found}"
  | character found offset =>
    "invalid character: found `" ++ String.singleton found ++ s!"` at {offset}"
  | groupCount found => s!"invalid group count: expected 5, found {found}"
  | groupLength group found =>
    s!"invalid group length in group {group}: expected {groupSize group}, found {found}"

/-- The first character that is neither a digit nor a hyphen, with its offset in bytes. -/
def strayCharacter? (offset : Nat) : List Char → Option (Char × Nat)
  | [] => none
  | c :: rest =>
    if (Text.Hex.digit? c).isSome ∨ c = '-' then strayCharacter? (offset + c.utf8Size) rest
    else some (c, offset)

/-- The places of the hyphens. -/
def hyphens (place : Nat) : List Char → List Nat
  | [] => []
  | c :: rest => if c = '-' then place :: hyphens (place + 1) rest else hyphens (place + 1) rest

/-- The first group whose closing hyphen is out of place, with its length. -/
def misplaced? (places : List Nat) : Option (Nat × Nat) :=
  ((places.zip [8, 13, 18, 23]).zip [(0, 0), (1, 9), (2, 14), (3, 19)]).findSome?
    fun ((place, expected), (group, start)) =>
      if place = expected then none else some (group, place - start)

def maxBytes : Nat := 45

/-- What is wrong with digits and hyphens that start at an offset of a text of so many bytes. -/
def faultOf (bytes offset : Nat) (braced : Bool) (cs : List Char) : Fault :=
  match strayCharacter? offset cs with
  | some (c, i) => .character c i
  | none =>
    let places := hyphens 0 cs
    if places.isEmpty && !braced then .length bytes
    else if places.length ≠ 4 then .groupCount (places.length + 1)
    else
      match misplaced? places with
      | some (group, found) => .groupLength group found
      | none => .groupLength 4 (bytes - 24)

/-- What is wrong with a text that is no identifier. A text as long as the hyphenated form or the form
in braces is looked at as that form, so that any other braces in it are characters like all others. -/
def fault (cs : List Char) : Fault :=
  let bytes := (String.ofList cs).utf8ByteSize
  if bytes = 0 ∨ maxBytes < bytes then .length bytes
  else
    match unbrace? cs with
    | none => faultOf bytes 0 false cs
    | some inner =>
      if bytes = 36 then faultOf bytes 0 false cs
      else if bytes = 38 then faultOf 36 0 false inner
      else faultOf bytes 1 true inner

def parse (cs : List Char) : Except Fault Uuid :=
  match ofList? cs with
  | some u => .ok u
  | none => .error (fault cs)

end Uuid
end Telemetry
