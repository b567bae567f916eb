import Telemetry.Decimal.Shortest
import Telemetry.Json
import Telemetry.Text.Hex

/-!
# Printing JSON

The compact and the indented form come from one printer; they differ in what stands at a line break
and after a colon. Members are printed in the order in which the document holds them.
-/
namespace Telemetry.Json

/-- A number is written positionally, always with a point, when its first digit has one of these
places; otherwise with an exponent, whose sign is always written. -/
structure NumberStyle where
  lowestPlace : Int
  highestPlace : Int

def numberStyle : NumberStyle := ⟨-5, 15⟩

/-- Positional digits, with the point after the digit of place zero. -/
def positional (ds : List Char) (place : Int) : List Char :=
  if place < 0 then
    '0' :: '.' :: (List.replicate (place.natAbs - 1) '0' ++ ds)
  else
    let whole := place.toNat + 1
    let fraction := ds.drop whole
    ds.take whole ++ List.replicate (whole - ds.length) '0' ++
      '.' :: (if fraction.isEmpty then ['0'] else fraction)

/-- The first digit, a point before the others if there are any, and the exponent. -/
def scientific (ds : List Char) (place : Int) : List Char :=
  let mark := if place < 0 then '-' else '+'
  let tail := 'e' :: mark :: Decimal.digits place.natAbs
  match ds with
  | d :: e :: rest => d :: '.' :: e :: rest ++ tail
  | ds => ds ++ tail

/-- The text of a finite magnitude. -/
def magnitudeText (word : Nat) : List Char :=
  if word = 0 then ['0', '.', '0']
  else
    let (ds, place) := (Decimal.shortest word).significant
    if numberStyle.lowestPlace ≤ place ∧ place ≤ numberStyle.highestPlace then
      positional ds place
    else
      scientific ds place

def numberText : Number → List Char
  | .integer n _ => Decimal.signed n
  | .double x _ =>
    if x.isNegative then '-' :: magnitudeText x.word else magnitudeText x.word

/-- The characters that stand for one inside a string. -/
def escaped (c : Char) : List Char :=
  if c = '"' then ['\\', '"']
  else if c = '\\' then ['\\', '\\']
  else if c = '\n' then ['\\', 'n']
  else if c = '\r' then ['\\', 'r']
  else if c = '\t' then ['\\', 't']
  else if c.toNat = 8 then ['\\', 'b']
  else if c.toNat = 12 then ['\\', 'f']
  else if c.toNat < 32 then '\\' :: 'u' :: Text.Hex.padded 4 c.toNat
  else [c]

def quoted (s : String) : List Char :=
  '"' :: (s.toList.flatMap escaped ++ ['"'])

inductive Layout where
  | compact
  | indented
  deriving DecidableEq

namespace Layout

def lineBreak (layout : Layout) (depth : Nat) : List Char :=
  match layout with
  | .compact => []
  | .indented => '\n' :: List.replicate (2 * depth) ' '

def colon : Layout → List Char
  | .compact => [':']
  | .indented => [':', ' ']

/-- Items between brackets, each on a line of its own one level deeper; nothing stands between empty
brackets. -/
def enclose (layout : Layout) (depth : Nat) (left right : Char) (items : List (List Char)) :
    List Char :=
  if items.isEmpty then [left, right]
  else
    left :: (layout.lineBreak (depth + 1) ++
      (List.intercalate (',' :: layout.lineBreak (depth + 1)) items ++
        (layout.lineBreak depth ++ [right])))

end Layout

mutual

/-- The text of a document that stands at a depth. -/
def print (layout : Layout) (depth : Nat) : Json → List Char
  | .null => ['n', 'u', 'l', 'l']
  | .bool true => ['t', 'r', 'u', 'e']
  | .bool false => ['f', 'a', 'l', 's', 'e']
  | .number n => numberText n
  | .string s => quoted s
  | .array items => layout.enclose depth '[' ']' (printItems layout (depth + 1) items)
  | .object members => layout.enclose depth '\x7b' '\x7d' (printMembers layout (depth + 1) members)

def printItems (layout : Layout) (depth : Nat) : List Json → List (List Char)
  | [] => []
  | j :: rest => print layout depth j :: printItems layout depth rest

def printMembers (layout : Layout) (depth : Nat) : List (String × Json) → List (List Char)
  | [] => []
  | (key, j) :: rest =>
    (quoted key ++ (layout.colon ++ print layout depth j)) :: printMembers layout depth rest

end

/-- The text of a document without spaces. -/
def compact (j : Json) : String := .ofList (print .compact 0 j)

/-- The text of a document with two spaces of indentation for each level. -/
def pretty (j : Json) : String := .ofList (print .indented 0 j)

end Telemetry.Json
