import Telemetry.Json.Literal
import Telemetry.Text.Hex

/-!
# Reading JSON

Readers take a list of characters and give what stands at its front with the rest. Containers nest
at most 127 deep, and that depth is what the recursion goes down on; the items of one container are
read by `listed`, which needs no more steps than there are characters.
-/
namespace Telemetry.Json

def isBlank (c : Char) : Bool := c == ' ' || c == '\n' || c == '\t' || c == '\r'

def skipBlank (cs : List Char) : List Char := cs.dropWhile isBlank

/-- The character of an escape of one letter. -/
def escape? (c : Char) : Option Char :=
  if c = '"' ∨ c = '\\' ∨ c = '/' then some c
  else if c = 'n' then some '\n'
  else if c = 'r' then some '\r'
  else if c = 't' then some '\t'
  else if c = 'b' then some (Char.ofNat 8)
  else if c = 'f' then some (Char.ofNat 12)
  else none

/-- The character of two surrogate code units. -/
def surrogatePair? (high low : Nat) : Option Char :=
  if 0xD800 ≤ high ∧ high < 0xDC00 ∧ 0xDC00 ≤ low ∧ low < 0xE000 then
    some (Char.ofNat (0x10000 + (high - 0xD800) * 0x400 + (low - 0xDC00)))
  else none

/-- The character of one code unit that is no surrogate. -/
def codeUnit? (u : Nat) : Option Char :=
  if 0xD800 ≤ u ∧ u < 0xE000 then none else some (Char.ofNat u)

/-- The characters of a string up to its closing quote. Surrogates must come in pairs. -/
def stringBody? : List Char → Option (List Char × List Char)
  | '"' :: rest => some ([], rest)
  | '\\' :: 'u' :: a :: b :: c :: d :: '\\' :: 'u' :: e :: f :: g :: h :: rest =>
    match Text.Hex.value? [a, b, c, d] with
    | none => none
    | some u =>
      match codeUnit? u with
      | some x =>
        (stringBody? ('\\' :: 'u' :: e :: f :: g :: h :: rest)).map fun (cs, r) => (x :: cs, r)
      | none =>
        match (Text.Hex.value? [e, f, g, h]).bind (surrogatePair? u) with
        | some x => (stringBody? rest).map fun (cs, r) => (x :: cs, r)
        | none => none
  | '\\' :: 'u' :: a :: b :: c :: d :: rest =>
    match (Text.Hex.value? [a, b, c, d]).bind codeUnit? with
    | some x => (stringBody? rest).map fun (cs, r) => (x :: cs, r)
    | none => none
  | '\\' :: e :: rest =>
    match escape? e with
    | some x => (stringBody? rest).map fun (cs, r) => (x :: cs, r)
    | none => none
  | c :: rest =>
    if c.toNat < 32 then none else (stringBody? rest).map fun (cs, r) => (c :: cs, r)
  | [] => none

/-- Items separated by commas up to a closing bracket, at most as many as the first argument says. -/
def listed {α : Type} (item : List Char → Option (α × List Char)) (close : Char) :
    Nat → List Char → Option (List α × List Char)
  | 0, _ => none
  | n + 1, cs =>
    match item cs with
    | none => none
    | some (a, rest) =>
      match skipBlank rest with
      | [] => none
      | c :: rest =>
        if c = close then some ([a], rest)
        else if c = ',' then (listed item close n rest).map fun (as, r) => (a :: as, r)
        else none

/-- What follows an opening bracket. -/
def enclosed {α : Type} (item : List Char → Option (α × List Char)) (close : Char)
    (cs : List Char) : Option (List α × List Char) :=
  match skipBlank cs with
  | [] => none
  | c :: rest => if c = close then some ([], rest) else listed item close cs.length cs

/-- A key, a colon and a value. -/
def member {α : Type} (item : List Char → Option (α × List Char)) (cs : List Char) :
    Option ((String × α) × List Char) :=
  match skipBlank cs with
  | '"' :: rest =>
    match stringBody? rest with
    | none => none
    | some (key, rest) =>
      match skipBlank rest with
      | ':' :: rest => (item rest).map fun (a, r) => ((String.ofList key, a), r)
      | _ => none
  | _ => none

/-- A document without containers. -/
def scalar? (number : Literal → Option Number) : List Char → Option (Json × List Char)
  | 'n' :: 'u' :: 'l' :: 'l' :: rest => some (.null, rest)
  | 't' :: 'r' :: 'u' :: 'e' :: rest => some (.bool true, rest)
  | 'f' :: 'a' :: 'l' :: 's' :: 'e' :: rest => some (.bool false, rest)
  | '"' :: rest => (stringBody? rest).map fun (cs, r) => (.string (String.ofList cs), r)
  | cs =>
    match Literal.read? cs with
    | none => none
    | some (l, rest) => (number l).map fun n => (.number n, rest)

/-- A document whose containers nest at most as deep as the second argument says. The first argument
gives the value of a number literal. -/
def value? (number : Literal → Option Number) : Nat → List Char → Option (Json × List Char)
  | 0, cs => scalar? number (skipBlank cs)
  | depth + 1, cs =>
    match skipBlank cs with
    | '[' :: rest =>
      (enclosed (value? number depth) ']' rest).map fun (items, r) => (.array items, r)
    | '\x7b' :: rest =>
      (enclosed (member (value? number depth)) '\x7d' rest).map fun (ms, r) => (.object ms, r)
    | cs => scalar? number cs

def maxDepth : Nat := 127

/-- The document of a whole text, with the members of objects as they are written. -/
def read? (number : Literal → Option Number) (text : String) : Option Json :=
  match value? number maxDepth text.toList with
  | none => none
  | some (j, rest) => if (skipBlank rest).isEmpty then some j else none

/-- The document of a whole text. -/
def parse? (text : String) : Option Json :=
  (read? Number.ofLiteral? text).map ordered

end Telemetry.Json
