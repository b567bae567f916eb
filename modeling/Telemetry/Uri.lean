import Telemetry.Decimal
import Telemetry.Text.Blank

/-!
# Resource identifiers

A text is a path, an authority on its own, or an absolute identifier with a scheme. A fragment is
dropped. The port is not looked at; the brackets, colons and percent signs of an authority are.
-/
namespace Telemetry

inductive Uri where
  | pathOnly (path : List Char) (query : Option (List Char))
  | authorityOnly (authority : List Char)
  | absolute (scheme authority path : List Char) (query : Option (List Char))
  deriving DecidableEq

namespace Uri

def schemeEnd : List Char := [':', '/', '/']

def isSchemeChar (c : Char) : Bool := c.isAlphanum || ['+', '-', '.', '~'].contains c

def isAuthorityChar (c : Char) : Bool := c.isAlphanum || "!$&'()*+,-.:;=@[]_~%".toList.contains c

def endsAuthority (c : Char) : Bool := c = '/' || c = '?' || c = '#'

def isPathChar (c : Char) : Bool :=
  let n := c.toNat
  decide (n = 0x21 ∨ n = 0x22 ∨ (0x24 ≤ n ∧ n ≤ 0x3B) ∨ n = 0x3D ∨ (0x40 ≤ n ∧ n ≤ 0x5F) ∨
    (0x61 ≤ n ∧ n ≤ 0x7E) ∨ 0x80 ≤ n)

def isQueryChar (c : Char) : Bool :=
  let n := c.toNat
  decide (n = 0x21 ∨ (0x24 ≤ n ∧ n ≤ 0x3B) ∨ n = 0x3D ∨ (0x3F ≤ n ∧ n ≤ 0x7E) ∨ 0x80 ≤ n)

def maxSchemeLength : Nat := 64

/-- The scheme in front of a text, if one is, with the text after it. The two schemes of the web are
written in lower case. The outer `none` is a scheme that is too long. -/
def scheme? (cs : List Char) : Option (Option (List Char × List Char)) :=
  if Text.sameLetters (cs.take 7) "http://".toList then some (some ("http".toList, cs.drop 7))
  else if Text.sameLetters (cs.take 8) "https://".toList then some (some ("https".toList, cs.drop 8))
  else
    let scheme := cs.takeWhile isSchemeChar
    let rest := cs.dropWhile isSchemeChar
    if schemeEnd.isPrefixOf rest && decide (3 < cs.length) then
      if scheme.length ≤ maxSchemeLength then some (some (scheme, rest.drop 3)) else none
    else some none

/-- What a scan of an authority remembers: the colons and percent signs since the last `@` or `]`, and
the brackets seen. -/
structure Scan where
  colons : Nat
  percent : Bool
  opened : Bool
  closed : Bool
  deriving DecidableEq

namespace Scan

def start : Scan := ⟨0, false, false, false⟩

def maxColons : Nat := 8

def step? (s : Scan) (c : Char) : Option Scan :=
  if c = ':' then if s.colons < maxColons then some { s with colons := s.colons + 1 } else none
  else if c = '[' then if s.percent || s.opened then none else some { s with opened := true }
  else if c = ']' then
    if s.opened && !s.closed then some { s with colons := 0, percent := false, closed := true }
    else none
  else if c = '@' then some { s with colons := 0, percent := false }
  else if c = '%' then some { s with percent := true }
  else if isAuthorityChar c then some s
  else none

def accepts (s : Scan) : Bool := s.opened == s.closed && decide (s.colons ≤ 1) && !s.percent

end Scan

def isAuthority (cs : List Char) : Bool :=
  match cs.foldlM Scan.step? Scan.start with
  | none => false
  | some s => s.accepts && decide (cs.getLast? ≠ some '@')

/-- The authority in front of a text, and the rest. -/
def readAuthority? (cs : List Char) : Option (List Char × List Char) :=
  let authority := cs.takeWhile (!endsAuthority ·)
  if isAuthority authority then some (authority, cs.dropWhile (!endsAuthority ·)) else none

/-- A query up to a fragment. -/
def query? (cs : List Char) : Option (List Char) :=
  let query := cs.takeWhile (· ≠ '#')
  if query.all isQueryChar then some query else none

/-- A path and its query. -/
def path? (cs : List Char) : Option (List Char × Option (List Char)) :=
  let path := cs.takeWhile fun c => c ≠ '?' && c ≠ '#'
  if path.all isPathChar then
    match cs.dropWhile fun c => c ≠ '?' && c ≠ '#' with
    | '?' :: rest => (query? rest).map fun query => (path, some query)
    | _ => some (path, none)
  else none

/-- A text that is neither empty nor a path. -/
def full? (cs : List Char) : Option Uri :=
  match scheme? cs with
  | none => none
  | some none =>
    match readAuthority? cs with
    | some (authority, []) => if authority.isEmpty then none else some (.authorityOnly authority)
    | _ => none
  | some (some (scheme, rest)) =>
    match readAuthority? rest with
    | none => none
    | some (authority, rest) =>
      if authority.isEmpty then none
      else (path? rest).map fun (path, query) => .absolute scheme authority path query

def maxBytes : Nat := 65534

def parse? (s : String) : Option Uri :=
  if maxBytes < s.utf8ByteSize then none
  else
    match s.toList with
    | [] => none
    | ['*'] => some (.pathOnly ['*'] none)
    | '/' :: rest => (path? ('/' :: rest)).map fun (path, query) => .pathOnly path query
    | cs => full? cs

def queryText : Option (List Char) → List Char
  | none => []
  | some query => '?' :: query

/-- The normal form: a scheme is followed by a path. -/
def toList : Uri → List Char
  | .pathOnly path query => (if path.isEmpty then ['/'] else path) ++ queryText query
  | .authorityOnly authority => authority
  | .absolute scheme authority path query =>
    scheme ++ (schemeEnd ++ (authority ++ ((if path.isEmpty then ['/'] else path) ++ queryText query)))

def text (u : Uri) : String := .ofList u.toList

def authority? : Uri → Option (List Char)
  | .pathOnly _ _ => none
  | .authorityOnly authority => some authority
  | .absolute _ authority _ _ => some authority

/-- The part of an authority after the last `@`. -/
def hostAndPort (authority : List Char) : List Char :=
  (authority.reverse.takeWhile (· ≠ '@')).reverse

/-- The host of an authority: up to the closing bracket, or up to the first colon. -/
def hostOf (authority : List Char) : List Char :=
  match hostAndPort authority with
  | '[' :: rest => '[' :: (rest.takeWhile (· ≠ ']') ++ [']'])
  | cs => cs.takeWhile (· ≠ ':')

/-- The number after the last colon of an authority, if it can be a port. -/
def portOf (authority : List Char) : Option UInt16 :=
  let text := (authority.reverse.takeWhile (· ≠ ':')).reverse
  if authority.contains ':' then
    match Decimal.natural? (if text.head? = some '+' then text.drop 1 else text) with
    | some n => if n < Nat.pow 2 16 then some (.ofNat n) else none
    | none => none
  else none

def port? (u : Uri) : Option UInt16 := u.authority?.bind portOf

def host? (u : Uri) : Option (List Char) := u.authority?.map hostOf

end Uri
end Telemetry
