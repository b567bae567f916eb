import Telemetry.Text.Hex

/-!
# TOML texts

Blanks, comments and the four kinds of strings. Readers take a list of characters and give what stands at
its front with the rest.
-/
namespace Telemetry.Toml

def isBlank (c : Char) : Bool := c = ' ' || c = '\t'

def skipBlank (cs : List Char) : List Char := cs.dropWhile isBlank

/-- Whether a character may stand in a comment: of the control characters only the tab. -/
def isCommentChar (c : Char) : Bool :=
  c = '\t' || decide ((0x20 ≤ c.toNat ∧ c.toNat ≤ 0x7E) ∨ 0x80 ≤ c.toNat)

/-- The rest after the end of a line. -/
def newline? : List Char → Option (List Char)
  | '\n' :: rest => some rest
  | '\r' :: '\n' :: rest => some rest
  | _ => none

/-- The rest after blanks and a comment up to the end of the line or of the document. -/
def lineEnd? (cs : List Char) : Option (List Char) :=
  let cs := match skipBlank cs with
    | '#' :: rest => rest.dropWhile isCommentChar
    | cs => cs
  if cs.isEmpty then some [] else newline? cs

/-- The rest after blanks, ends of lines and comments. -/
def skipLines (inComment : Bool) : List Char → List Char
  | [] => []
  | '\n' :: rest => skipLines false rest
  | '\r' :: '\n' :: rest => skipLines false rest
  | c :: rest =>
    if inComment then if isCommentChar c then skipLines true rest else c :: rest
    else if isBlank c then skipLines false rest
    else if c = '#' then skipLines true rest
    else c :: rest

def isBasicChar (c : Char) : Bool := isCommentChar c && c ≠ '"' && c ≠ '\\'

def isLiteralChar (c : Char) : Bool := isCommentChar c && c ≠ '\''

/-- The character of an escape of one letter. -/
def escape? (c : Char) : Option Char :=
  if c = '"' ∨ c = '\\' then some c
  else if c = 'n' then some '\n'
  else if c = 'r' then some '\r'
  else if c = 't' then some '\t'
  else if c = 'b' then some (Char.ofNat 8)
  else if c = 'f' then some (Char.ofNat 12)
  else none

/-- The character with a number in hexadecimal digits. -/
def numbered? (ds : List Char) : Option Char :=
  (Text.Hex.value? ds).bind fun n =>
    if n < 0xD800 ∨ (0xE000 ≤ n ∧ n < 0x110000) then some (.ofNat n) else none

/-- Puts a character before what a reader gives. -/
def andThen (c : Char) (r : Option (List Char × List Char)) : Option (List Char × List Char) :=
  r.map fun (cs, rest) => (c :: cs, rest)

/-- The characters of a string with escapes, up to its closing quote. -/
def basicBody? : List Char → Option (List Char × List Char)
  | '"' :: rest => some ([], rest)
  | '\\' :: 'U' :: a :: b :: c :: d :: e :: f :: g :: h :: rest =>
    (numbered? [a, b, c, d, e, f, g, h]).bind fun x => andThen x (basicBody? rest)
  | '\\' :: 'u' :: a :: b :: c :: d :: rest =>
    (numbered? [a, b, c, d]).bind fun x => andThen x (basicBody? rest)
  | '\\' :: e :: rest => (escape? e).bind fun x => andThen x (basicBody? rest)
  | c :: rest => if isBasicChar c then andThen c (basicBody? rest) else none
  | [] => none

/-- The characters of a string without escapes, up to its closing quote. -/
def literalBody? (cs : List Char) : Option (List Char × List Char) :=
  match cs.dropWhile isLiteralChar with
  | '\'' :: rest => some (cs.takeWhile isLiteralChar, rest)
  | _ => none

/-- Whether blanks and the end of a line follow. -/
def endsLine (cs : List Char) : Bool := (newline? (skipBlank cs)).isSome

/-- The characters of a string over several lines, up to its closing quotes: three, before which up to two
more belong to the string. A backslash at the end of a line swallows the blanks and line ends after it. -/
def longBasicBody? (swallowing : Bool) : List Char → Option (List Char × List Char)
  | '"' :: '"' :: '"' :: '"' :: '"' :: rest => some (['"', '"'], rest)
  | '"' :: '"' :: '"' :: '"' :: rest => some (['"'], rest)
  | '"' :: '"' :: '"' :: rest => some ([], rest)
  | '\r' :: '\n' :: rest =>
    if swallowing then longBasicBody? true rest else andThen '\n' (longBasicBody? false rest)
  | '\n' :: rest =>
    if swallowing then longBasicBody? true rest else andThen '\n' (longBasicBody? false rest)
  | '\\' :: 'U' :: a :: b :: c :: d :: e :: f :: g :: h :: rest =>
    (numbered? [a, b, c, d, e, f, g, h]).bind fun x => andThen x (longBasicBody? false rest)
  | '\\' :: 'u' :: a :: b :: c :: d :: rest =>
    (numbered? [a, b, c, d]).bind fun x => andThen x (longBasicBody? false rest)
  | '\\' :: e :: rest =>
    if endsLine (e :: rest) then longBasicBody? true (e :: rest)
    else (escape? e).bind fun x => andThen x (longBasicBody? false rest)
  | c :: rest =>
    if swallowing && isBlank c then longBasicBody? true rest
    else if isBasicChar c || c = '"' then andThen c (longBasicBody? false rest)
    else none
  | [] => none

/-- The characters of a string without escapes, up to its closing quotes. -/
def longLiteralBody? : List Char → Option (List Char × List Char)
  | '\'' :: '\'' :: '\'' :: '\'' :: '\'' :: rest => some (['\'', '\''], rest)
  | '\'' :: '\'' :: '\'' :: '\'' :: rest => some (['\''], rest)
  | '\'' :: '\'' :: '\'' :: rest => some ([], rest)
  | '\r' :: '\n' :: rest => andThen '\n' (longLiteralBody? rest)
  | '\n' :: rest => andThen '\n' (longLiteralBody? rest)
  | c :: rest => if isCommentChar c then andThen c (longLiteralBody? rest) else none
  | [] => none

/-- A line end right after the opening quotes is no part of the string. -/
def afterOpening (cs : List Char) : List Char := (newline? cs).getD cs

/-- A string of any kind. -/
def string? : List Char → Option (List Char × List Char)
  | '"' :: '"' :: '"' :: rest => longBasicBody? false (afterOpening rest)
  | '"' :: rest => basicBody? rest
  | '\'' :: '\'' :: '\'' :: rest => longLiteralBody? (afterOpening rest)
  | '\'' :: rest => literalBody? rest
  | _ => none

def isBareChar (c : Char) : Bool := c.isAlphanum || c = '-' || c = '_'

/-- One part of a key: bare, or a string in one line. -/
def keyPart? : List Char → Option (String × List Char)
  | '"' :: rest => (basicBody? rest).map fun (cs, rest) => (.ofList cs, rest)
  | '\'' :: rest => (literalBody? rest).map fun (cs, rest) => (.ofList cs, rest)
  | cs =>
    let bare := cs.takeWhile isBareChar
    if bare.isEmpty then none else some (.ofList bare, cs.dropWhile isBareChar)

/-- The parts of a dotted key, at most so many. -/
def keyParts? : Nat → List Char → Option (List String × List Char)
  | 0, _ => none
  | n + 1, cs => do
    let (part, rest) ← keyPart? (skipBlank cs)
    match skipBlank rest with
    | '.' :: rest =>
      let (parts, rest) ← keyParts? n rest
      return (part :: parts, rest)
    | rest => return ([part], rest)

/-- How many parts a key may have. -/
def maxKeyParts : Nat := 79

/-- A key: the path to its last part, and that part. -/
def key? (cs : List Char) : Option ((List String × String) × List Char) := do
  let (parts, rest) ← keyParts? maxKeyParts cs
  let last ← parts.getLast?
  return ((parts.dropLast, last), rest)

end Telemetry.Toml
