import Telemetry.Toml
import Telemetry.Toml.Number
import Telemetry.Toml.Text

/-!
# Reading TOML

A document is read line by line into statements, and the statements into tables. Arrays and closed
tables nest at most 79 deep, and that depth is what the recursion goes down on.
-/
namespace Telemetry.Toml

/-- The items of an array up to its closing bracket, at most as many as the first argument says. A comma
may follow the last one. -/
def items? (item : List Char → Option (Node × List Char)) :
    Nat → List Char → Option (List Node × List Char)
  | 0, _ => none
  | n + 1, cs =>
    match skipLines false cs with
    | ']' :: rest => some ([], rest)
    | cs => do
      let (v, rest) ← item cs
      match skipLines false rest with
      | ',' :: rest =>
        let (vs, rest) ← items? item n rest
        return (v :: vs, rest)
      | ']' :: rest => return ([v], rest)
      | _ => none

/-- A key, an equals sign and a value. -/
def pair? (item : List Char → Option (Node × List Char)) (cs : List Char) :
    Option (((List String × String) × Node) × List Char) := do
  let (key, rest) ← key? cs
  let rest ← separator? '=' rest
  let (v, rest) ← item (skipBlank rest)
  return ((key, v), rest)

/-- The entries of a closed table up to its closing brace, at least one and at most as many as the second
argument says. -/
def entries? (item : List Char → Option (Node × List Char)) (table : Table) :
    Nat → List Char → Option (Table × List Char)
  | 0, _ => none
  | n + 1, cs => do
    let (((path, key), v), rest) ← pair? item cs
    let table ← table.insert? key v path
    match skipBlank rest with
    | ',' :: rest => entries? item table n rest
    | '\x7d' :: rest => return (table, rest)
    | _ => none

/-- A value without other values inside. -/
def scalar? : List Char → Option (Node × List Char)
  | 't' :: 'r' :: 'u' :: 'e' :: rest => some (.boolean true, rest)
  | 'f' :: 'a' :: 'l' :: 's' :: 'e' :: rest => some (.boolean false, rest)
  | '"' :: rest => (string? ('"' :: rest)).map fun (cs, rest) => (.string (.ofList cs), rest)
  | '\'' :: rest => (string? ('\'' :: rest)).map fun (cs, rest) => (.string (.ofList cs), rest)
  | cs => number? cs

/-- A value whose arrays and closed tables nest at most as deep as the argument says. -/
def value? : Nat → List Char → Option (Node × List Char)
  | 0, cs => scalar? cs
  | depth + 1, cs =>
    match cs with
    | '[' :: rest =>
      (items? (value? depth) cs.length rest).map fun (vs, rest) => (.array vs, rest)
    | '\x7b' :: rest =>
      match skipBlank rest with
      | '\x7d' :: rest => some (.table .closed [], rest)
      | rest =>
        (entries? (value? depth) [] cs.length rest).map fun (t, rest) => (.table .closed t, rest)
    | cs => scalar? cs

def maxDepth : Nat := 79

/-- The key between the brackets of a header. -/
def header? (close : List Char) (cs : List Char) :
    Option ((List String × String) × List Char) := do
  let (key, rest) ← key? cs
  if close.isPrefixOf rest then return (key, rest.drop close.length) else none

/-- A statement that begins a line. -/
def statement? : List Char → Option (Statement × List Char)
  | '[' :: '[' :: rest =>
    (header? [']', ']'] rest).map fun ((path, key), rest) => (.element path key, rest)
  | '[' :: rest => (header? [']'] rest).map fun ((path, key), rest) => (.table path key, rest)
  | cs => (pair? (value? maxDepth) cs).map fun (((path, key), v), rest) => (.entry path key v, rest)

/-- The statements of a document, of which there are at most as many as the argument says. -/
def statements? : Nat → List Char → Option (List Statement)
  | 0, _ => none
  | n + 1, cs =>
    match skipLines false cs with
    | [] => some []
    | cs => do
      let (s, rest) ← statement? cs
      let rest ← lineEnd? rest
      let statements ← statements? n rest
      return s :: statements

/-- The tables of a whole text. A mark of the byte order at its front is passed over. -/
def parse? (text : String) : Option Table :=
  let cs := text.toList
  let cs := if cs.head? = some '\uFEFF' then cs.drop 1 else cs
  (statements? (cs.length + 1) cs).bind tablesOf?

end Telemetry.Toml
