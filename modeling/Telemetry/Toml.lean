/-!
# TOML documents

A document is a tree of tables. Tables come about in four ways, and the way decides what may still be
added to one: a table written as a value is closed; one that a header names takes the entries that follow
the header; one on the way to a header is implied until its own header comes; and one on the way of a
dotted key takes further dotted keys.
-/
namespace Telemetry.Toml

inductive TableKind where
  | closed
  | header
  | implied
  | dotted
  deriving DecidableEq

/-- Fractions and points in time are kept as they are written. -/
inductive Node where
  | string (s : String)
  | integer (n : Int)
  | float (text : List Char)
  | boolean (b : Bool)
  | moment (text : List Char)
  | array (items : List Node)
  | table (kind : TableKind) (entries : List (String × Node))
  | tables (elements : List (List (String × Node)))

abbrev Table := List (String × Node)

namespace Table

def find? (key : String) : Table → Option Node
  | [] => none
  | (k, n) :: rest => if k = key then some n else find? key rest

def replace (key : String) (n : Node) : Table → Table
  | [] => []
  | (k, m) :: rest => if k = key then (k, n) :: rest else (k, m) :: replace key n rest

/-- Adds an entry; a key may occur once. -/
def add? (key : String) (n : Node) (t : Table) : Option Table :=
  match t.find? key with
  | none => some (t ++ [(key, n)])
  | some _ => none

/-- Changes the last element of an array of tables. -/
def changeLast? (f : Table → Option Table) : List Table → Option (List Table)
  | [] => none
  | [t] => (f t).map ([·])
  | t :: rest => (changeLast? f rest).map (t :: ·)

/-- Adds an entry under a dotted key. A table that a header named is out of reach; one that is only
implied, or an element of an array of tables, may be passed through but not entered. -/
def insert? (key : String) (n : Node) : List String → Table → Option Table
  | [], t => t.add? key n
  | step :: rest, t =>
    match t.find? step with
    | none => (insert? key n rest []).map fun inner => t ++ [(step, .table .dotted inner)]
    | some (.table .dotted inner) =>
      (insert? key n rest inner).map fun inner => t.replace step (.table .dotted inner)
    | some (.table .implied inner) =>
      if rest.isEmpty then none
      else (insert? key n rest inner).map fun inner => t.replace step (.table .implied inner)
    | some (.tables elements) =>
      if rest.isEmpty then none
      else (changeLast? (insert? key n rest) elements).map fun ts => t.replace step (.tables ts)
    | some _ => none

/-- Changes the table at the path of a header. What is missing on the way is implied; of an array of
tables the last element counts. -/
def change? (f : Table → Option Table) : List String → Table → Option Table
  | [], t => f t
  | step :: rest, t =>
    match t.find? step with
    | none => (change? f rest []).map fun inner => t ++ [(step, .table .implied inner)]
    | some (.table .closed _) => none
    | some (.table kind inner) =>
      (change? f rest inner).map fun inner => t.replace step (.table kind inner)
    | some (.tables elements) =>
      (changeLast? (change? f rest) elements).map fun ts => t.replace step (.tables ts)
    | some _ => none

/-- The table of a header that has not been named before. -/
def openTable? (key : String) (t : Table) : Option Table :=
  match t.find? key with
  | none => some (t ++ [(key, .table .header [])])
  | some (.table .implied inner) => some (t.replace key (.table .header inner))
  | some _ => none

/-- A new last element of an array of tables. -/
def openElement? (key : String) (t : Table) : Option Table :=
  match t.find? key with
  | none => some (t ++ [(key, .tables [[]])])
  | some (.tables elements) => some (t.replace key (.tables (elements ++ [[]])))
  | some _ => none

end Table

/-- A line of a document. The path of a key is without its last part. -/
inductive Statement where
  | entry (path : List String) (key : String) (value : Node)
  | table (path : List String) (key : String)
  | element (path : List String) (key : String)

/-- A document in the making: the tables so far and the path of the last header. -/
structure Draft where
  root : Table
  current : List String

namespace Draft

def add? (d : Draft) : Statement → Option Draft
  | .entry path key value =>
    (d.root.change? (Table.insert? key value path) d.current).map fun root => { d with root }
  | .table path key =>
    (d.root.change? (Table.openTable? key) path).map fun root => ⟨root, path ++ [key]⟩
  | .element path key =>
    (d.root.change? (Table.openElement? key) path).map fun root => ⟨root, path ++ [key]⟩

end Draft

/-- The tables that statements make, unless one contradicts those before it. -/
def tablesOf? (statements : List Statement) : Option Table :=
  (statements.foldlM Draft.add? ⟨[], []⟩).map (·.root)

end Telemetry.Toml
