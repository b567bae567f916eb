import Telemetry.Binary64
import Telemetry.Entries

/-!
# JSON documents

A document keeps the members of its objects as a list. `Json.ordered` puts them into ascending order
of their keys, the last of repeated keys counting, and is what two documents are compared by.
-/
namespace Telemetry

/-- A number of a document: an integer of 64 bits, with or without a sign, or a finite double. -/
inductive Number where
  | integer (n : Int) (inRange : -Nat.pow 2 63 ≤ n ∧ n < Nat.pow 2 64)
  | double (x : Binary64) (finite : x.isFinite = true)
  deriving DecidableEq

/-- The nearest double. -/
def Number.toBinary64 : Number → Binary64
  | .integer n _ => .ofInt n
  | .double x _ => x

inductive Json where
  | null
  | bool (b : Bool)
  | number (n : Number)
  | string (s : String)
  | array (items : List Json)
  | object (members : List (String × Json))

namespace Json

mutual

/-- The document with the members of every object in ascending order, the last of repeated keys kept. -/
def ordered : Json → Json
  | .null => .null
  | .bool b => .bool b
  | .number n => .number n
  | .string s => .string s
  | .array items => .array (orderedItems items)
  | .object members => .object (Entries.ofList (orderedMembers members))

def orderedItems : List Json → List Json
  | [] => []
  | j :: rest => ordered j :: orderedItems rest

def orderedMembers : List (String × Json) → List (String × Json)
  | [] => []
  | (key, j) :: rest => (key, ordered j) :: orderedMembers rest

end

end Json
end Telemetry
