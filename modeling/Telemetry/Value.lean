import Telemetry.Json

/-!
# Loosely typed values

The tree in which data of unknown shape travels. A value may have no kind at all, and a null keeps the
number it was sent with; JSON knows one null only, so `toJson` takes both, and every number that is
not finite, to `null`.
-/
namespace Telemetry

inductive Value where
  | unset
  | null (code : Int32)
  | number (x : Binary64)
  | string (s : String)
  | bool (b : Bool)
  | list (items : List Value)
  | struct (fields : List (String × Value))

namespace Value

/-- The null that this library writes. -/
def nullValue : Value := .null 0

mutual

def ofJson : Json → Value
  | .null => nullValue
  | .bool b => .bool b
  | .number n => .number n.toBinary64
  | .string s => .string s
  | .array items => .list (ofJsonItems items)
  | .object members => .struct (ofJsonMembers members)

def ofJsonItems : List Json → List Value
  | [] => []
  | j :: rest => ofJson j :: ofJsonItems rest

def ofJsonMembers : List (String × Json) → List (String × Value)
  | [] => []
  | (key, j) :: rest => (key, ofJson j) :: ofJsonMembers rest

end

/-- The document of a number, `null` where it is not finite. -/
def numberToJson (x : Binary64) : Json :=
  if h : x.isFinite = true then .number (.double x h) else .null

mutual

def toJson : Value → Json
  | .unset => .null
  | .null _ => .null
  | .number x => numberToJson x
  | .string s => .string s
  | .bool b => .bool b
  | .list items => .array (toJsonItems items)
  | .struct fields => .object (toJsonFields fields)

def toJsonItems : List Value → List Json
  | [] => []
  | v :: rest => toJson v :: toJsonItems rest

def toJsonFields : List (String × Value) → List (String × Json)
  | [] => []
  | (key, v) :: rest => (key, toJson v) :: toJsonFields rest

end

/-- The document of a struct's fields. -/
def structToJson (fields : List (String × Value)) : Json := .object (toJsonFields fields)

end Value
end Telemetry
