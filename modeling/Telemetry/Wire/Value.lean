import Telemetry.Value
import Telemetry.Wire.Field

/-!
# Values on the wire

A value is a message with one field, which tells its kind; a value without a kind has none. Lists and
structs nest, each message inside another and each entry of a struct taking one level of the budget.
Reading folds into what was read before: a later kind replaces an earlier one, but a list is
lengthened and a struct extended.
-/
namespace Telemetry.Wire

mutual

def encodeValue : Value → Bytes
  | .unset => []
  | .null code => key 1 .varint ++ varint (twosComplement code.toInt)
  | .number x => key 2 .fixed64 ++ littleEndian 8 x.bits.toNat
  | .string s => delimited 3 (Text.utf8 s)
  | .bool b => key 4 .varint ++ varint b.toNat
  | .struct fields => delimited 5 (encodeEntries fields)
  | .list items => delimited 6 (encodeItems items)

/-- The fields of a struct, an entry each. A value without a kind is left out of its entry. -/
def encodeEntries : List (String × Value) → Bytes
  | [] => []
  | (name, v) :: rest =>
    let content := encodeValue v
    delimited 1 (textUnlessEmpty 1 name ++ if content.isEmpty then [] else delimited 2 content) ++
      encodeEntries rest

def encodeItems : List Value → Bytes
  | [] => []
  | v :: rest => delimited 1 (encodeValue v) ++ encodeItems rest

end

/-- The content of a field whose kind is a scalar. -/
def scalarField? (number : Nat) (type : WireType) (bytes : Bytes) : Option (Value × Bytes) :=
  match number with
  | 1 => (varintField? type bytes).map fun (n, rest) => (.null (.ofNat n), rest)
  | 2 => (fixed64Field? type bytes).map fun (n, rest) => (.number ⟨.ofNat n⟩, rest)
  | 3 => (textField? type bytes).map fun (s, rest) => (.string s, rest)
  | 4 => (varintField? type bytes).map fun (n, rest) => (.bool (decide (n ≠ 0)), rest)
  | _ => none

/-- The entries that a value holds as a struct. -/
def heldFields : Value → List (String × Value)
  | .struct fields => fields
  | _ => []

/-- The items that a value holds as a list. -/
def heldItems : Value → List Value
  | .list items => items
  | _ => []

mutual

/-- Folds the bytes of a value into one, messages nesting inside at most as deep as the budget. -/
def mergeValue : Nat → Value → Bytes → Option Value
  | 0 => mergeFields fun number type _ bytes => scalarField? number type bytes
  | budget + 1 => mergeFields fun number type v bytes =>
    if number = 5 then do
      let (content, rest) ← delimitedField? type bytes
      let fields ← mergeStruct budget (heldFields v) content
      return (.struct fields, rest)
    else if number = 6 then do
      let (content, rest) ← delimitedField? type bytes
      let items ← mergeList budget (heldItems v) content
      return (.list items, rest)
    else if number < 5 then scalarField? number type bytes
    else (skip? (budget + 1) number type bytes).map fun rest => (v, rest)

/-- Adds the entries of a struct. They are read as a run of bytes whatever the key's wire type. -/
def mergeStruct : Nat → List (String × Value) → Bytes → Option (List (String × Value))
  | 0 => mergeFields fun _ _ _ _ => none
  | budget + 1 => mergeFields fun number type fields bytes =>
    if number = 1 then do
      let (content, rest) ← delimitedContent? bytes
      let (name, v) ← mergeEntry budget ("", .unset) content
      return (Entries.put name v fields, rest)
    else (skip? (budget + 1) number type bytes).map fun rest => (fields, rest)

def mergeEntry : Nat → String × Value → Bytes → Option (String × Value)
  | 0 => mergeFields fun number type entry bytes =>
    if number = 1 then (textField? type bytes).map fun (name, rest) => ((name, entry.2), rest)
    else none
  | budget + 1 => mergeFields fun number type entry bytes =>
    if number = 1 then (textField? type bytes).map fun (name, rest) => ((name, entry.2), rest)
    else if number = 2 then do
      let (content, rest) ← delimitedField? type bytes
      let v ← mergeValue budget entry.2 content
      return ((entry.1, v), rest)
    else (skip? (budget + 1) number type bytes).map fun rest => (entry, rest)

/-- Adds the items of a list at its end. -/
def mergeList : Nat → List Value → Bytes → Option (List Value)
  | 0 => mergeFields fun _ _ _ _ => none
  | budget + 1 => mergeFields fun number type items bytes =>
    if number = 1 then do
      let (content, rest) ← delimitedField? type bytes
      let v ← mergeValue budget .unset content
      return (items ++ [v], rest)
    else (skip? (budget + 1) number type bytes).map fun rest => (items, rest)

end

end Telemetry.Wire
