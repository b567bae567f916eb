import Telemetry.Value

/-!
# Typed values

The values that a program holds, with their types, and the conversion of each into a `Value`. Wrappers
vanish, absence and the unit become null, sequences keep their order, and maps become structs whatever
order their entries come in.
-/
namespace Telemetry

/-- The sizes of machine integers; `pointer` is 64 bits on the machines considered. -/
inductive IntegerSize where
  | bits8
  | bits16
  | bits32
  | bits64
  | pointer
  deriving DecidableEq

structure IntegerType where
  signed : Bool
  size : IntegerSize
  deriving DecidableEq

namespace IntegerType

def width (t : IntegerType) : Nat :=
  match t.size with
  | .bits8 => 8
  | .bits16 => 16
  | .bits32 => 32
  | .bits64 => 64
  | .pointer => 64

def Holds (t : IntegerType) (n : Int) : Prop :=
  if t.signed then -Nat.pow 2 (t.width - 1) ≤ n ∧ n < Nat.pow 2 (t.width - 1)
  else 0 ≤ n ∧ n < Nat.pow 2 t.width

instance (t : IntegerType) (n : Int) : Decidable (t.Holds n) := by
  unfold Holds; infer_instance

end IntegerType

/-- What a value stands behind without changing it. -/
inductive Wrapper where
  | present
  | reference
  | box
  deriving DecidableEq

inductive SequenceType where
  | growable
  | slice
  | fixed
  deriving DecidableEq

inductive MapType where
  | ordered
  | hashed
  deriving DecidableEq

inductive Native where
  | string (s : String)
  | bool (b : Bool)
  | unit
  | integer (type : IntegerType) (n : Int) (holds : type.Holds n)
  | single (bits : UInt32)
  | double (x : Binary64)
  | absent
  | wrapped (wrapper : Wrapper) (content : Native)
  | sequence (type : SequenceType) (items : List Native)
  | map (type : MapType) (entries : List (String × Native))
  | value (v : Value)
  | values (items : List Value)
  | fields (entries : List (String × Value))
  | json (j : Json)

namespace Native

mutual

/-- The conversion of a typed value. -/
def toValue : Native → Value
  | .string s => .string s
  | .bool b => .bool b
  | .unit => Value.nullValue
  | .integer _ n _ => .number (.ofInt n)
  | .single bits => .number (.ofSingle bits)
  | .double x => .number x
  | .absent => Value.nullValue
  | .wrapped _ content => toValue content
  | .sequence _ items => .list (toValues items)
  | .map _ entries => .struct (Entries.ofList (toFields entries))
  | .value v => v
  | .values items => .list items
  | .fields entries => .struct entries
  | .json j => Value.ofJson j

def toValues : List Native → List Value
  | [] => []
  | a :: rest => toValue a :: toValues rest

def toFields : List (String × Native) → List (String × Value)
  | [] => []
  | (key, a) :: rest => (key, toValue a) :: toFields rest

end

end Native
end Telemetry
