import Telemetry.Decimal
import Telemetry.Value.Native

/-!
# Payloads of unknown type

A payload carries the description of its type at run time. Only listed types can be converted, so the
conversion may fail; a sequence of payloads fails with its first failing element.
-/
namespace Telemetry

/-- The type that a payload says it has; `other` is any type that is not listed. -/
inductive PayloadType where
  | string
  | bool
  | unit
  | integer (type : IntegerType)
  | single
  | double
  | value
  | values
  | fields
  | json
  | sequence (item : PayloadType)
  | optional (content : PayloadType)
  | box (content : PayloadType)
  | other
  deriving DecidableEq

namespace PayloadType

def isScalar : PayloadType → Bool
  | .string | .bool | .unit | .integer _ | .single | .double | .value | .values | .fields | .json => true
  | _ => false

/-- The types whose options are converted. -/
def isOptionable : PayloadType → Bool
  | .string | .bool | .double => true
  | .integer t => decide (t ∈ [⟨true, .bits32⟩, ⟨true, .bits64⟩, ⟨false, .bits64⟩])
  | _ => false

/-- The types whose sequences are converted. -/
def isListable (t : PayloadType) : Bool := t.isOptionable || decide (t = .value)

def isSupported : PayloadType → Bool
  | .sequence item => item.isListable
  | .optional content => content.isOptionable
  | t => t.isScalar

end PayloadType

inductive Payload where
  | leaf (type : PayloadType) (content : Native)
  | sequence (items : List Payload)

/-- A payload of a type that cannot be converted stands at the end of a path of indices. -/
structure PayloadError where
  path : List Nat
  deriving DecidableEq

namespace PayloadError

def message (e : PayloadError) : String :=
  .ofList (e.path.foldr
    (fun i text => "element ".toList ++ Decimal.digits i ++ " of sequence: ".toList ++ text)
    "payload is not supported by to_value, implement ToGrpcValue for it".toList)

/-- The error of a sequence whose element fails. -/
def within (i : Nat) (e : PayloadError) : PayloadError := ⟨i :: e.path⟩

end PayloadError

namespace Payload

mutual

def toValue : Payload → Except PayloadError Value
  | .leaf type content => if type.isSupported then .ok content.toValue else .error ⟨[]⟩
  | .sequence items => (toValues 0 items).map .list

/-- The values of the elements from an index on. -/
def toValues (i : Nat) : List Payload → Except PayloadError (List Value)
  | [] => .ok []
  | p :: rest =>
    match toValue p with
    | .error e => .error (e.within i)
    | .ok v =>
      match toValues (i + 1) rest with
      | .error e => .error e
      | .ok vs => .ok (v :: vs)

end

end Payload
end Telemetry
