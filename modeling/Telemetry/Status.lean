/-!
# Outcomes of calls
-/
namespace Telemetry

inductive Code where
  | ok
  | cancelled
  | unknown
  | invalidArgument
  | deadlineExceeded
  | notFound
  | alreadyExists
  | permissionDenied
  | resourceExhausted
  | failedPrecondition
  | aborted
  | outOfRange
  | unimplemented
  | internal
  | unavailable
  | dataLoss
  | unauthenticated
  deriving DecidableEq

namespace Code

/-- The codes in the order of their numbers, from zero. -/
def all : List Code :=
  [ok, cancelled, unknown, invalidArgument, deadlineExceeded, notFound, alreadyExists,
    permissionDenied, resourceExhausted, failedPrecondition, aborted, outOfRange, unimplemented,
    internal, unavailable, dataLoss, unauthenticated]

/-- The code of a number; a number without a code means an unknown error. -/
def ofNumber (n : Int) : Code :=
  if 0 ≤ n then (all[n.toNat]?).getD unknown else unknown

def name : Code → String
  | ok => "Ok"
  | cancelled => "Cancelled"
  | unknown => "Unknown"
  | invalidArgument => "InvalidArgument"
  | deadlineExceeded => "DeadlineExceeded"
  | notFound => "NotFound"
  | alreadyExists => "AlreadyExists"
  | permissionDenied => "PermissionDenied"
  | resourceExhausted => "ResourceExhausted"
  | failedPrecondition => "FailedPrecondition"
  | aborted => "Aborted"
  | outOfRange => "OutOfRange"
  | unimplemented => "Unimplemented"
  | internal => "Internal"
  | unavailable => "Unavailable"
  | dataLoss => "DataLoss"
  | unauthenticated => "Unauthenticated"

end Code

/-- What a call failed with. -/
structure Status where
  code : Code
  message : String
  deriving DecidableEq

/-- What a call ended with: a message, or the status it failed with. -/
inductive Reply (α : Type) where
  | success (value : α)
  | failure (status : Status)
  deriving DecidableEq

namespace Reply

variable {α β : Type}

def isSuccessful : Reply α → Bool
  | success _ => true
  | failure _ => false

def get? : Reply α → Option α
  | success a => some a
  | failure _ => none

def error? : Reply α → Option Status
  | success _ => none
  | failure s => some s

def map (f : α → β) : Reply α → Reply β
  | success a => success (f a)
  | failure s => failure s

def toExcept : Reply α → Except Status α
  | success a => .ok a
  | failure s => .error s

def ofExcept : Except Status α → Reply α
  | .ok a => success a
  | .error s => failure s

end Reply
end Telemetry
