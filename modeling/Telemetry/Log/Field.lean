import Telemetry.Binary64.Text
import Telemetry.Log.Pattern

/-!
# Fields of directives

A directive may name fields, and a field may be given the value that it must have: a flag, a number or a
pattern. A value is kept as what it is and not as it is written, so two spellings of one number are the
same.
-/
namespace Telemetry.Log

inductive FieldValue where
  | flag (b : Bool)
  | real (x : Binary64)
  /-- What is no number, in any spelling. -/
  | noNumber
  | natural (n : Nat)
  | integer (n : Int)
  | pattern (text : String)
  deriving DecidableEq

namespace FieldValue

/-- The number in decimal digits, perhaps with a plus, that has 64 bits. -/
def natural? (cs : List Char) : Option FieldValue :=
  match Decimal.natural? (if cs.head? = some '+' then cs.drop 1 else cs) with
  | some n => if n < Nat.pow 2 64 then some (.natural n) else none
  | none => none

/-- The number below zero, or minus zero, that has 64 bits with its sign. -/
def integer? : List Char → Option FieldValue
  | '-' :: ds =>
    match Decimal.natural? ds with
    | some n => if n ≤ Nat.pow 2 63 then some (.integer (-n)) else none
    | none => none
  | _ => none

def real? (cs : List Char) : Option FieldValue :=
  (Binary64.ofText? cs).map fun x => if x.isNaN then .noNumber else .real x

def flag? (cs : List Char) : Option FieldValue :=
  if cs = "true".toList then some (.flag true)
  else if cs = "false".toList then some (.flag false)
  else none

/-- The value that a text stands for. What is neither a flag nor a number is a pattern. -/
def parse (cs : List Char) : Except Pattern.Fault FieldValue :=
  match (flag? cs).or ((natural? cs).or ((integer? cs).or (real? cs))) with
  | some v => .ok v
  | none =>
    match Pattern.fault? cs with
    | some e => .error e
    | none => .ok (.pattern (.ofList cs))

def text : FieldValue → List Char
  | flag true => ['t', 'r', 'u', 'e']
  | flag false => ['f', 'a', 'l', 's', 'e']
  | real x => x.toText
  | noNumber => ['N', 'a', 'N']
  | natural n => Decimal.digits n
  | integer n => Decimal.signed n
  | pattern text => text.toList

/-- The order of the kinds of values. -/
def kind : FieldValue → Nat
  | flag _ => 0
  | real _ => 1
  | noNumber => 2
  | natural _ => 3
  | integer _ => 4
  | pattern _ => 5

/-- The order of doubles that are numbers; both zeros are the same. -/
def realKey (x : Binary64) : Int := if x.isNegative then -(x.word : Int) else x.word

def compare : FieldValue → FieldValue → Ordering
  | flag a, flag b => Ord.compare a.toNat b.toNat
  | real x, real y => Ord.compare (realKey x) (realKey y)
  | natural m, natural n => Ord.compare m n
  | integer m, integer n => Ord.compare m n
  | pattern a, pattern b => Ord.compare a b
  | a, b => Ord.compare a.kind b.kind

end FieldValue

structure Field where
  name : String
  value : Option FieldValue
  deriving DecidableEq

namespace Field

/-- The field that a text names. A value stands between the first equals sign and the next, if there is
one; nothing after that counts. -/
def parse (cs : List Char) : Except Pattern.Fault Field :=
  let name := String.ofList (cs.takeWhile (· ≠ '='))
  match cs.dropWhile (· ≠ '=') with
  | [] => .ok ⟨name, none⟩
  | _ :: rest => (FieldValue.parse (rest.takeWhile (· ≠ '='))).map fun v => ⟨name, some v⟩

def text (f : Field) : List Char :=
  f.name.toList ++
    match f.value with
    | none => []
    | some v => '=' :: v.text

/-- A field with a value comes after one without. -/
def compare (a b : Field) : Ordering :=
  match a.value, b.value with
  | none, none => Ord.compare a.name b.name
  | none, some _ => .lt
  | some _, none => .gt
  | some v, some w => (Ord.compare a.name b.name).then (v.compare w)

/-- Compares fields one by one; of two lists one of which begins the other the shorter comes first. -/
def compareAll : List Field → List Field → Ordering
  | [], [] => .eq
  | [], _ :: _ => .lt
  | _ :: _, [] => .gt
  | a :: as, b :: bs => (a.compare b).then (compareAll as bs)

end Field
end Telemetry.Log
