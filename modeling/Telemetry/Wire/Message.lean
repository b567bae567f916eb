import Telemetry.Message
import Telemetry.Wire.Value

/-!
# Messages on the wire

Fields are written in the order of their numbers and left out when they hold their default, but a
message inside another is written whenever it is present. Reading folds the fields over an empty
message: the last number or text counts, and messages inside are merged.
-/
namespace Telemetry.Wire

/-- How deep messages may nest in a message. -/
def nestingLimit : Nat := 100

def skipped {σ : Type} (budget number : Nat) (type : WireType) (s : σ) (bytes : Bytes) :
    Option (σ × Bytes) :=
  (skip? budget number type bytes).map fun rest => (s, rest)

def mergeRequest (bytes : Bytes) : Option Unit :=
  mergeFields (fun number type _ bytes => skipped nestingLimit number type () bytes) () bytes

def encodeAck (a : Ack) : Bytes :=
  numberUnlessZero 1 a.connected.toNat ++ textUnlessEmpty 2 a.instanceUuid

def ackField (number : Nat) (type : WireType) (a : Ack) (bytes : Bytes) : Option (Ack × Bytes) :=
  match number with
  | 1 => (varintField? type bytes).map fun (n, rest) => ({ a with connected := decide (n ≠ 0) }, rest)
  | 2 => (textField? type bytes).map fun (s, rest) => ({ a with instanceUuid := s }, rest)
  | _ => skipped nestingLimit number type a bytes

def mergeAck : Ack → Bytes → Option Ack := mergeFields ackField

def encodeTimestamp (t : Timestamp) : Bytes :=
  numberUnlessZero 1 t.seconds.toInt ++ numberUnlessZero 2 t.nanos.toInt

def timestampField (budget number : Nat) (type : WireType) (t : Timestamp) (bytes : Bytes) :
    Option (Timestamp × Bytes) :=
  match number with
  | 1 => (varintField? type bytes).map fun (n, rest) => ({ t with seconds := .ofNat n }, rest)
  | 2 => (varintField? type bytes).map fun (n, rest) => ({ t with nanos := .ofNat n }, rest)
  | _ => skipped budget number type t bytes

def mergeTimestamp (budget : Nat) : Timestamp → Bytes → Option Timestamp :=
  mergeFields (timestampField budget)

/-- A message inside another, left out when absent. -/
def messageIfPresent {α : Type} (number : Nat) (encode : α → Bytes) : Option α → Bytes
  | none => []
  | some a => delimited number (encode a)

def encodeStats (s : Stats) : Bytes :=
  textUnlessEmpty 1 s.buildDate ++ (numberUnlessZero 2 s.buildFlavour.toInt ++
    (textUnlessEmpty 3 s.commitSha ++ (messageIfPresent 4 encodeTimestamp s.snapshotDate ++
      (textUnlessEmpty 5 s.product ++ (textUnlessEmpty 6 s.version ++
        (textUnlessEmpty 7 s.vendor ++ messageIfPresent 8 encodeEntries s.data))))))

def statsField (number : Nat) (type : WireType) (s : Stats) (bytes : Bytes) :
    Option (Stats × Bytes) :=
  match number with
  | 1 => (textField? type bytes).map fun (t, rest) => ({ s with buildDate := t }, rest)
  | 2 => (varintField? type bytes).map fun (n, rest) => ({ s with buildFlavour := .ofNat n }, rest)
  | 3 => (textField? type bytes).map fun (t, rest) => ({ s with commitSha := t }, rest)
  | 4 => do
    let (content, rest) ← delimitedField? type bytes
    let t ← mergeTimestamp (nestingLimit - 1) (s.snapshotDate.getD Timestamp.zero) content
    return ({ s with snapshotDate := some t }, rest)
  | 5 => (textField? type bytes).map fun (t, rest) => ({ s with product := t }, rest)
  | 6 => (textField? type bytes).map fun (t, rest) => ({ s with version := t }, rest)
  | 7 => (textField? type bytes).map fun (t, rest) => ({ s with vendor := t }, rest)
  | 8 => do
    let (content, rest) ← delimitedField? type bytes
    let fields ← mergeStruct (nestingLimit - 1) (s.data.getD []) content
    return ({ s with data := some fields }, rest)
  | _ => skipped nestingLimit number type s bytes

def mergeStats : Stats → Bytes → Option Stats := mergeFields statsField

def encode : Message → Bytes
  | .ackRequest => []
  | .statsRequest => []
  | .ack a => encodeAck a
  | .stats s => encodeStats s
  | .value v => encodeValue v

def decode? (type : MessageType) (bytes : Bytes) : Option Message :=
  match type with
  | .ackRequest => (mergeRequest bytes).map fun _ => .ackRequest
  | .statsRequest => (mergeRequest bytes).map fun _ => .statsRequest
  | .ack => (mergeAck Ack.empty bytes).map .ack
  | .stats => (mergeStats Stats.empty bytes).map .stats
  | .value => (mergeValue nestingLimit .unset bytes).map .value

end Telemetry.Wire
