import Telemetry.Proofs.Wire.Received

/-!
# Bytes of one message after another

The canonical bytes of a message that follow bytes of another one of its type are read on top of it, whatever
bytes those are. `Message.join` says what comes out: numbers and texts are replaced unless the second message
has the default, time stamps are joined field by field, maps become their union, lists are appended, and any
other kind of value is replaced unless the second value has no kind.
-/
namespace Telemetry

/-- A map with the keys of two maps, where the second one counts for the keys of both. -/
structure Entries.IsUnion {α : Type} (first second union : List (String × α)) : Prop where
  ascending : Ascending union
  get?_eq : ∀ key, get? key union = (get? key second).or (get? key first)

theorem Entries.isUnion_putAll {α : Type} {first second : List (String × α)} (hfirst : Ascending first)
    (hsecond : Ascending second) : IsUnion first second (putAll first second) :=
  ⟨ascending_putAll hfirst second, fun key => get?_putAll key first hsecond⟩

namespace Message

/-- A message after another one of its type was read on top of it. -/
def join : Message → Message → Message
  | .ack held, .ack a => .ack (held.join a)
  | .stats held, .stats s => .stats (held.join s)
  | .value held, .value v => .value (held.join v)
  | _, m => m

/-- The map that a message holds: the data of statistics, or the fields of a struct. -/
def fields? : Message → Option (List (String × Value))
  | .stats s => s.data
  | .value (.struct fields) => some fields
  | _ => none

theorem ascending_of_mem_fields? {m : Message} (hm : m.Ordered) {fields : List (String × Value)}
    (h : fields ∈ m.fields?) : Entries.Ascending fields := by
  match m, hm, h with
  | .stats s, hm, h =>
    have hfields := hm fields h
    rw [Value.Ordered] at hfields
    exact hfields.1
  | .value (.struct _), hm, rfl =>
    rw [Ordered, Value.Ordered] at hm
    exact hm.1

theorem putAll_mem_fields?_join {m₁ m₂ : Message} (htype : m₁.type = m₂.type)
    {fields₁ fields₂ : List (String × Value)} (h₁ : fields₁ ∈ m₁.fields?) (h₂ : fields₂ ∈ m₂.fields?) :
    Entries.putAll fields₁ fields₂ ∈ (m₁.join m₂).fields? := by
  match m₁, m₂, htype, h₁, h₂ with
  | .stats s₁, .stats s₂, _, h₁, h₂ =>
    rw [fields?, Option.mem_def] at h₁ h₂
    simp [join, fields?, Stats.join, h₁, h₂]
  | .value (.struct _), .value (.struct _), _, rfl, rfl => rfl

end Message

namespace Wire

theorem decode?_append_of_ordered {a : Bytes} {m₁ m₂ : Message} (h : decode? m₂.type a = some m₁)
    (hm : m₂.Ordered) (hlen : (encode m₂).length < 2 ^ 64) (hnesting : m₂.nesting ≤ nestingLimit) :
    decode? m₂.type (a ++ encode m₂) = some (m₁.join m₂) := by
  cases m₂ with
  | ackRequest =>
    obtain ⟨-, -, rfl⟩ := Option.map_eq_some_iff.mp h
    rw [encode, List.append_nil, h]
    rfl
  | statsRequest =>
    obtain ⟨-, -, rfl⟩ := Option.map_eq_some_iff.mp h
    rw [encode, List.append_nil, h]
    rfl
  | ack a₂ =>
    obtain ⟨a₁, ha, rfl⟩ := Option.map_eq_some_iff.mp h
    have hread := mergeFields_append local_ackField ha (encodeAck a₂)
    rw [← mergeAck, mergeAck_encodeAck_onto a₁ a₂ hlen] at hread
    rw [Message.type, decode?, encode, hread]
    rfl
  | stats s₂ =>
    obtain ⟨s₁, hs, rfl⟩ := Option.map_eq_some_iff.mp h
    have hread := mergeFields_append local_statsField hs (encodeStats s₂)
    rw [← mergeStats, mergeStats_encodeStats_onto s₁ s₂ hm hlen,
      if_pos ((nesting_stats_le_iff s₂).mp hnesting)] at hread
    rw [Message.type, decode?, encode, hread]
    rfl
  | value v₂ =>
    obtain ⟨v₁, hv, rfl⟩ := Option.map_eq_some_iff.mp h
    rw [mergeValue_eq] at hv
    have hread := mergeFields_append (local_valueField _) hv (encodeValue v₂)
    rw [← mergeValue_eq, mergeValue_encodeValue nestingLimit v₁ v₂ hm hlen,
      if_pos (show v₂.nesting ≤ nestingLimit from hnesting)] at hread
    rw [Message.type, decode?, encode, hread]
    rfl

/-- Let `m₂` be a message whose bytes fit into memory and nest at most as deep as the limit. After any bytes
that are read as `m₁` they are read on top of it, and the maps of the two become their union. -/
theorem decode?_append_encode {a : Bytes} {m₁ m₂ : Message} (h : decode? m₂.type a = some m₁)
    (hm : m₂.Ordered) (hlen : (encode m₂).length < 2 ^ 64) (hnesting : m₂.nesting ≤ nestingLimit) :
    decode? m₂.type (a ++ encode m₂) = some (m₁.join m₂) ∧
      ∀ fields₁ ∈ m₁.fields?, ∀ fields₂ ∈ m₂.fields?, ∃ fields ∈ (m₁.join m₂).fields?,
        Entries.IsUnion fields₁ fields₂ fields := by
  refine ⟨decode?_append_of_ordered h hm hlen hnesting, fun fields₁ h₁ fields₂ h₂ => ?_⟩
  have hreceived := received_of_decode? h
  exact ⟨_, Message.putAll_mem_fields?_join hreceived.type_eq h₁ h₂,
    Entries.isUnion_putAll (Message.ascending_of_mem_fields? hreceived.ordered h₁)
      (Message.ascending_of_mem_fields? hm h₂)⟩

/-- A flavour in more bytes than it needs, the nanoseconds of a time stamp, a vendor and two entries. -/
def sampleFront : Bytes :=
  [0x10, 0x83, 0x00, 0x22, 0x02, 0x10, 0x05, 0x3a, 0x01, 0x76, 0x42, 0x0a, 0x0a, 0x03, 0x0a, 0x01, 0x62,
    0x0a, 0x03, 0x0a, 0x01, 0x61]

def sampleBack : Stats :=
  { Stats.empty with snapshotDate := some ⟨-1, 0⟩, product := "p", data := some [("a", .bool true)] }

theorem sampleFront_append : decode? .stats sampleFront = some (.stats { Stats.empty with
      buildFlavour := 3, snapshotDate := some ⟨0, 5⟩, vendor := "v"
      data := some [("a", .unset), ("b", .unset)] }) ∧
    (Message.stats sampleBack).Ordered ∧ (encode (.stats sampleBack)).length < 2 ^ 64 ∧
    (Message.stats sampleBack).nesting ≤ nestingLimit ∧
    decode? .stats (sampleFront ++ encode (.stats sampleBack)) = some (.stats { Stats.empty with
      buildFlavour := 3, snapshotDate := some ⟨-1, 5⟩, product := "p", vendor := "v"
      data := some [("a", .bool true), ("b", .unset)] }) := by
  have hfront : decode? .stats sampleFront = some (.stats { Stats.empty with
      buildFlavour := 3, snapshotDate := some ⟨0, 5⟩, vendor := "v"
      data := some [("a", .unset), ("b", .unset)] }) := by rfl
  have hordered : (Message.stats sampleBack).Ordered := by
    rintro fields ⟨⟩
    simp [Value.Ordered, Value.OrderedFields, Entries.Ascending]
  have hlen : (encode (.stats sampleBack)).length < 2 ^ 64 := by decide +kernel
  have hnesting : (Message.stats sampleBack).nesting ≤ nestingLimit := by decide
  have hread := decode?_append_encode
    (show decode? (Message.stats sampleBack).type sampleFront = _ from hfront) hordered hlen hnesting
  exact ⟨hfront, hordered, hlen, hnesting, hread.1.trans (by rfl)⟩

end Wire
end Telemetry
