import Telemetry.Proofs.Wire.Value

/-!
# Reading messages back

The bytes of a message are read to the message itself when its messages nest at most as deep as the
limit, and are refused when they nest deeper. Numbers and texts are left out when they hold their
default. So the bytes of a message that are read on top of another one leave the fields of that one
where they say nothing, and `Stats.join` says what comes out; on top of the empty message it is the
message itself.
-/
namespace Telemetry

namespace Message

/-- The levels of messages inside the bytes of a message. -/
def nesting : Message → Nat
  | .ackRequest | .statsRequest | .ack _ => 0
  | .stats s => max (if s.snapshotDate.isSome then 1 else 0)
      (s.data.elim 0 fun fields => (Value.struct fields).nesting)
  | .value v => v.nesting

/-- Every struct inside is a map: its keys ascend. -/
def Ordered : Message → Prop
  | .ackRequest | .statsRequest | .ack _ => True
  | .stats s => ∀ fields ∈ s.data, (Value.struct fields).Ordered
  | .value v => v.Ordered

end Message

open Wire (later)

/-- An acknowledgement after another one was read on top of it. -/
def Ack.join (held a : Ack) : Ack where
  connected := later false held.connected a.connected
  instanceUuid := later "" held.instanceUuid a.instanceUuid

/-- A time stamp after another one was read on top of it. -/
def Timestamp.join (held t : Timestamp) : Timestamp where
  seconds := later 0 held.seconds t.seconds
  nanos := later 0 held.nanos t.nanos

/-- Statistics after others were read on top of them. -/
def Stats.join (held s : Stats) : Stats where
  buildDate := later "" held.buildDate s.buildDate
  buildFlavour := later 0 held.buildFlavour s.buildFlavour
  commitSha := later "" held.commitSha s.commitSha
  snapshotDate := (s.snapshotDate.map (held.snapshotDate.getD .zero).join).or held.snapshotDate
  product := later "" held.product s.product
  version := later "" held.version s.version
  vendor := later "" held.vendor s.vendor
  data := (s.data.map (Entries.putAll (held.data.getD []))).or held.data

@[simp] theorem Ack.empty_join (a : Ack) : Ack.empty.join a = a := by
  simp [Ack.join, Ack.empty]

@[simp] theorem Timestamp.zero_join (t : Timestamp) : Timestamp.zero.join t = t := by
  simp [Timestamp.join, Timestamp.zero]

theorem Stats.empty_join {s : Stats} (hs : (Message.stats s).Ordered) : Stats.empty.join s = s := by
  have hdata (fields : List (String × Value)) (h : fields ∈ s.data) : Entries.putAll [] fields = fields := by
    have hfields := hs fields h
    rw [Value.Ordered] at hfields
    exact Entries.ofList_of_ascending hfields.1
  obtain ⟨buildDate, buildFlavour, commitSha, date, product, version, vendor, data⟩ := s
  cases data with
  | none => cases date <;> simp [Stats.join, Stats.empty]
  | some fields => cases date <;> simp [Stats.join, Stats.empty, hdata fields rfl]

namespace Wire

/-- A message inside reads into its place in the state. An absent one leaves what was there. -/
theorem mergeFields_message {σ α : Type} {step : Nat → WireType → σ → Bytes → Option (σ × Bytes)}
    (hstep : ∀ number type s, Local (step number type s)) {number : Nat} (hpos : 0 < number)
    (hlt : number < 2 ^ 29) {s : σ} {f : Option α → σ} {read : Bytes → Option α}
    (hfield : ∀ bytes, step number .delimited s bytes =
      (delimitedField? .delimited bytes).bind fun (content, rest) =>
        (read content).bind fun a => some (f (some a), rest))
    {old : Option α} (hold : f old = s) {encode : α → Bytes} {join : α → α} {p : α → Prop}
    [DecidablePred p] {o : Option α}
    (hread : ∀ a ∈ o, read (encode a) = if p a then some (join a) else none)
    (hlen : ∀ a ∈ o, (encode a).length < 2 ^ 64) (rest : Bytes) :
    mergeFields step s (messageIfPresent number encode o ++ rest) =
      if ∀ a ∈ o, p a then mergeFields step (f ((o.map join).or old)) rest else none := by
  cases o with
  | none => simp [messageIfPresent, hold]
  | some a =>
    rw [messageIfPresent, mergeFields_delimited hstep hpos hlt, hfield,
      delimitedField?_append rest (hlen a rfl)]
    simp only [Option.bind_some, hread a rfl, Option.mem_some_iff, forall_eq']
    split_ifs <;> rfl

theorem local_ackField (number : Nat) (type : WireType) (a : Ack) : Local (ackField number type a) :=
  match number with
  | 1 => (Local.varintField type).map (fun n => { a with connected := decide (n ≠ 0) }) fun _ _ => rfl
  | 2 => (Local.textField type).map (fun s => { a with instanceUuid := s }) fun _ _ => rfl
  | 0 | _ + 3 => Local.skipped _ _ _ _

theorem mergeAck_encodeAck_onto (held a : Ack) (hlen : (encodeAck a).length < 2 ^ 64) :
    mergeAck held (encodeAck a) = some (held.join a) := by
  have htext := length_le_textUnlessEmpty 2 a.instanceUuid
  rw [encodeAck, List.length_append] at hlen
  calc mergeAck held (encodeAck a)
      = mergeFields ackField { held with connected := later false held.connected a.connected }
          (textUnlessEmpty 2 a.instanceUuid ++ []) := by
        rw [List.append_nil]
        exact mergeFields_number (f := fun b => { held with connected := b })
          (g := fun n => decide (n ≠ 0)) local_ackField (by omega) (by omega) (fun _ => rfl) rfl
          (by cases a.connected <;> decide) (by cases a.connected <;> decide) _
    _ = mergeFields ackField (held.join a) [] :=
        mergeFields_text (f := fun t => { (held.join a) with instanceUuid := t }) local_ackField
          (by omega) (by omega) (fun _ => rfl) rfl (by omega) []
    _ = some (held.join a) := mergeFields_nil _

theorem mergeAck_encodeAck (a : Ack) (hlen : (encodeAck a).length < 2 ^ 64) :
    mergeAck Ack.empty (encodeAck a) = some a := by
  rw [mergeAck_encodeAck_onto _ a hlen, Ack.empty_join]

theorem local_timestampField (budget number : Nat) (type : WireType) (t : Timestamp) :
    Local (timestampField budget number type t) :=
  match number with
  | 1 => (Local.varintField type).map (fun n => { t with seconds := .ofNat n }) fun _ _ => rfl
  | 2 => (Local.varintField type).map (fun n => { t with nanos := .ofNat n }) fun _ _ => rfl
  | 0 | _ + 3 => Local.skipped _ _ _ _

theorem mergeTimestamp_encodeTimestamp (budget : Nat) (held t : Timestamp) :
    mergeTimestamp budget held (encodeTimestamp t) = some (held.join t) := by
  calc mergeTimestamp budget held (encodeTimestamp t)
      = mergeFields (timestampField budget) { held with seconds := later 0 held.seconds t.seconds }
          (numberUnlessZero 2 t.nanos.toInt ++ []) := by
        rw [List.append_nil]
        exact mergeFields_number (f := fun n => { held with seconds := n }) (local_timestampField budget)
          (by omega) (by omega) (fun _ => rfl) rfl (Int64.toInt_inj (y := 0))
          (int64_ofNat_twosComplement t.seconds) _
    _ = mergeFields (timestampField budget) (held.join t) [] :=
        mergeFields_number (f := fun n => { (held.join t) with nanos := n }) (local_timestampField budget)
          (by omega) (by omega) (fun _ => rfl) rfl (Int32.toInt_inj (y := 0))
          (int32_ofNat_twosComplement t.nanos) []
    _ = some (held.join t) := mergeFields_nil _

theorem local_statsField (number : Nat) (type : WireType) (s : Stats) :
    Local (statsField number type s) :=
  match number with
  | 1 => (Local.textField type).map (fun t => { s with buildDate := t }) fun _ _ => rfl
  | 2 => (Local.varintField type).map (fun n => { s with buildFlavour := .ofNat n }) fun _ _ => rfl
  | 3 => (Local.textField type).map (fun t => { s with commitSha := t }) fun _ _ => rfl
  | 4 => (Local.delimitedField type).bind fun _ _ _ _ => leaves_of_bind
  | 5 => (Local.textField type).map (fun t => { s with product := t }) fun _ _ => rfl
  | 6 => (Local.textField type).map (fun t => { s with version := t }) fun _ _ => rfl
  | 7 => (Local.textField type).map (fun t => { s with vendor := t }) fun _ _ => rfl
  | 8 => (Local.delimitedField type).bind fun _ _ _ _ => leaves_of_bind
  | 0 | _ + 9 => Local.skipped _ _ _ _

theorem mergeStruct_encodeEntries_inside (held : List (String × Value)) {fields : List (String × Value)}
    (hfields : (Value.struct fields).Ordered) (hlen : (encodeEntries fields).length < 2 ^ 64) :
    mergeStruct (nestingLimit - 1) held (encodeEntries fields) =
      if (Value.struct fields).nesting ≤ nestingLimit then some (Entries.putAll held fields)
      else none := by
  rw [Value.Ordered] at hfields
  rw [mergeStruct_encodeEntries _ _ fields hfields.2 hlen, Value.nesting]
  exact if_congr (by simp only [nestingLimit]; omega) rfl rfl

theorem length_le_messageIfPresent {α : Type} (number : Nat) (encode : α → Bytes) {o : Option α} {a : α}
    (ha : a ∈ o) : (encode a).length ≤ (messageIfPresent number encode o).length := by
  obtain rfl : o = some a := ha
  exact (length_delimited number _).le

theorem mergeStats_encodeStats_onto (held s : Stats)
    (hs : ∀ fields ∈ s.data, (Value.struct fields).Ordered)
    (hlen : (encodeStats s).length < 2 ^ 64) : mergeStats held (encodeStats s) =
      if ∀ fields ∈ s.data, (Value.struct fields).nesting ≤ nestingLimit then some (held.join s)
      else none := by
  have hbuildDate := length_le_textUnlessEmpty 1 s.buildDate
  have hcommitSha := length_le_textUnlessEmpty 3 s.commitSha
  have hproduct := length_le_textUnlessEmpty 5 s.product
  have hversion := length_le_textUnlessEmpty 6 s.version
  have hvendor := length_le_textUnlessEmpty 7 s.vendor
  have hdate (t : Timestamp) (ht : t ∈ s.snapshotDate) :=
    length_le_messageIfPresent 4 encodeTimestamp ht
  have hdata (fields : List (String × Value)) (h : fields ∈ s.data) :=
    length_le_messageIfPresent 8 encodeEntries h
  simp only [encodeStats, List.length_append] at hlen
  -- the state is given after each field: what is read so far, then what was held
  calc mergeStats held (encodeStats s)
      = mergeFields statsField { held with buildDate := (held.join s).buildDate } _ :=
        mergeFields_text (f := fun t => { held with buildDate := t })
          local_statsField (by omega) (by omega) (fun _ => rfl) rfl (by omega) _
    _ = mergeFields statsField { held with
          buildDate := (held.join s).buildDate, buildFlavour := (held.join s).buildFlavour } _ :=
        mergeFields_number (f := fun n => { held with
          buildDate := (held.join s).buildDate, buildFlavour := n })
          local_statsField (by omega) (by omega) (fun _ => rfl) rfl (Int32.toInt_inj (y := 0))
          (int32_ofNat_twosComplement s.buildFlavour) _
    _ = mergeFields statsField { (held.join s) with
          snapshotDate := held.snapshotDate, product := held.product, version := held.version
          vendor := held.vendor, data := held.data } _ :=
        mergeFields_text (f := fun t => { (held.join s) with
          commitSha := t, snapshotDate := held.snapshotDate, product := held.product
          version := held.version, vendor := held.vendor, data := held.data })
          local_statsField (by omega) (by omega) (fun _ => rfl) rfl (by omega) _
    _ = mergeFields statsField { (held.join s) with
          product := held.product, version := held.version, vendor := held.vendor
          data := held.data } _ := by
        refine (mergeFields_message (p := fun _ => True) (f := fun t => { (held.join s) with
          snapshotDate := t, product := held.product, version := held.version
          vendor := held.vendor, data := held.data })
          local_statsField (by omega) (by omega) (fun _ => rfl) rfl
          (fun t _ => (mergeTimestamp_encodeTimestamp _ _ t).trans (if_pos trivial).symm)
          (fun t ht => by have := hdate t ht; omega) _).trans (if_pos fun _ _ => trivial)
    _ = mergeFields statsField { (held.join s) with
          version := held.version, vendor := held.vendor, data := held.data } _ :=
        mergeFields_text (f := fun t => { (held.join s) with
          product := t, version := held.version, vendor := held.vendor, data := held.data })
          local_statsField (by omega) (by omega) (fun _ => rfl) rfl (by omega) _
    _ = mergeFields statsField { (held.join s) with vendor := held.vendor, data := held.data } _ :=
        mergeFields_text (f := fun t => { (held.join s) with
          version := t, vendor := held.vendor, data := held.data })
          local_statsField (by omega) (by omega) (fun _ => rfl) rfl (by omega) _
    _ = mergeFields statsField { (held.join s) with data := held.data }
          (messageIfPresent 8 encodeEntries s.data ++ []) := by
        rw [List.append_nil]
        exact mergeFields_text (f := fun t => { (held.join s) with vendor := t, data := held.data })
          local_statsField (by omega) (by omega) (fun _ => rfl) rfl (by omega) _
    _ = if ∀ fields ∈ s.data, (Value.struct fields).nesting ≤ nestingLimit then
          mergeFields statsField (held.join s) [] else none :=
        mergeFields_message (f := fun fields => { (held.join s) with data := fields })
          local_statsField (by omega) (by omega) (fun _ => rfl) rfl
          (fun fields h => mergeStruct_encodeEntries_inside _ (hs fields h)
            (by have := hdata fields h; omega))
          (fun fields h => by have := hdata fields h; omega) []
    _ = if ∀ fields ∈ s.data, (Value.struct fields).nesting ≤ nestingLimit then some (held.join s)
          else none := by
        rw [mergeFields_nil]

theorem mergeStats_encodeStats (s : Stats)
    (hs : ∀ fields ∈ s.data, (Value.struct fields).Ordered)
    (hlen : (encodeStats s).length < 2 ^ 64) : mergeStats Stats.empty (encodeStats s) =
      if ∀ fields ∈ s.data, (Value.struct fields).nesting ≤ nestingLimit then some s else none := by
  rw [mergeStats_encodeStats_onto _ s hs hlen, Stats.empty_join hs]

theorem nesting_stats_le_iff (s : Stats) : (Message.stats s).nesting ≤ nestingLimit ↔
    ∀ fields ∈ s.data, (Value.struct fields).nesting ≤ nestingLimit := by
  have hdate : (if s.snapshotDate.isSome then 1 else 0) ≤ nestingLimit := by
    split <;> decide
  rw [Message.nesting, max_le_iff]
  cases s.data <;> simp [hdate]

/-- A message whose bytes fit into memory reads back as itself if its messages nest at most as deep as
the limit, and is refused if they nest deeper. -/
theorem decode?_encode (m : Message) (hm : m.Ordered) (hlen : (encode m).length < 2 ^ 64) :
    decode? m.type (encode m) = if m.nesting ≤ nestingLimit then some m else none := by
  cases m with
  | ackRequest => rfl
  | statsRequest => rfl
  | ack a =>
    rw [Message.type, decode?, encode, mergeAck_encodeAck a hlen, Message.nesting,
      if_pos (Nat.zero_le _), Option.map_some]
  | stats s =>
    rw [Message.type, decode?, encode, mergeStats_encodeStats s hm hlen]
    by_cases h : ∀ fields ∈ s.data, (Value.struct fields).nesting ≤ nestingLimit
    · rw [if_pos h, if_pos ((nesting_stats_le_iff s).mpr h), Option.map_some]
    · rw [if_neg h, if_neg (mt (nesting_stats_le_iff s).mp h), Option.map_none]
  | value v =>
    rw [Message.type, decode?, encode, mergeValue_encodeValue nestingLimit .unset v hm hlen,
      Value.join_unset hm, Message.nesting]
    split_ifs <;> rfl

def sampleStats : Stats where
  buildDate := ""
  buildFlavour := -1
  commitSha := "é"
  snapshotDate := some ⟨-1, 0⟩
  product := "p"
  version := ""
  vendor := ""
  data := some [("", .unset), ("a", .list [.unset, .null (-2), .struct [("é", .bool false)]])]

theorem sampleStats_reads_back : (Message.stats sampleStats).Ordered ∧
    (encode (.stats sampleStats)).length < 2 ^ 64 ∧
    decode? .stats (encode (.stats sampleStats)) = some (.stats sampleStats) := by
  have hordered : (Message.stats sampleStats).Ordered := by
    rintro fields ⟨⟩
    rw [Value.Ordered]
    refine ⟨?_, ?_⟩
    · simp only [Entries.Ascending, List.pairwise_pair]
      decide
    · simp [Value.Ordered, Value.OrderedFields, Value.OrderedItems, Entries.Ascending]
  have hlen : (encode (.stats sampleStats)).length < 2 ^ 64 := by decide +kernel
  exact ⟨hordered, hlen, (decode?_encode _ hordered hlen).trans (if_pos (by decide))⟩

end Wire
end Telemetry
