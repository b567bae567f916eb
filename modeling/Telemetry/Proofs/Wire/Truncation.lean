import Telemetry.Proofs.Wire.Message

/-!
# Messages cut short

A message is a run of parts, one for each of its fields. If the end of its bytes is missing, then the
cut lies between two parts or inside one. Between two parts the bytes are those of the message with the
later fields at their defaults, and are read as that. Inside a part the bytes of its key, of a number or
of a length end in the middle, or a content is shorter than its length, and all of these are refused.
-/
namespace Telemetry.Wire

/-- Bytes whose end is missing. -/
def Cut (p bytes : Bytes) : Prop := p <+: bytes ∧ p ≠ bytes

theorem Cut.length_lt {p bytes : Bytes} (h : Cut p bytes) : p.length < bytes.length :=
  Nat.lt_of_le_of_ne h.1.length_le fun hlength => h.2 (h.1.eq_of_length hlength)

theorem not_cut_nil {p : Bytes} : ¬Cut p [] := fun h => h.2 (List.prefix_nil.mp h.1)

theorem cut_cons_iff {b c : UInt8} {p bytes : Bytes} :
    Cut (b :: p) (c :: bytes) ↔ b = c ∧ Cut p bytes := by
  rw [Cut, Cut, List.cons_prefix_cons]
  constructor
  · rintro ⟨⟨rfl, hp⟩, hne⟩
    exact ⟨rfl, hp, fun h => hne (by rw [h])⟩
  · rintro ⟨rfl, hp, hne⟩
    exact ⟨⟨rfl, hp⟩, fun h => hne (List.cons.inj h).2⟩

/-- The end that is missing is that of the front, or that of the rest. -/
theorem Cut.of_append {p a b : Bytes} (h : Cut p (a ++ b)) :
    Cut p a ∨ ∃ q, p = a ++ q ∧ Cut q b := by
  obtain ⟨⟨missing, hmissing⟩, hne⟩ := h
  obtain ⟨c, rfl, rfl⟩ | ⟨q, rfl, rfl⟩ := List.append_eq_append_iff.mp hmissing
  · by_cases hc : c = []
    · subst hc
      simp only [List.append_nil] at hne ⊢
      exact .inr ⟨[], (List.append_nil p).symm, List.nil_prefix, fun h => hne (by simp [← h])⟩
    · exact .inl ⟨List.prefix_append p c, fun h => hc (by simpa using h)⟩
  · exact .inr ⟨q, rfl, List.prefix_append q missing, fun h => hne (by rw [← h])⟩

/-- A run of parts is cut inside one of them, or in front of it. -/
theorem Cut.of_flatten {p : Bytes} {parts : List Bytes} (h : Cut p parts.flatten) :
    ∃ k part q, parts[k]? = some part ∧ Cut q part ∧ p = (parts.take k).flatten ++ q := by
  induction parts generalizing p with
  | nil => exact absurd h not_cut_nil
  | cons part parts ih =>
    rw [List.flatten_cons] at h
    obtain hpart | ⟨q, rfl, hq⟩ := h.of_append
    · exact ⟨0, part, p, rfl, hpart, rfl⟩
    · obtain ⟨k, part', q', hk, hcut, rfl⟩ := ih hq
      exact ⟨k + 1, part', q', hk, hcut, by simp⟩

theorem varintWithin?_of_cut {n : Nat} {p : Bytes} (h : Cut p (varint n)) (k : Nat) :
    varintWithin? k p = none := by
  induction n using Nat.strong_induction_on generalizing p k with
  | _ n ih =>
    cases k with
    | zero => rfl
    | succ k =>
      cases p with
      | nil => rfl
      | cons b p =>
        rw [varint] at h
        split_ifs at h with hn
        · exact absurd (cut_cons_iff.mp h).2 not_cut_nil
        · -- the groups before the last say that more follows
          obtain ⟨rfl, hp⟩ := cut_cons_iff.mp h
          have hb : ¬(UInt8.ofNat (n % 128 + 128)).toNat < 128 := by simp; omega
          rw [varintWithin?, if_neg hb, ih (n / 128) (by omega) hp]
          rfl

theorem varint?_of_cut {n : Nat} {p : Bytes} (h : Cut p (varint n)) : varint? p = none :=
  varintWithin?_of_cut h 10

theorem key?_of_cut {number : Nat} {type : WireType} {p : Bytes} (h : Cut p (key number type)) :
    key? p = none := by
  rw [key?, varint?_of_cut h]
  rfl

theorem take?_of_cut {content p : Bytes} (h : Cut p content) : take? content.length p = none := by
  rw [take?_eq, if_neg (Nat.not_le.mpr h.length_lt)]

theorem delimitedContent?_of_cut {content p : Bytes} (hlen : content.length < 2 ^ 64)
    (h : Cut p (varint content.length ++ content)) : delimitedContent? p = none := by
  obtain hlength | ⟨q, rfl, hq⟩ := h.of_append
  · rw [delimitedContent?, varint?_of_cut hlength]
    rfl
  · rw [delimitedContent?, varint?_varint _ _ hlen]
    exact take?_of_cut hq

section Parts

variable {σ : Type} {step : Nat → WireType → σ → Bytes → Option (σ × Bytes)}

/-- Bytes that are refused, in any state, when their end is missing and not all of them are. -/
def Whole (step : Nat → WireType → σ → Bytes → Option (σ × Bytes)) (bytes : Bytes) : Prop :=
  ∀ s p, Cut p bytes → p ≠ [] → mergeFields step s p = none

theorem whole_nil : Whole step [] := fun _ _ h => absurd h not_cut_nil

/-- A field is whole if its content is refused when its end is missing. -/
theorem whole_field (hstep : ∀ number type s, Local (step number type s)) {number : Nat}
    (hpos : 0 < number) (hlt : number < 2 ^ 29) {type : WireType} {content : Bytes}
    (hcontent : ∀ s q, Cut q content → step number type s q = none) :
    Whole step (key number type ++ content) := by
  intro s p hp hne
  obtain hkey | ⟨q, rfl, hq⟩ := hp.of_append
  · obtain ⟨b, tail, rfl⟩ := List.exists_cons_of_ne_nil hne
    rw [mergeFields, List.length_cons, mergeWithin, key?_of_cut hkey]
    rfl
  · rw [mergeFields_key hstep hpos hlt, hcontent s q hq]
    rfl

theorem whole_delimited (hstep : ∀ number type s, Local (step number type s)) {number : Nat}
    (hpos : 0 < number) (hlt : number < 2 ^ 29)
    (hfield : ∀ s q, delimitedField? .delimited q = none → step number .delimited s q = none)
    {content : Bytes} (hlen : content.length < 2 ^ 64) : Whole step (delimited number content) :=
  whole_field hstep hpos hlt fun s _ hq => hfield s _ (delimitedContent?_of_cut hlen hq)

theorem whole_text (hstep : ∀ number type s, Local (step number type s)) {number : Nat}
    (hpos : 0 < number) (hlt : number < 2 ^ 29)
    (hfield : ∀ s q, delimitedField? .delimited q = none → step number .delimited s q = none)
    {t : String} (hlen : (textUnlessEmpty number t).length < 2 ^ 64) :
    Whole step (textUnlessEmpty number t) := by
  have htext := length_le_textUnlessEmpty number t
  rw [textUnlessEmpty]
  split_ifs
  · exact whole_nil
  · exact whole_delimited hstep hpos hlt hfield (by omega)

theorem whole_message (hstep : ∀ number type s, Local (step number type s)) {number : Nat}
    (hpos : 0 < number) (hlt : number < 2 ^ 29)
    (hfield : ∀ s q, delimitedField? .delimited q = none → step number .delimited s q = none)
    {α : Type} {encode : α → Bytes} {o : Option α}
    (hlen : (messageIfPresent number encode o).length < 2 ^ 64) :
    Whole step (messageIfPresent number encode o) := by
  cases o with
  | none => exact whole_nil
  | some a =>
    have hcontent := length_le_messageIfPresent number encode (Option.mem_some_self a)
    exact whole_delimited hstep hpos hlt hfield (by omega)

theorem whole_number (hstep : ∀ number type s, Local (step number type s)) {number : Nat}
    (hpos : 0 < number) (hlt : number < 2 ^ 29)
    (hfield : ∀ s q, varintField? .varint q = none → step number .varint s q = none) (n : Int) :
    Whole step (numberUnlessZero number n) := by
  rw [numberUnlessZero]
  split_ifs
  · exact whole_nil
  · exact whole_field hstep hpos hlt fun s _ hq => hfield s _ (varint?_of_cut hq)

/-- Let the bytes of a state be a run of whole parts, and those of `upTo n` its first `n` parts. If their
end is missing, then what is left is read only if it is cut between two parts, and as the state of the
parts in front of the cut. -/
theorem mergeFields_eq_some_iff_of_cut (hstep : ∀ number type s, Local (step number type s))
    {parts : List Bytes} (hparts : ∀ part ∈ parts, Whole step part)
    (hlen : parts.flatten.length < 2 ^ 64) {encode : σ → Bytes} {upTo : Nat → σ}
    (hencode : ∀ n, encode (upTo n) = (parts.take n).flatten) {s : σ}
    (hread : ∀ n < parts.length, (encode (upTo n)).length < 2 ^ 64 →
      mergeFields step s (encode (upTo n)) = some (upTo n))
    {p : Bytes} (hp : Cut p parts.flatten) (s' : σ) :
    mergeFields step s p = some s' ↔ ∃ n, s' = upTo n ∧ p = encode (upTo n) := by
  have hfront {n : Nat} (hn : n < parts.length) : mergeFields step s (encode (upTo n)) = some (upTo n) := by
    refine hread n hn ?_
    rw [hencode]
    exact (List.take_prefix n parts).flatten.length_le.trans_lt hlen
  constructor
  · intro h
    obtain ⟨n, part, q, hn, hq, rfl⟩ := hp.of_flatten
    obtain ⟨hlt, rfl⟩ := List.getElem?_eq_some_iff.mp hn
    rw [← hencode, mergeFields_append hstep (hfront hlt)] at h
    have hbetween : q = [] := by
      by_contra hne
      rw [hparts _ (List.getElem_mem hlt) (upTo n) q hq hne] at h
      cases h
    subst hbetween
    exact ⟨n, (Option.some.inj h).symm, by rw [hencode, List.append_nil]⟩
  · rintro ⟨n, rfl, rfl⟩
    have hlt : n < parts.length := by
      by_contra hle
      exact hp.2 (by rw [hencode, List.take_of_length_le (Nat.le_of_not_lt hle)])
    exact hfront hlt

end Parts

end Wire

/-- The fields up to the `n`-th, and the later ones at their defaults. -/
def Ack.upTo (a : Ack) (n : Nat) : Ack where
  connected := if 1 ≤ n then a.connected else false
  instanceUuid := if 2 ≤ n then a.instanceUuid else ""

/-- The fields up to the `n`-th, and the later ones at their defaults. -/
def Stats.upTo (s : Stats) (n : Nat) : Stats where
  buildDate := if 1 ≤ n then s.buildDate else ""
  buildFlavour := if 2 ≤ n then s.buildFlavour else 0
  commitSha := if 3 ≤ n then s.commitSha else ""
  snapshotDate := if 4 ≤ n then s.snapshotDate else none
  product := if 5 ≤ n then s.product else ""
  version := if 6 ≤ n then s.version else ""
  vendor := if 7 ≤ n then s.vendor else ""
  data := if 8 ≤ n then s.data else none

namespace Value

/-- The number of the field that tells the kind. -/
def fieldNumber : Value → Nat
  | .unset => 0
  | .null _ => 1
  | .number _ => 2
  | .string _ => 3
  | .bool _ => 4
  | .struct _ => 5
  | .list _ => 6

/-- The field that tells the kind if its number is at most `n`, and else no field. -/
def upTo (v : Value) (n : Nat) : Value := if v.fieldNumber ≤ n then v else .unset

theorem upTo_eq_self_or_unset (v : Value) (n : Nat) : v.upTo n = v ∨ v.upTo n = .unset :=
  ite_eq_or_eq _ _ _

theorem upTo_zero (v : Value) : v.upTo 0 = .unset := by
  cases v <;> rfl

end Value

/-- The fields with numbers up to `n`, and the later ones at their defaults. -/
def Message.upTo (m : Message) (n : Nat) : Message :=
  match m with
  | .ackRequest => .ackRequest
  | .statsRequest => .statsRequest
  | .ack a => .ack (a.upTo n)
  | .stats s => .stats (s.upTo n)
  | .value v => .value (v.upTo n)

namespace Wire

def ackParts (a : Ack) : List Bytes :=
  [numberUnlessZero 1 a.connected.toNat, textUnlessEmpty 2 a.instanceUuid]

theorem flatten_ackParts (a : Ack) : (ackParts a).flatten = encodeAck a := by
  simp only [ackParts, encodeAck, List.flatten_cons, List.flatten_nil, List.append_nil]

theorem encodeAck_upTo (a : Ack) (n : Nat) :
    encodeAck (a.upTo n) = ((ackParts a).take n).flatten := by
  match n with
  | 0 | 1 | _ + 2 => simp [encodeAck, ackParts, Ack.upTo, numberUnlessZero, textUnlessEmpty]

theorem mergeAck_eq_some_iff_of_cut (a : Ack) (hlen : (encodeAck a).length < 2 ^ 64) {p : Bytes}
    (hp : Cut p (encodeAck a)) (a' : Ack) :
    mergeAck Ack.empty p = some a' ↔ ∃ n, a' = a.upTo n ∧ p = encodeAck (a.upTo n) := by
  have hparts : ∀ part ∈ ackParts a, Whole ackField part := by
    rw [encodeAck, List.length_append] at hlen
    simp only [ackParts, List.forall_mem_cons, List.not_mem_nil, false_implies, implies_true, and_true]
    refine ⟨?connected, ?instanceUuid⟩
    case connected =>
      exact whole_number local_ackField (by omega) (by omega) (fun s q h => by rw [ackField, h]; rfl) _
    case instanceUuid =>
      exact whole_text local_ackField (by omega) (by omega)
        (fun s q h => by rw [ackField, textField?, h]; rfl) (by omega)
  rw [← flatten_ackParts] at hp hlen
  exact mergeFields_eq_some_iff_of_cut local_ackField hparts hlen (encodeAck_upTo a)
    (fun n _ => mergeAck_encodeAck (a.upTo n)) hp a'

def statsParts (s : Stats) : List Bytes :=
  [textUnlessEmpty 1 s.buildDate, numberUnlessZero 2 s.buildFlavour.toInt, textUnlessEmpty 3 s.commitSha,
    messageIfPresent 4 encodeTimestamp s.snapshotDate, textUnlessEmpty 5 s.product,
    textUnlessEmpty 6 s.version, textUnlessEmpty 7 s.vendor, messageIfPresent 8 encodeEntries s.data]

theorem flatten_statsParts (s : Stats) : (statsParts s).flatten = encodeStats s := by
  simp only [statsParts, encodeStats, List.flatten_cons, List.flatten_nil, List.append_nil]

theorem encodeStats_upTo (s : Stats) (n : Nat) :
    encodeStats (s.upTo n) = ((statsParts s).take n).flatten := by
  match n with
  | 0 | 1 | 2 | 3 | 4 | 5 | 6 | 7 | _ + 8 =>
    simp [encodeStats, statsParts, Stats.upTo, numberUnlessZero, textUnlessEmpty, messageIfPresent]

theorem mergeStats_eq_some_iff_of_cut (s : Stats) (hlen : (encodeStats s).length < 2 ^ 64) {p : Bytes}
    (hp : Cut p (encodeStats s)) (s' : Stats) :
    mergeStats Stats.empty p = some s' ↔ ∃ n, s' = s.upTo n ∧ p = encodeStats (s.upTo n) := by
  have hparts : ∀ part ∈ statsParts s, Whole statsField part := by
    have hdelimited : ∀ number ∈ [1, 3, 4, 5, 6, 7, 8], ∀ s q, delimitedField? .delimited q = none →
        statsField number .delimited s q = none := by
      intro number hnumber s q h
      fin_cases hnumber <;> simp [statsField, textField?, h]
    simp only [encodeStats, List.length_append] at hlen
    simp only [statsParts, List.forall_mem_cons, List.not_mem_nil, false_implies, implies_true, and_true]
    refine ⟨whole_text local_statsField (by omega) (by omega) (hdelimited 1 (by simp)) (by omega),
      whole_number local_statsField (by omega) (by omega) (fun s q h => by simp [statsField, h]) _,
      whole_text local_statsField (by omega) (by omega) (hdelimited 3 (by simp)) (by omega),
      whole_message local_statsField (by omega) (by omega) (hdelimited 4 (by simp)) (by omega),
      whole_text local_statsField (by omega) (by omega) (hdelimited 5 (by simp)) (by omega),
      whole_text local_statsField (by omega) (by omega) (hdelimited 6 (by simp)) (by omega),
      whole_text local_statsField (by omega) (by omega) (hdelimited 7 (by simp)) (by omega),
      whole_message local_statsField (by omega) (by omega) (hdelimited 8 (by simp)) (by omega)⟩
  have hread : ∀ n < (statsParts s).length, (encodeStats (s.upTo n)).length < 2 ^ 64 →
      mergeStats Stats.empty (encodeStats (s.upTo n)) = some (s.upTo n) := by
    intro n hn hlen
    have hdata : (s.upTo n).data = none := if_neg (Nat.not_le.mpr hn)
    rw [mergeStats_encodeStats _ (by simp [hdata]) hlen, if_pos (by simp [hdata])]
  rw [← flatten_statsParts] at hp hlen
  exact mergeFields_eq_some_iff_of_cut local_statsField hparts hlen (encodeStats_upTo s) hread hp s'

/-- The bytes of a value are those of one field. -/
theorem whole_encodeValue (budget : Nat) {v : Value} (hlen : (encodeValue v).length < 2 ^ 64) :
    Whole (valueField budget) (encodeValue v) := by
  have hstep := local_valueField budget
  have hscalar {number : Nat} {type : WireType} (hnumber : number < 5) {q : Bytes}
      (h : scalarField? number type q = none) (v : Value) : valueField budget number type v q = none := by
    rw [valueField_of_lt_five hnumber, h]
  have hinside : ∀ number ∈ [5, 6], ∀ v q, delimitedField? .delimited q = none →
      valueField budget number .delimited v q = none := by
    intro number hnumber v q h
    cases budget <;> fin_cases hnumber <;> simp [valueField, scalarField?, h]
  cases v with
  | unset => exact whole_nil
  | null code =>
    rw [encodeValue]
    refine whole_field hstep (by omega) (by omega) fun held q hq => hscalar (by omega) ?_ held
    rw [scalarField?, varintField?, if_pos rfl, varint?_of_cut hq]
    rfl
  | number x =>
    rw [encodeValue]
    refine whole_field hstep (by omega) (by omega) fun held q hq => hscalar (by omega) ?_ held
    have htake := take?_of_cut hq
    rw [length_littleEndian] at htake
    rw [scalarField?, fixed64Field?, if_pos rfl, htake]
    rfl
  | string s =>
    have hcontent := length_delimited 3 (Text.utf8 s)
    rw [encodeValue] at hlen ⊢
    refine whole_delimited hstep (by omega) (by omega) (fun held q h => hscalar (by omega) ?_ held)
      (by omega)
    rw [scalarField?, textField?, h]
    rfl
  | bool b =>
    rw [encodeValue]
    refine whole_field hstep (by omega) (by omega) fun held q hq => hscalar (by omega) ?_ held
    rw [scalarField?, varintField?, if_pos rfl, varint?_of_cut hq]
    rfl
  | struct fields =>
    have hcontent := length_delimited 5 (encodeEntries fields)
    rw [encodeValue] at hlen ⊢
    exact whole_delimited hstep (by omega) (by omega) (hinside 5 (by simp)) (by omega)
  | list items =>
    have hcontent := length_delimited 6 (encodeItems items)
    rw [encodeValue] at hlen ⊢
    exact whole_delimited hstep (by omega) (by omega) (hinside 6 (by simp)) (by omega)

theorem mergeValue_eq_some_iff_of_cut {v : Value} (hlen : (encodeValue v).length < 2 ^ 64) {p : Bytes}
    (hp : Cut p (encodeValue v)) (budget : Nat) (held v' : Value) :
    mergeValue budget held p = some v' ↔ v' = held ∧ p = [] := by
  rw [mergeValue_eq]
  constructor
  · intro h
    have hnil : p = [] := by
      by_contra hne
      rw [whole_encodeValue budget hlen held p hp hne] at h
      cases h
    subst hnil
    exact ⟨(Option.some.inj h).symm, rfl⟩
  · rintro ⟨rfl, rfl⟩
    rfl

/-- If the end of the bytes of a message is missing, then what is left is read only if it is the bytes
of the message with the fields after some number at their defaults, and as that. Of a value nothing may
be left. -/
theorem decode?_eq_some_iff_of_cut (m : Message) (hlen : (encode m).length < 2 ^ 64) {p : Bytes}
    (hp : p <+: encode m) (hne : p ≠ encode m) :
    (∀ m', decode? m.type p = some m' ↔ ∃ n, m' = m.upTo n ∧ p = encode m') ∧
      (m.type = .value → ((decode? m.type p).isSome ↔ p = [])) := by
  have hcut : Cut p (encode m) := ⟨hp, hne⟩
  cases m with
  | ackRequest => exact absurd hcut not_cut_nil
  | statsRequest => exact absurd hcut not_cut_nil
  | ack a =>
    refine ⟨fun m' => ?_, fun htype => by cases htype⟩
    simp only [Message.type, decode?, Option.map_eq_some_iff, mergeAck_eq_some_iff_of_cut a hlen hcut]
    constructor
    · rintro ⟨_, ⟨n, rfl, rfl⟩, rfl⟩
      exact ⟨n, rfl, rfl⟩
    · rintro ⟨n, rfl, rfl⟩
      exact ⟨a.upTo n, ⟨n, rfl, rfl⟩, rfl⟩
  | stats s =>
    refine ⟨fun m' => ?_, fun htype => by cases htype⟩
    simp only [Message.type, decode?, Option.map_eq_some_iff, mergeStats_eq_some_iff_of_cut s hlen hcut]
    constructor
    · rintro ⟨_, ⟨n, rfl, rfl⟩, rfl⟩
      exact ⟨n, rfl, rfl⟩
    · rintro ⟨n, rfl, rfl⟩
      exact ⟨s.upTo n, ⟨n, rfl, rfl⟩, rfl⟩
  | value v =>
    have hread := mergeValue_eq_some_iff_of_cut hlen hcut nestingLimit .unset
    refine ⟨fun m' => ?_, fun _ => ?_⟩
    · simp only [Message.type, decode?, Option.map_eq_some_iff, hread]
      constructor
      · rintro ⟨_, ⟨rfl, rfl⟩, rfl⟩
        exact ⟨0, congrArg Message.value v.upTo_zero.symm, rfl⟩
      · rintro ⟨n, rfl, hbytes⟩
        obtain hall | hunset := v.upTo_eq_self_or_unset n
        · exact absurd (hbytes.trans (congrArg encodeValue hall)) hne
        · exact ⟨.unset, ⟨rfl, hbytes.trans (congrArg encodeValue hunset)⟩,
            congrArg Message.value hunset.symm⟩
    · simp only [Message.type, decode?, Option.isSome_map, Option.isSome_iff_exists, hread,
        exists_eq_left]

/-- The sample's second field is its last one that is left whole. -/
theorem sampleStats_cut : (encode (.stats sampleStats)).length < 2 ^ 64 ∧
    (encode (.stats sampleStats)).take 11 <+: encode (.stats sampleStats) ∧
    (encode (.stats sampleStats)).take 11 ≠ encode (.stats sampleStats) ∧
    decode? .stats ((encode (.stats sampleStats)).take 11) = some (.stats (sampleStats.upTo 2)) := by
  have hlen : (encode (.stats sampleStats)).length < 2 ^ 64 := by decide +kernel
  have hne : (encode (.stats sampleStats)).take 11 ≠ encode (.stats sampleStats) := by decide +kernel
  have hp := List.take_prefix 11 (encode (.stats sampleStats))
  have hbytes : (encode (.stats sampleStats)).take 11 = encode (.stats (sampleStats.upTo 2)) := by
    decide +kernel
  exact ⟨hlen, hp, hne,
    ((decode?_eq_some_iff_of_cut _ hlen hp hne).1 _).mpr ⟨2, rfl, hbytes⟩⟩

end Wire
end Telemetry
