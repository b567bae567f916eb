import Telemetry.Proofs.Wire.Message

/-!
# Fields that nobody knows

`Record` is the grammar of one field on the wire: a key, then a number, a word of a fixed width, a run of
bytes or a group of further records up to the key that ends it. A record is passed over whole, whatever
follows it, if its groups nest less deep than the budget. So between bytes that are read and any other bytes,
a record with a number that the message does not declare makes no difference.
-/
namespace Telemetry

/-- The numbers of the fields that messages of a type have. -/
def MessageType.declared : MessageType → List Nat
  | .ackRequest | .statsRequest => []
  | .ack => [1, 2]
  | .stats => [1, 2, 3, 4, 5, 6, 7, 8]
  | .value => [1, 2, 3, 4, 5, 6]

namespace Wire

/-- Groups of seven bits that write a number, the lowest first; every byte but the last says that another one
follows. -/
inductive Groups : Nat → Bytes → Prop
  | last {b : UInt8} (hb : b.toNat < 128) : Groups b.toNat [b]
  | next {b : UInt8} {n : Nat} {rest : Bytes} (hb : 128 ≤ b.toNat) (hrest : Groups n rest) :
    Groups (b.toNat - 128 + 128 * n) (b :: rest)

/-- At most ten bytes that write a number below `2 ^ 64`, not always the fewest. -/
structure IsVarint (n : Nat) (bytes : Bytes) : Prop where
  groups : Groups n bytes
  length_le : bytes.length ≤ 10
  lt : n < 2 ^ 64

structure IsKey (number : Nat) (type : WireType) (bytes : Bytes) : Prop where
  isVarint : IsVarint (8 * number + type.code) bytes
  pos : 0 < number
  lt : number < 2 ^ 29

/-- The bytes of one field with a number, in which at most so many groups nest. -/
inductive Record : Nat → Nat → Bytes → Prop
  | varint {depth number n : Nat} {key content : Bytes} (hkey : IsKey number .varint key)
    (hcontent : IsVarint n content) : Record depth number (key ++ content)
  | fixed64 {depth number : Nat} {key content : Bytes} (hkey : IsKey number .fixed64 key)
    (hcontent : content.length = 8) : Record depth number (key ++ content)
  | fixed32 {depth number : Nat} {key content : Bytes} (hkey : IsKey number .fixed32 key)
    (hcontent : content.length = 4) : Record depth number (key ++ content)
  | delimited {depth number : Nat} {key length content : Bytes} (hkey : IsKey number .delimited key)
    (hlength : IsVarint content.length length) : Record depth number (key ++ (length ++ content))
  | group {depth number : Nat} {start stop : Bytes} {records : List (Nat × Bytes)}
    (hstart : IsKey number .groupStart start) (hrecords : ∀ r ∈ records, Record depth r.1 r.2)
    (hstop : IsKey number .groupEnd stop) :
    Record (depth + 1) number (start ++ ((records.map (·.2)).flatten ++ stop))

theorem Groups.ne_nil {n : Nat} {bytes : Bytes} (h : Groups n bytes) : bytes ≠ [] := by
  cases h <;> exact List.cons_ne_nil _ _

theorem Groups.varintWithin? {n : Nat} {bytes : Bytes} (h : Groups n bytes) (rest : Bytes) {k : Nat}
    (hlen : bytes.length ≤ k + 1) (hlt : n < 2 * 128 ^ k) :
    varintWithin? (k + 1) (bytes ++ rest) = some (n, rest) := by
  induction h generalizing k with
  | @last b hb =>
    have hlast : ¬(k = 0 ∧ 2 ≤ b.toNat) := by
      rintro ⟨rfl, h⟩
      omega
    rw [List.singleton_append, Wire.varintWithin?, if_pos hb, if_neg hlast]
  | @next b n bytes hb hrest ih =>
    have hpos := List.length_pos_of_ne_nil hrest.ne_nil
    rw [List.length_cons] at hlen
    obtain ⟨k, rfl⟩ := Nat.exists_eq_succ_of_ne_zero (show k ≠ 0 by omega)
    have hpow : 128 ^ (k + 1) = 128 ^ k * 128 := pow_succ _ _
    rw [Nat.succ_eq_add_one, hpow] at hlt
    rw [List.cons_append, Wire.varintWithin?, if_neg (by omega), ih (by omega) (by omega)]
    rfl

theorem IsVarint.varint? {n : Nat} {bytes : Bytes} (h : IsVarint n bytes) (rest : Bytes) :
    varint? (bytes ++ rest) = some (n, rest) :=
  h.groups.varintWithin? rest h.length_le (h.lt.trans_eq (by norm_num))

theorem IsKey.key? {number : Nat} {type : WireType} {bytes : Bytes} (h : IsKey number type bytes)
    (rest : Bytes) : key? (bytes ++ rest) = some ((number, type), rest) := by
  have hcode := type.code_lt
  have hpos := h.pos
  have hlt := h.lt
  have hmod : (8 * number + type.code) % 8 = type.code := by omega
  have hdiv : (8 * number + type.code) / 8 = number := by omega
  have hbound : 8 * number + type.code < 2 ^ 32 ∧ 8 ≤ 8 * number + type.code := by omega
  simp only [Wire.key?, h.isVarint.varint? rest, Option.bind_eq_bind, Option.bind_some, hmod,
    WireType.ofCode?_code, hdiv, Nat.pow_eq, if_pos hbound, Option.pure_def]

/-- A key and a content that a skipper passes over, whatever follows. -/
def Skips (skip : Nat → WireType → Bytes → Option Bytes) (number : Nat) (bytes : Bytes) : Prop :=
  ∃ key type content, bytes = key ++ content ∧ IsKey number type key ∧ type ≠ .groupEnd ∧
    ∀ rest, skip number type (content ++ rest) = some rest

theorem skipGroup?_of_records {inner : Nat → WireType → Bytes → Option Bytes} {number : Nat}
    {records : List (Nat × Bytes)} (hrecords : ∀ r ∈ records, Skips inner r.1 r.2) {stop : Bytes}
    (hstop : IsKey number .groupEnd stop) (rest : Bytes) {n : Nat} (hn : records.length < n) :
    skipGroup? inner number n ((records.map (·.2)).flatten ++ (stop ++ rest)) = some rest := by
  induction records generalizing n with
  | nil =>
    obtain ⟨n, rfl⟩ := Nat.exists_eq_succ_of_ne_zero (show n ≠ 0 by omega)
    simp [skipGroup?, hstop.key?]
  | cons r records ih =>
    obtain ⟨n, rfl⟩ := Nat.exists_eq_succ_of_ne_zero (show n ≠ 0 by omega)
    obtain ⟨hfirst, hothers⟩ := List.forall_mem_cons.mp hrecords
    obtain ⟨key, type, content, hbytes, hkey, hend, hcontent⟩ := hfirst
    rw [List.length_cons] at hn
    simp only [List.map_cons, List.flatten_cons, hbytes, List.append_assoc, skipGroup?, hkey.key?,
      Option.bind_eq_bind, Option.bind_some, if_neg hend, hcontent,
      ih hothers (show records.length < n by omega)]

theorem length_le_flatten {records : List (Nat × Bytes)} (h : ∀ r ∈ records, r.2 ≠ []) :
    records.length ≤ (records.map (·.2)).flatten.length := by
  induction records with
  | nil => exact le_rfl
  | cons r records ih =>
    obtain ⟨hfirst, hothers⟩ := List.forall_mem_cons.mp h
    have hpos := List.length_pos_of_ne_nil hfirst
    have hrest := ih hothers
    simp only [List.map_cons, List.flatten_cons, List.length_append, List.length_cons]
    omega

theorem Skips.ne_nil {skip : Nat → WireType → Bytes → Option Bytes} {number : Nat} {bytes : Bytes}
    (h : Skips skip number bytes) : bytes ≠ [] := by
  obtain ⟨key, type, content, rfl, hkey, -⟩ := h
  simp [hkey.isVarint.groups.ne_nil]

/-- A record is passed over if its groups nest less deep than the budget. -/
theorem Record.skips {depth number : Nat} {u : Bytes} (hu : Record depth number u) {budget : Nat}
    (hdepth : depth < budget) : Skips (skip? budget) number u := by
  induction hu generalizing budget with
  | varint hkey hcontent =>
    obtain ⟨budget, rfl⟩ := Nat.exists_eq_succ_of_ne_zero (show budget ≠ 0 by omega)
    refine ⟨_, _, _, rfl, hkey, by decide, fun rest => ?_⟩
    rw [skip?, hcontent.varint?]
    rfl
  | fixed64 hkey hcontent =>
    obtain ⟨budget, rfl⟩ := Nat.exists_eq_succ_of_ne_zero (show budget ≠ 0 by omega)
    refine ⟨_, _, _, rfl, hkey, by decide, fun rest => ?_⟩
    rw [skip?, ← hcontent, take?_append]
    rfl
  | fixed32 hkey hcontent =>
    obtain ⟨budget, rfl⟩ := Nat.exists_eq_succ_of_ne_zero (show budget ≠ 0 by omega)
    refine ⟨_, _, _, rfl, hkey, by decide, fun rest => ?_⟩
    rw [skip?, ← hcontent, take?_append]
    rfl
  | delimited hkey hlength =>
    obtain ⟨budget, rfl⟩ := Nat.exists_eq_succ_of_ne_zero (show budget ≠ 0 by omega)
    refine ⟨_, _, _, rfl, hkey, by decide, fun rest => ?_⟩
    rw [List.append_assoc, skip?, delimitedContent?, hlength.varint?]
    simp only [Option.bind_eq_bind, Option.bind_some, take?_append, Option.map_some]
  | group hstart _ hstop ih =>
    obtain ⟨budget, rfl⟩ := Nat.exists_eq_succ_of_ne_zero (show budget ≠ 0 by omega)
    have hinner := fun r hr => ih r hr (show _ < budget by omega)
    refine ⟨_, _, _, rfl, hstart, by decide, fun rest => ?_⟩
    have hsteps := length_le_flatten fun r hr => (hinner r hr).ne_nil
    have hpos := List.length_pos_of_ne_nil hstop.isVarint.groups.ne_nil
    rw [List.append_assoc, skip?]
    refine skipGroup?_of_records hinner hstop rest ?_
    simp only [List.length_append]
    omega

theorem Record.number_pos {depth number : Nat} {u : Bytes} (hu : Record depth number u) : 0 < number := by
  obtain ⟨key, type, content, -, hkey, -⟩ := hu.skips (Nat.lt_succ_self depth)
  exact hkey.pos

theorem mergeFields_append_record {σ : Type} {step : Nat → WireType → σ → Bytes → Option (σ × Bytes)}
    (hstep : ∀ number type s, Local (step number type s)) {depth number budget : Nat}
    (hskip : ∀ type s bytes, step number type s bytes = skipped budget number type s bytes)
    (hdepth : depth < budget) {s s' : σ} {x u : Bytes} (hx : mergeFields step s x = some s')
    (hu : Record depth number u) (y : Bytes) :
    mergeFields step s (x ++ (u ++ y)) = mergeFields step s (x ++ y) := by
  obtain ⟨key, type, content, rfl, hkey, -, hcontent⟩ := hu.skips hdepth
  rw [mergeFields_append hstep hx, mergeFields_append hstep hx, List.append_assoc,
    mergeFields_of_key? hstep (hkey.key? _), hskip, skipped, hcontent]
  rfl

/-- After bytes that are read, a record with a number that the message does not declare is passed over as if
it were not there, whatever follows it: groups in it may nest up to 99 deep. -/
theorem decode?_append_unknown {type : MessageType} {x u : Bytes} {number : Nat}
    (hx : (decode? type x).isSome) (hu : Record 99 number u) (hnumber : number ∉ type.declared) (y : Bytes) :
    decode? type (x ++ (u ++ y)) = decode? type (x ++ y) := by
  obtain ⟨m, hm⟩ := Option.isSome_iff_exists.mp hx
  have hdepth : 99 < nestingLimit := by decide
  cases type with
  | ackRequest =>
    obtain ⟨s, hs, -⟩ := Option.map_eq_some_iff.mp hm
    exact congrArg (Option.map _) (mergeFields_append_record (fun _ _ _ => Local.skipped _ _ _ _)
      (fun _ _ _ => rfl) hdepth hs hu y)
  | statsRequest =>
    obtain ⟨s, hs, -⟩ := Option.map_eq_some_iff.mp hm
    exact congrArg (Option.map _) (mergeFields_append_record (fun _ _ _ => Local.skipped _ _ _ _)
      (fun _ _ _ => rfl) hdepth hs hu y)
  | ack =>
    obtain ⟨a, ha, -⟩ := Option.map_eq_some_iff.mp hm
    refine congrArg (Option.map _) (mergeFields_append_record local_ackField (fun type a bytes => ?_)
      hdepth ha hu y)
    simp only [MessageType.declared, List.mem_cons, List.not_mem_nil, or_false, not_or] at hnumber
    unfold ackField
    split <;> first | rfl | omega
  | stats =>
    obtain ⟨s, hs, -⟩ := Option.map_eq_some_iff.mp hm
    refine congrArg (Option.map _) (mergeFields_append_record local_statsField (fun type s bytes => ?_)
      hdepth hs hu y)
    simp only [MessageType.declared, List.mem_cons, List.not_mem_nil, or_false, not_or] at hnumber
    unfold statsField
    split <;> first | rfl | omega
  | value =>
    obtain ⟨v, hv, -⟩ := Option.map_eq_some_iff.mp hm
    rw [mergeValue_eq] at hv
    rw [decode?, decode?, mergeValue_eq]
    refine congrArg (Option.map _) (mergeFields_append_record (local_valueField _)
      (fun type v bytes => ?_) hdepth hv hu y)
    have hpos := hu.number_pos
    simp only [MessageType.declared, List.mem_cons, List.not_mem_nil, or_false, not_or] at hnumber
    rw [show nestingLimit = 99 + 1 from rfl, valueField, if_neg (by omega), if_neg (by omega),
      if_neg (by omega)]

/-- A group with the number three, in which a record has a number that the message declares, in more bytes
than it needs. -/
def sampleGroup : Bytes := [0x1b, 0x08, 0x85, 0x00, 0x1c]

theorem isKey_singleton {number : Nat} {type : WireType} {b : UInt8} (hb : b.toNat = 8 * number + type.code)
    (hlt : b.toNat < 128) (hpos : 0 < number) : IsKey number type [b] :=
  ⟨⟨hb ▸ .last hlt, by simp, by omega⟩, hpos, by omega⟩

theorem record_sampleGroup : Record 99 3 sampleGroup := by
  have hfive : IsVarint 5 [0x85, 0x00] :=
    ⟨.next (b := 0x85) (by decide) (.last (b := 0x00) (by decide)), by decide, by decide⟩
  have hinside : Record 98 1 ([0x08] ++ [0x85, 0x00]) :=
    .varint (isKey_singleton (by decide) (by decide) (by decide)) hfive
  have hgroup : Record 99 3 ([0x1b] ++ (([(1, [0x08] ++ [0x85, 0x00])].map (·.2)).flatten ++ [0x1c])) :=
    .group (isKey_singleton (by decide) (by decide) (by decide)) (List.forall_mem_singleton.mpr hinside)
      (isKey_singleton (by decide) (by decide) (by decide))
  exact hgroup

theorem sampleGroup_is_passed_over : (decode? .ack [0x08, 0x01]).isSome ∧ Record 99 3 sampleGroup ∧
    3 ∉ MessageType.ack.declared ∧
    decode? .ack ([0x08, 0x01] ++ (sampleGroup ++ [0x12, 0x01, 0x61])) = some (.ack ⟨true, "a"⟩) := by
  have hread : (decode? .ack [0x08, 0x01]).isSome := by decide
  have hnumber : 3 ∉ MessageType.ack.declared := by decide
  exact ⟨hread, record_sampleGroup, hnumber,
    (decode?_append_unknown hread record_sampleGroup hnumber [0x12, 0x01, 0x61]).trans (by rfl)⟩

end Wire
end Telemetry
