import Mathlib.Data.List.Lex
import Mathlib.Order.Bounds.Basic
import Mathlib.Tactic
import Telemetry.Proofs.Json
import Telemetry.Value.Payload

/-!
# Which payloads are converted

A payload is a tree of sequences over leaves. It is converted exactly if the type of every leaf can be,
and the value is then the same tree. Otherwise the error names the first leaf that cannot be converted,
from left to right, by the path of indices that leads to it. Of two leaves neither path goes on from the
other, so the one further left has the path that comes first in the order of lists.
-/
namespace Telemetry.Payload

/-- The induction on payloads, with a hypothesis for every element of a sequence. -/
@[elab_as_elim]
theorem induction {P : Payload → Prop} (leaf : ∀ type content, P (.leaf type content))
    (sequence : ∀ items, (∀ p ∈ items, P p) → P (.sequence items)) (p : Payload) : P p :=
  @Payload.rec P (fun items => ∀ p ∈ items, P p) leaf sequence (by simp)
    (fun _ _ hfirst hrest => List.forall_mem_cons.mpr ⟨hfirst, hrest⟩) p

mutual

/-- The tree of a payload with its leaves converted, whatever their types. -/
def image : Payload → Value
  | .leaf _ content => content.toValue
  | .sequence items => .list (images items)

def images : List Payload → List Value
  | [] => []
  | p :: rest => image p :: images rest

end

theorem images_eq_map (items : List Payload) : images items = items.map image :=
  eq_map rfl (fun _ _ => rfl) items

def items : Payload → List Payload
  | leaf _ _ => []
  | sequence items => items

/-- The payload that a path of indices leads to. -/
def at? (p : Payload) : List Nat → Option Payload
  | [] => some p
  | i :: path => p.items[i]?.bind fun q => q.at? path

/-- The paths that lead to leaves of types that cannot be converted. -/
def unsupported (p : Payload) : Set (List Nat) :=
  {path | ∃ type content, p.at? path = some (.leaf type content) ∧ type.isSupported = false}

/-- The same for the elements of a sequence, which are counted from a number on. -/
def unsupportedFrom (i : Nat) (items : List Payload) : Set (List Nat) :=
  {path | ∃ k p rest, items[k]? = some p ∧ rest ∈ p.unsupported ∧ path = (i + k) :: rest}

theorem mem_unsupported_leaf {type : PayloadType} {content : Native} {path : List Nat} :
    path ∈ (leaf type content).unsupported ↔ path = [] ∧ type.isSupported = false := by
  cases path with
  | nil => simp [unsupported, at?]
  | cons i path => simp [unsupported, at?, items]

theorem unsupported_sequence (items : List Payload) :
    (sequence items).unsupported = unsupportedFrom 0 items := by
  ext path
  cases path with
  | nil => simp [unsupported, unsupportedFrom, at?]
  | cons i path =>
    simp only [unsupported, unsupportedFrom, at?, Payload.items, Set.mem_ofPred_eq,
      Option.bind_eq_some_iff, Nat.zero_add, List.cons.injEq]
    constructor
    · rintro ⟨type, content, ⟨p, hp, hat⟩, htype⟩
      exact ⟨i, p, path, hp, ⟨type, content, hat, htype⟩, rfl, rfl⟩
    · rintro ⟨k, p, rest, hp, ⟨type, content, hat, htype⟩, rfl, rfl⟩
      exact ⟨type, content, ⟨p, hp, hat⟩, htype⟩

theorem unsupportedFrom_nil (i : Nat) : unsupportedFrom i [] = ∅ := by
  simp [unsupportedFrom]

theorem unsupportedFrom_cons (i : Nat) (p : Payload) (rest : List Payload) :
    unsupportedFrom i (p :: rest) =
      List.cons i '' p.unsupported ∪ unsupportedFrom (i + 1) rest := by
  ext path
  constructor
  · rintro ⟨k, q, tail, hq, htail, rfl⟩
    cases k with
    | zero =>
      obtain rfl : p = q := by simpa using hq
      exact .inl ⟨tail, htail, rfl⟩
    | succ k => exact .inr ⟨k, q, tail, by simpa using hq, htail, by rw [Nat.add_right_comm]; rfl⟩
  · rintro (⟨tail, htail, rfl⟩ | ⟨k, q, tail, hq, htail, rfl⟩)
    · exact ⟨0, p, tail, rfl, htail, rfl⟩
    · exact ⟨k + 1, q, tail, by simpa using hq, htail, by rw [Nat.add_right_comm]; rfl⟩

/-- What is wrong further left comes first. -/
theorem isLeast_unsupportedFrom_cons {i : Nat} {p : Payload} {path : List Nat}
    (h : IsLeast p.unsupported path) (rest : List Payload) :
    IsLeast (unsupportedFrom i (p :: rest)) (i :: path) := by
  rw [unsupportedFrom_cons]
  refine ⟨.inl ⟨path, h.1, rfl⟩, ?_⟩
  rintro _ (⟨other, hother, rfl⟩ | ⟨k, q, tail, -, -, rfl⟩)
  · exact List.cons_le_cons i (h.2 hother)
  · exact le_of_lt (List.Lex.rel (by omega))

/-- What an outcome says of a payload. -/
def Judges (p : Payload) : Except PayloadError Value → Prop
  | .ok v => p.unsupported = ∅ ∧ v = p.image
  | .error e => IsLeast p.unsupported e.path

/-- What an outcome says of the elements of a sequence from a number on. -/
def JudgesFrom (i : Nat) (items : List Payload) : Except PayloadError (List Value) → Prop
  | .ok vs => unsupportedFrom i items = ∅ ∧ vs = items.map image
  | .error e => IsLeast (unsupportedFrom i items) e.path

theorem judgesFrom_toValues (i : Nat) (items : List Payload)
    (h : ∀ p ∈ items, p.Judges p.toValue) : JudgesFrom i items (toValues i items) := by
  induction items generalizing i with
  | nil => exact ⟨unsupportedFrom_nil i, rfl⟩
  | cons p rest ih =>
    obtain ⟨hp, hrest⟩ := List.forall_mem_cons.mp h
    rw [toValues]
    cases hvalue : p.toValue with
    | error e =>
      rw [hvalue] at hp
      exact isLeast_unsupportedFrom_cons hp rest
    | ok v =>
      rw [hvalue] at hp
      obtain ⟨hnone, rfl⟩ := hp
      have hfrom : unsupportedFrom i (p :: rest) = unsupportedFrom (i + 1) rest := by
        rw [unsupportedFrom_cons, hnone, Set.image_empty, Set.empty_union]
      have hlater := ih (i + 1) hrest
      cases hvalues : toValues (i + 1) rest with
      | error e =>
        rw [hvalues] at hlater
        have hleast : IsLeast (unsupportedFrom i (p :: rest)) e.path := by rwa [hfrom]
        exact hleast
      | ok vs =>
        rw [hvalues] at hlater
        obtain ⟨hnone', rfl⟩ := hlater
        exact ⟨hfrom.trans hnone', rfl⟩

theorem judges_toValue (p : Payload) : p.Judges p.toValue := by
  induction p using Payload.induction with
  | leaf type content =>
    rw [toValue]
    split
    · next htype =>
      refine ⟨Set.eq_empty_of_forall_notMem fun path hpath => ?_, rfl⟩
      simp [mem_unsupported_leaf, htype] at hpath
    · next htype =>
      refine ⟨mem_unsupported_leaf.mpr ⟨rfl, by simpa using htype⟩, fun path hpath => ?_⟩
      obtain ⟨rfl, -⟩ := mem_unsupported_leaf.mp hpath
      exact le_rfl
  | sequence items ih =>
    have hitems := judgesFrom_toValues 0 items ih
    rw [toValue]
    cases hvalues : toValues 0 items with
    | error e =>
      rw [hvalues, JudgesFrom, ← unsupported_sequence] at hitems
      exact hitems
    | ok vs =>
      rw [hvalues, JudgesFrom, ← unsupported_sequence] at hitems
      obtain ⟨hnone, rfl⟩ := hitems
      exact ⟨hnone, by rw [image, images_eq_map]⟩

/-- What an error says of one index on its path. -/
def stepText (i : Nat) : List Char := "element ".toList ++ Decimal.digits i ++ " of sequence: ".toList

theorem foldr_stepText (path : List Nat) (reason : List Char) :
    path.foldr (fun i text => stepText i ++ text) reason = path.flatMap stepText ++ reason := by
  induction path with
  | nil => rw [List.foldr_nil, List.flatMap_nil, List.nil_append]
  | cons i path ih => rw [List.foldr_cons, ih, List.flatMap_cons, List.append_assoc]

theorem toList_message (e : PayloadError) : e.message.toList = e.path.flatMap stepText ++
    "payload is not supported by to_value, implement ToGrpcValue for it".toList :=
  String.toList_ofList.trans (foldr_stepText e.path _)

/-- What the conversion of a payload gives. -/
structure ConvertsLeaves (p : Payload) : Prop where
  /-- It succeeds exactly if no leaf has a type that cannot be converted, with the tree of the payload. -/
  ok_iff : ∀ v, p.toValue = .ok v ↔
    (∀ path type content, p.at? path = some (.leaf type content) → type.isSupported = true) ∧
      v = p.image
  /-- Otherwise its error has the first path to a leaf of such a type. -/
  error_iff : ∀ e, p.toValue = .error e ↔ IsLeast p.unsupported e.path
  /-- An error tells its path from the outermost index inwards. -/
  message : ∀ e, p.toValue = .error e → e.message.toList = e.path.flatMap stepText ++
    "payload is not supported by to_value, implement ToGrpcValue for it".toList

theorem unsupported_eq_empty_iff {p : Payload} : p.unsupported = ∅ ↔
    ∀ path type content, p.at? path = some (.leaf type content) → type.isSupported = true := by
  simp [Set.eq_empty_iff_forall_notMem, unsupported]

/-- Every payload is converted leaf by leaf, up to the first leaf that cannot be. -/
theorem convertsLeaves (p : Payload) : p.ConvertsLeaves := by
  have hjudged := p.judges_toValue
  constructor
  case ok_iff =>
    intro v
    rw [← unsupported_eq_empty_iff]
    constructor
    · intro h
      rw [h] at hjudged
      exact hjudged
    · rintro ⟨hnone, rfl⟩
      cases h : p.toValue with
      | ok v =>
        rw [h] at hjudged
        rw [hjudged.2]
      | error e =>
        rw [h] at hjudged
        exact absurd (hnone ▸ hjudged.1) (Set.notMem_empty _)
  case error_iff =>
    intro e
    constructor
    · intro h
      rw [h] at hjudged
      exact hjudged
    · intro hleast
      cases h : p.toValue with
      | ok v =>
        rw [h] at hjudged
        exact absurd (hjudged.1 ▸ hleast.1) (Set.notMem_empty _)
      | error e' =>
        rw [h] at hjudged
        obtain ⟨path⟩ := e
        obtain ⟨path'⟩ := e'
        obtain rfl : path' = path := hjudged.unique hleast
        rfl
  case message => exact fun e _ => toList_message e

end Telemetry.Payload
