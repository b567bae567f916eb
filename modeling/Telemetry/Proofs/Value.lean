import Telemetry.Proofs.Json
import Telemetry.Value

/-!
# Values and documents

From a document to a value and back, every number becomes a double and nothing else changes. From a value
to a document and back, whatever has no place in a document becomes the null of this library: a value with
no kind, the other nulls and the numbers that are not finite. Structs and objects are lists here, and both
ways may make them maps at any point.
-/
namespace Telemetry.Value

/-- The induction on values, with a hypothesis for everything inside a list or a struct. -/
@[elab_as_elim]
theorem induction {P : Value → Prop} (unset : P .unset) (null : ∀ code, P (.null code))
    (number : ∀ x, P (.number x)) (string : ∀ s, P (.string s)) (bool : ∀ b, P (.bool b))
    (list : ∀ items, (∀ v ∈ items, P v) → P (.list items))
    (struct : ∀ fields, (∀ e ∈ fields, P e.2) → P (.struct fields)) (v : Value) : P v :=
  @Value.rec P (fun items => ∀ v ∈ items, P v) (fun fields => ∀ e ∈ fields, P e.2) (fun e => P e.2)
    unset null number string bool list struct
    (by simp) (fun _ _ hfirst hrest => List.forall_mem_cons.mpr ⟨hfirst, hrest⟩)
    (by simp) (fun _ _ hfirst hrest => List.forall_mem_cons.mpr ⟨hfirst, hrest⟩)
    (fun _ _ h => h) v

theorem ofJsonItems_eq_map (items : List Json) : ofJsonItems items = items.map ofJson :=
  eq_map rfl (fun _ _ => rfl) items

theorem ofJsonMembers_eq_map (members : List (String × Json)) :
    ofJsonMembers members = members.map fun e => (e.1, ofJson e.2) :=
  eq_map rfl (fun _ _ => rfl) members

theorem toJsonItems_eq_map (items : List Value) : toJsonItems items = items.map toJson :=
  eq_map rfl (fun _ _ => rfl) items

theorem toJsonFields_eq_map (fields : List (String × Value)) :
    toJsonFields fields = fields.map fun e => (e.1, e.2.toJson) :=
  eq_map rfl (fun _ _ => rfl) fields

mutual

/-- The value with every struct made a map. -/
def ordered : Value → Value
  | .list items => .list (orderedItems items)
  | .struct fields => .struct (Entries.ofList (orderedFields fields))
  | v => v

def orderedItems : List Value → List Value
  | [] => []
  | v :: rest => ordered v :: orderedItems rest

def orderedFields : List (String × Value) → List (String × Value)
  | [] => []
  | (key, v) :: rest => (key, ordered v) :: orderedFields rest

end

theorem orderedItems_eq_map (items : List Value) : orderedItems items = items.map ordered :=
  eq_map rfl (fun _ _ => rfl) items

theorem orderedFields_eq_map (fields : List (String × Value)) :
    orderedFields fields = fields.map fun e => (e.1, e.2.ordered) :=
  eq_map rfl (fun _ _ => rfl) fields

theorem ofJson_ordered (j : Json) : ofJson j.ordered = (ofJson j).ordered := by
  induction j using Json.induction with
  | array items ih =>
    simp only [ofJson, ordered, Json.ordered, ofJsonItems_eq_map, orderedItems_eq_map,
      Json.orderedItems_eq_map, List.map_map]
    exact congrArg list (List.map_congr_left ih)
  | object members ih =>
    simp only [ofJson, ordered, Json.ordered, ofJsonMembers_eq_map, orderedFields_eq_map,
      Json.orderedMembers_eq_map, ← Entries.ofList_map, List.map_map]
    refine congrArg (fun entries => struct (Entries.ofList entries)) ?_
    exact List.map_congr_left fun e he => Prod.ext rfl (ih e he)
  | _ => rfl

theorem toJson_ordered (v : Value) : v.ordered.toJson = v.toJson.ordered := by
  induction v using induction with
  | number x =>
    simp only [ordered, toJson, numberToJson]
    split_ifs <;> rfl
  | list items ih =>
    simp only [toJson, ordered, Json.ordered, toJsonItems_eq_map, orderedItems_eq_map,
      Json.orderedItems_eq_map, List.map_map]
    exact congrArg Json.array (List.map_congr_left ih)
  | struct fields ih =>
    simp only [toJson, ordered, Json.ordered, toJsonFields_eq_map, orderedFields_eq_map,
      Json.orderedMembers_eq_map, ← Entries.ofList_map, List.map_map]
    refine congrArg (fun entries => Json.object (Entries.ofList entries)) ?_
    exact List.map_congr_left fun e he => Prod.ext rfl (ih e he)
  | _ => rfl

theorem toJson_ofJson (j : Json) : (ofJson j).toJson = j.mapNumbers Number.rounded := by
  induction j using Json.induction with
  | number n =>
    cases n with
    | integer n h => exact dif_pos (Number.isNearest_ofInt h).finite
    | double x h => exact dif_pos h
  | array items ih =>
    simp only [ofJson, toJson, Json.mapNumbers, ofJsonItems_eq_map, toJsonItems_eq_map,
      Json.mapItems_eq_map, List.map_map]
    exact congrArg Json.array (List.map_congr_left ih)
  | object members ih =>
    simp only [ofJson, toJson, Json.mapNumbers, ofJsonMembers_eq_map, toJsonFields_eq_map,
      Json.mapMembers_eq_map, List.map_map]
    exact congrArg Json.object (List.map_congr_left fun e he => Prod.ext rfl (ih e he))
  | _ => rfl

/-- What comes back of a document that was made a value. -/
structure ReturnsRounded (j : Json) : Prop where
  /-- The same document, with a function applied to every number. -/
  same : (ofJson j).toJson = j.mapNumbers Number.rounded
  /-- This function keeps doubles and takes integers to the nearest one, only zero to zero. -/
  rounded : ∀ n : Number, n.RoundsTo n.rounded
  /-- Objects and structs may be made maps on both ways. -/
  maps : (ofJson j).ordered.toJson.ordered = j.ordered.mapNumbers Number.rounded

theorem returnsRounded (j : Json) : ReturnsRounded j where
  same := toJson_ofJson j
  rounded := Number.roundsTo_rounded
  maps := by
    rw [toJson_ordered, Json.ordered_ordered, toJson_ofJson, Json.mapNumbers_ordered]

mutual

/-- The value with all that a document cannot hold made null. -/
def plain : Value → Value
  | .unset => nullValue
  | .null _ => nullValue
  | .number x => if x.isFinite then .number x else nullValue
  | .string s => .string s
  | .bool b => .bool b
  | .list items => .list (plainItems items)
  | .struct fields => .struct (plainFields fields)

def plainItems : List Value → List Value
  | [] => []
  | v :: rest => plain v :: plainItems rest

def plainFields : List (String × Value) → List (String × Value)
  | [] => []
  | (key, v) :: rest => (key, plain v) :: plainFields rest

end

theorem plainItems_eq_map (items : List Value) : plainItems items = items.map plain :=
  eq_map rfl (fun _ _ => rfl) items

theorem plainFields_eq_map (fields : List (String × Value)) :
    plainFields fields = fields.map fun e => (e.1, e.2.plain) :=
  eq_map rfl (fun _ _ => rfl) fields

theorem ofJson_toJson (v : Value) : ofJson v.toJson = v.plain := by
  induction v using induction with
  | number x =>
    simp only [toJson, numberToJson, plain]
    split_ifs <;> rfl
  | list items ih =>
    simp only [toJson, ofJson, plain, toJsonItems_eq_map, ofJsonItems_eq_map, plainItems_eq_map,
      List.map_map]
    exact congrArg list (List.map_congr_left ih)
  | struct fields ih =>
    simp only [toJson, ofJson, plain, toJsonFields_eq_map, ofJsonMembers_eq_map,
      plainFields_eq_map, List.map_map]
    exact congrArg struct (List.map_congr_left fun e he => Prod.ext rfl (ih e he))
  | _ => rfl

theorem toJson_plain (v : Value) : v.plain.toJson = v.toJson := by
  induction v using induction with
  | number x =>
    by_cases h : x.isFinite = true
    · rw [plain, if_pos h]
    · rw [plain, if_neg h, toJson, numberToJson, dif_neg h]
      rfl
  | list items ih =>
    simp only [toJson, plain, toJsonItems_eq_map, plainItems_eq_map, List.map_map]
    exact congrArg Json.array (List.map_congr_left ih)
  | struct fields ih =>
    simp only [toJson, plain, toJsonFields_eq_map, plainFields_eq_map, List.map_map]
    exact congrArg Json.object (List.map_congr_left fun e he => Prod.ext rfl (ih e he))
  | _ => rfl

theorem toJson_eq_toJson_iff (v w : Value) : v.toJson = w.toJson ↔ v.plain = w.plain := by
  constructor
  · intro h
    rw [← ofJson_toJson v, h, ofJson_toJson]
  · intro h
    rw [← toJson_plain v, h, toJson_plain]

/-- What comes back of a value that was made a document. -/
structure ReturnsPlain (v : Value) : Prop where
  /-- The same value, with all that has no place in a document made null. -/
  same : ofJson v.toJson = v.plain
  /-- A document forgets no more than that. -/
  forgets : ∀ w : Value, v.toJson = w.toJson ↔ v.plain = w.plain
  /-- Lists keep their items in order. -/
  items : ∀ items, v = .list items → v.toJson = .array (items.map toJson)
  /-- Structs keep their keys. -/
  fields : ∀ fields, v = .struct fields →
    v.toJson = structToJson fields ∧ v.toJson = .object (fields.map fun e => (e.1, e.2.toJson))
  /-- Structs and objects may be made maps on both ways. -/
  maps : (ofJson v.ordered.toJson.ordered).ordered = v.ordered.plain
  /-- Documents that are equal as maps come from values that are. -/
  forgetsMaps : ∀ w : Value, v.toJson.ordered = w.toJson.ordered ↔ v.ordered.plain = w.ordered.plain

theorem returnsPlain (v : Value) : ReturnsPlain v where
  same := ofJson_toJson v
  forgets := toJson_eq_toJson_iff v
  items := by
    rintro items rfl
    rw [toJson, toJsonItems_eq_map]
  fields := by
    rintro fields rfl
    exact ⟨rfl, by rw [toJson, toJsonFields_eq_map]⟩
  maps := by
    rw [← ofJson_ordered, Json.ordered_ordered, toJson_ordered, Json.ordered_ordered,
      ← toJson_ordered, ofJson_toJson]
  forgetsMaps w := by
    rw [← toJson_ordered, ← toJson_ordered, toJson_eq_toJson_iff]

end Telemetry.Value
