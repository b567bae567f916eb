import Telemetry.Json
import Telemetry.Proofs.Binary64
import Telemetry.Proofs.Entries

/-!
# Documents as maps

`Json.ordered` makes the members of every object a map. Doing so twice is doing it once, and a function of
the numbers may be applied before or after it. `Number.rounded`, which makes every number a double, is such
a function.
-/
namespace Telemetry

/-- A function that works through a list item by item maps it. -/
theorem eq_map {α β : Type} {f : List α → List β} {g : α → β} (nil : f [] = [])
    (cons : ∀ a rest, f (a :: rest) = g a :: f rest) (items : List α) : f items = items.map g := by
  induction items with
  | nil => exact nil
  | cons a rest ih => rw [cons, ih, List.map_cons]

namespace Number

theorem isNearest_ofInt {n : Int} (h : -Nat.pow 2 63 ≤ n ∧ n < Nat.pow 2 64) :
    (Binary64.ofInt n).IsNearest n := by
  have hsmall : n.natAbs < 2 ^ 65 := by
    simp only [Nat.pow_eq] at h
    omega
  exact Binary64.isNearest_ofInt (by decide) hsmall

/-- The number as a double. -/
def rounded : Number → Number
  | .integer n h => .double (.ofInt n) (isNearest_ofInt h).finite
  | .double x h => .double x h

/-- The double is the number itself, or the nearest one to an integer. -/
def IsNearest : Number → Binary64 → Prop
  | .integer n _, x => x.IsNearest n
  | .double y _, x => x = y

def IsZero : Number → Prop
  | .integer n _ => n = 0
  | .double x _ => x.value = 0

/-- One number is the other one as a double, and zero only if that one is. -/
structure RoundsTo (n r : Number) : Prop where
  double : ∃ x h, r = .double x h ∧ n.IsNearest x
  zero_iff : r.IsZero ↔ n.IsZero

theorem roundsTo_rounded (n : Number) : n.RoundsTo n.rounded := by
  cases n with
  | integer n h => exact ⟨⟨_, _, rfl, isNearest_ofInt h⟩, (isNearest_ofInt h).value_eq_zero_iff⟩
  | double x h => exact ⟨⟨x, h, rfl, rfl⟩, Iff.rfl⟩

end Number

namespace Json

/-- The induction on documents, with a hypothesis for everything inside an array or an object. -/
@[elab_as_elim]
theorem induction {P : Json → Prop} (null : P .null) (bool : ∀ b, P (.bool b))
    (number : ∀ n, P (.number n)) (string : ∀ s, P (.string s))
    (array : ∀ items, (∀ j ∈ items, P j) → P (.array items))
    (object : ∀ members, (∀ e ∈ members, P e.2) → P (.object members)) (j : Json) : P j :=
  @Json.rec P (fun items => ∀ j ∈ items, P j) (fun members => ∀ e ∈ members, P e.2) (fun e => P e.2)
    null bool number string array object
    (by simp) (fun _ _ hfirst hrest => List.forall_mem_cons.mpr ⟨hfirst, hrest⟩)
    (by simp) (fun _ _ hfirst hrest => List.forall_mem_cons.mpr ⟨hfirst, hrest⟩)
    (fun _ _ h => h) j

theorem orderedItems_eq_map (items : List Json) : orderedItems items = items.map ordered :=
  eq_map rfl (fun _ _ => rfl) items

theorem orderedMembers_eq_map (members : List (String × Json)) :
    orderedMembers members = members.map fun e => (e.1, e.2.ordered) :=
  eq_map rfl (fun _ _ => rfl) members

theorem ordered_ordered (j : Json) : j.ordered.ordered = j.ordered := by
  induction j using induction with
  | array items ih =>
    simp only [ordered, orderedItems_eq_map, List.map_map]
    exact congrArg array (List.map_congr_left ih)
  | object members ih =>
    have hmembers : orderedMembers (orderedMembers members) = orderedMembers members := by
      simp only [orderedMembers_eq_map, List.map_map]
      exact List.map_congr_left fun e he => Prod.ext rfl (ih e he)
    have hmap : orderedMembers (Entries.ofList (orderedMembers members)) =
        Entries.ofList (orderedMembers members) := by
      rw [orderedMembers_eq_map, ← Entries.ofList_map, ← orderedMembers_eq_map, hmembers]
    rw [ordered, ordered, hmap, Entries.ofList_of_ascending (Entries.ascending_ofList _)]
  | _ => rfl

mutual

/-- The document with a function applied to every number. -/
def mapNumbers (f : Number → Number) : Json → Json
  | .null => .null
  | .bool b => .bool b
  | .number n => .number (f n)
  | .string s => .string s
  | .array items => .array (mapItems f items)
  | .object members => .object (mapMembers f members)

def mapItems (f : Number → Number) : List Json → List Json
  | [] => []
  | j :: rest => mapNumbers f j :: mapItems f rest

def mapMembers (f : Number → Number) : List (String × Json) → List (String × Json)
  | [] => []
  | (key, j) :: rest => (key, mapNumbers f j) :: mapMembers f rest

end

variable (f : Number → Number)

theorem mapItems_eq_map (items : List Json) : mapItems f items = items.map (mapNumbers f) :=
  eq_map rfl (fun _ _ => rfl) items

theorem mapMembers_eq_map (members : List (String × Json)) :
    mapMembers f members = members.map fun e => (e.1, e.2.mapNumbers f) :=
  eq_map rfl (fun _ _ => rfl) members

theorem mapNumbers_ordered (j : Json) : j.ordered.mapNumbers f = (j.mapNumbers f).ordered := by
  induction j using induction with
  | array items ih =>
    simp only [ordered, mapNumbers, orderedItems_eq_map, mapItems_eq_map, List.map_map]
    exact congrArg array (List.map_congr_left ih)
  | object members ih =>
    simp only [ordered, mapNumbers, orderedMembers_eq_map, mapMembers_eq_map,
      ← Entries.ofList_map, List.map_map]
    refine congrArg (fun entries => object (Entries.ofList entries)) ?_
    exact List.map_congr_left fun e he => Prod.ext rfl (ih e he)
  | _ => rfl

end Json
end Telemetry
