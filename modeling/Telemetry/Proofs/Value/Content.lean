import Mathlib.Logic.Relation
import Telemetry.Json.Printer
import Telemetry.Proofs.Value
import Telemetry.Proofs.Wire.Value
import Telemetry.Value.Native
import Telemetry.Wire.Message

/-!
# Typed values by their content

The content of a typed value is what is left without types and wrappers. A sequence has contents in order, a
map has contents for its keys and no order at all. The conversion gives the one value that has the shape of
the content, so it does not depend on anything else: typed values with one content have one value, with the
same bytes and the same text.
-/
namespace Telemetry

namespace Value

theorem ordered_ordered (v : Value) : v.ordered.Ordered := by
  induction v using induction with
  | list items ih =>
    rw [ordered, Ordered, orderedItems_eq_map, orderedItems_iff, List.forall_mem_map]
    exact ih
  | struct fields ih =>
    rw [ordered, Ordered, orderedFields_iff]
    refine ⟨Entries.ascending_ofList _, fun e he => ?_⟩
    rw [orderedFields_eq_map] at he
    obtain ⟨e', he', rfl⟩ := List.mem_map.mp (Entries.mem_of_mem_ofList he)
    exact ih e' he'
  | _ => trivial

/-- The value of a document whose objects are maps. -/
theorem ordered_ofJson {j : Json} (h : j.ordered = j) : (ofJson j).Ordered := by
  rw [← h, ofJson_ordered]
  exact ordered_ordered _

end Value

/-- What a typed value says. Values and documents that are passed through say it by themselves. -/
inductive Content where
  | unset
  | null (code : Int32)
  | bool (b : Bool)
  | integer (n : Int)
  | single (bits : UInt32)
  | double (x : Binary64)
  | string (s : String)
  | sequence (items : List Content)
  | map (content? : String → Option Content)

namespace Content

mutual

def ofValue : Value → Content
  | .unset => .unset
  | .null code => .null code
  | .number x => .double x
  | .string s => .string s
  | .bool b => .bool b
  | .list items => .sequence (ofItems items)
  | .struct fields => .map (Entries.last? (ofFields fields))

def ofItems : List Value → List Content
  | [] => []
  | v :: rest => ofValue v :: ofItems rest

def ofFields : List (String × Value) → List (String × Content)
  | [] => []
  | (key, v) :: rest => (key, ofValue v) :: ofFields rest

end

mutual

def ofJson : Json → Content
  | .null => .null 0
  | .bool b => .bool b
  | .number (.integer n _) => .integer n
  | .number (.double x _) => .double x
  | .string s => .string s
  | .array items => .sequence (ofElements items)
  | .object members => .map (Entries.last? (ofMembers members))

def ofElements : List Json → List Content
  | [] => []
  | j :: rest => ofJson j :: ofElements rest

def ofMembers : List (String × Json) → List (String × Content)
  | [] => []
  | (key, j) :: rest => (key, ofJson j) :: ofMembers rest

end

theorem ofItems_eq_map (items : List Value) : ofItems items = items.map ofValue :=
  eq_map rfl (fun _ _ => rfl) items

theorem ofFields_eq_map (fields : List (String × Value)) :
    ofFields fields = fields.map fun e => (e.1, ofValue e.2) :=
  eq_map rfl (fun _ _ => rfl) fields

theorem ofElements_eq_map (items : List Json) : ofElements items = items.map ofJson :=
  eq_map rfl (fun _ _ => rfl) items

theorem ofMembers_eq_map (members : List (String × Json)) :
    ofMembers members = members.map fun e => (e.1, ofJson e.2) :=
  eq_map rfl (fun _ _ => rfl) members

/-- A value has the shape of a content: a list has an item for each content of a sequence, in the same
order, and a struct has exactly the keys of a map. -/
inductive Image : Content → Value → Prop
  | unset : Image .unset .unset
  | null (code : Int32) : Image (.null code) (.null code)
  | bool (b : Bool) : Image (.bool b) (.bool b)
  | integer (n : Int) : Image (.integer n) (.number (.ofInt n))
  | single (bits : UInt32) : Image (.single bits) (.number (.ofSingle bits))
  | double (x : Binary64) : Image (.double x) (.number x)
  | string (s : String) : Image (.string s) (.string s)
  | sequence (contents : List Content) (items : List Value) (length : contents.length = items.length)
    (image : ∀ (i : Nat) (c : Content) (v : Value), contents[i]? = some c → items[i]? = some v →
      Image c v) : Image (.sequence contents) (.list items)
  | map (content? : String → Option Content) (fields : List (String × Value))
    (ascending : Entries.Ascending fields)
    (keys : ∀ key, (content? key).isSome = (Entries.get? key fields).isSome)
    (image : ∀ (key : String) (c : Content) (v : Value), content? key = some c →
      Entries.get? key fields = some v → Image c v) : Image (.map content?) (.struct fields)

theorem Image.unique {c : Content} {v w : Value} (hv : Image c v) (hw : Image c w) : v = w := by
  induction hv generalizing w with
  | sequence contents items hlength _ ih =>
    cases hw with
    | sequence _ items' hlength' himage' =>
      refine congrArg Value.list (List.ext_getElem? fun i => ?_)
      by_cases hi : i < contents.length
      · have hcontent := List.getElem?_eq_getElem hi
        have hitem := List.getElem?_eq_getElem (hlength ▸ hi)
        have hitem' := List.getElem?_eq_getElem (hlength' ▸ hi)
        rw [hitem, hitem', ih i _ _ hcontent hitem (himage' i _ _ hcontent hitem')]
      · rw [List.getElem?_eq_none (by omega), List.getElem?_eq_none (by omega)]
  | map content? fields hascending hkeys _ ih =>
    cases hw with
    | map _ fields' hascending' hkeys' himage' =>
      refine congrArg Value.struct (Entries.eq_of_get?_eq hascending hascending' fun key => ?_)
      have hsame := (hkeys key).symm.trans (hkeys' key)
      cases hfield : Entries.get? key fields with
      | none =>
        rw [hfield] at hsame
        exact (Option.not_isSome_iff_eq_none.mp (by simp [← hsame])).symm
      | some v =>
        rw [hfield] at hsame
        obtain ⟨v', hfield'⟩ := Option.isSome_iff_exists.mp hsame.symm
        obtain ⟨c, hcontent⟩ := Option.isSome_iff_exists.mp ((hkeys key).trans (by rw [hfield]; rfl))
        rw [hfield', ih key c v hcontent hfield (himage' key c v' hcontent hfield')]
  | _ => cases hw; rfl

section
variable {α : Type} (content : α → Content) (value : α → Value)

theorem image_sequence {items : List α} (h : ∀ a ∈ items, Image (content a) (value a)) :
    Image (.sequence (items.map content)) (.list (items.map value)) := by
  refine .sequence _ _ (by rw [List.length_map, List.length_map]) fun i c v hc hv => ?_
  rw [List.getElem?_map] at hc hv
  obtain ⟨a, ha, rfl⟩ := Option.map_eq_some_iff.mp hc
  obtain rfl : value a = v := by simpa [ha] using hv
  exact h a (List.mem_of_getElem? ha)

theorem image_map {entries : List (String × α)} (h : ∀ e ∈ entries, Image (content e.2) (value e.2)) :
    Image (.map (Entries.last? (entries.map fun e => (e.1, content e.2))))
      (.struct (Entries.ofList (entries.map fun e => (e.1, value e.2)))) := by
  have hlast (key : String) : Entries.get? key (Entries.ofList (entries.map fun e => (e.1, value e.2))) =
      (Entries.last? entries key).map value := by
    rw [Entries.get?_ofList, Entries.last?_map]
  refine .map _ _ (Entries.ascending_ofList _) (fun key => ?_) fun key c v hc hv => ?_
  · rw [hlast, Entries.last?_map, Option.isSome_map, Option.isSome_map]
  · rw [hlast] at hv
    rw [Entries.last?_map] at hc
    obtain ⟨a, ha, rfl⟩ := Option.map_eq_some_iff.mp hc
    obtain rfl : value a = v := by simpa [ha] using hv
    exact h _ (Entries.mem_of_last? ha)

end

theorem image_ofValue {v : Value} (h : v.Ordered) : Image (ofValue v) v := by
  induction v using Value.induction with
  | list items ih =>
    have hitems := (Value.orderedItems_iff items).mp h
    have himage := image_sequence ofValue id fun v hv => ih v hv (hitems v hv)
    rwa [List.map_id, ← ofItems_eq_map] at himage
  | struct fields ih =>
    obtain ⟨hascending, hfields⟩ := h
    rw [Value.orderedFields_iff] at hfields
    have himage := image_map ofValue id fun e he => ih e he (hfields e he)
    have hsame : fields.map (fun e => (e.1, id e.2)) = fields := List.map_id fields
    rwa [hsame, Entries.ofList_of_ascending hascending, ← ofFields_eq_map] at himage
  | _ => constructor

theorem image_ofJson {j : Json} (h : (Value.ofJson j).Ordered) : Image (ofJson j) (.ofJson j) := by
  induction j using Json.induction with
  | number n => cases n <;> constructor
  | array items ih =>
    rw [Value.ofJson, Value.Ordered, Value.ofJsonItems_eq_map, Value.orderedItems_iff,
      List.forall_mem_map] at h
    rw [ofJson, Value.ofJson, ofElements_eq_map, Value.ofJsonItems_eq_map]
    exact image_sequence ofJson Value.ofJson fun j hj => ih j hj (h j hj)
  | object members ih =>
    obtain ⟨hascending, hmembers⟩ := h
    rw [Value.ofJsonMembers_eq_map] at hascending hmembers
    rw [Value.orderedFields_iff, List.forall_mem_map] at hmembers
    have himage := image_map ofJson Value.ofJson fun e he => ih e he (hmembers e he)
    rwa [Entries.ofList_of_ascending hascending, ← ofMembers_eq_map,
      ← Value.ofJsonMembers_eq_map] at himage
  | _ => constructor

end Content

namespace Native

/-- The induction on typed values, with a hypothesis for everything inside. -/
@[elab_as_elim]
theorem induction {P : Native → Prop} (string : ∀ s, P (.string s)) (bool : ∀ b, P (.bool b))
    (unit : P .unit) (integer : ∀ type n h, P (.integer type n h)) (single : ∀ bits, P (.single bits))
    (double : ∀ x, P (.double x)) (absent : P .absent)
    (wrapped : ∀ wrapper a, P a → P (.wrapped wrapper a))
    (sequence : ∀ type items, (∀ a ∈ items, P a) → P (.sequence type items))
    (map : ∀ type entries, (∀ e ∈ entries, P e.2) → P (.map type entries))
    (value : ∀ v, P (.value v)) (values : ∀ items, P (.values items))
    (fields : ∀ entries, P (.fields entries)) (json : ∀ j, P (.json j)) (a : Native) : P a :=
  @Native.rec P (fun items => ∀ a ∈ items, P a) (fun entries => ∀ e ∈ entries, P e.2) (fun e => P e.2)
    string bool unit integer single double absent wrapped sequence map value values fields json
    (by simp) (fun _ _ hfirst hrest => List.forall_mem_cons.mpr ⟨hfirst, hrest⟩)
    (by simp) (fun _ _ hfirst hrest => List.forall_mem_cons.mpr ⟨hfirst, hrest⟩)
    (fun _ _ h => h) a

theorem toValues_eq_map (items : List Native) : toValues items = items.map toValue :=
  eq_map rfl (fun _ _ => rfl) items

theorem toFields_eq_map (entries : List (String × Native)) :
    toFields entries = entries.map fun e => (e.1, e.2.toValue) :=
  eq_map rfl (fun _ _ => rfl) entries

mutual

def content : Native → Content
  | .string s => .string s
  | .bool b => .bool b
  | .unit => .null 0
  | .integer _ n _ => .integer n
  | .single bits => .single bits
  | .double x => .double x
  | .absent => .null 0
  | .wrapped _ inner => content inner
  | .sequence _ items => .sequence (contents items)
  | .map _ entries => .map (Entries.last? (entryContents entries))
  | .value v => .ofValue v
  | .values items => .sequence (Content.ofItems items)
  | .fields entries => .map (Entries.last? (Content.ofFields entries))
  | .json j => .ofJson j

def contents : List Native → List Content
  | [] => []
  | a :: rest => content a :: contents rest

def entryContents : List (String × Native) → List (String × Content)
  | [] => []
  | (key, a) :: rest => (key, content a) :: entryContents rest

end

theorem contents_eq_map (items : List Native) : contents items = items.map content :=
  eq_map rfl (fun _ _ => rfl) items

theorem entryContents_eq_map (entries : List (String × Native)) :
    entryContents entries = entries.map fun e => (e.1, e.2.content) :=
  eq_map rfl (fun _ _ => rfl) entries

mutual

/-- Every struct and every object that is passed through is a map: its keys ascend. -/
def Ordered : Native → Prop
  | .wrapped _ inner => Ordered inner
  | .sequence _ items => OrderedItems items
  | .map _ entries => OrderedEntries entries
  | .value v => v.Ordered
  | .values items => Value.OrderedItems items
  | .fields entries => (Value.struct entries).Ordered
  | .json j => j.ordered = j
  | _ => True

def OrderedItems : List Native → Prop
  | [] => True
  | a :: rest => Ordered a ∧ OrderedItems rest

def OrderedEntries : List (String × Native) → Prop
  | [] => True
  | (_, a) :: rest => Ordered a ∧ OrderedEntries rest

end

theorem orderedItems_iff (items : List Native) : OrderedItems items ↔ ∀ a ∈ items, a.Ordered := by
  induction items with
  | nil => simp [OrderedItems]
  | cons a items ih => rw [OrderedItems, ih, List.forall_mem_cons]

theorem orderedEntries_iff (entries : List (String × Native)) :
    OrderedEntries entries ↔ ∀ e ∈ entries, e.2.Ordered := by
  induction entries with
  | nil => simp [OrderedEntries]
  | cons e entries ih => rw [OrderedEntries, ih, List.forall_mem_cons]

theorem image_content {a : Native} (h : a.Ordered) : a.content.Image a.toValue := by
  induction a using induction with
  | wrapped wrapper a ih => exact ih h
  | sequence type items ih =>
    have hitems := (orderedItems_iff items).mp h
    rw [content, toValue, contents_eq_map, toValues_eq_map]
    exact Content.image_sequence content toValue fun a ha => ih a ha (hitems a ha)
  | map type entries ih =>
    have hentries := (orderedEntries_iff entries).mp h
    rw [content, toValue, entryContents_eq_map, toFields_eq_map]
    exact Content.image_map content toValue fun e he => ih e he (hentries e he)
  | value v => exact Content.image_ofValue h
  | values items => exact Content.image_ofValue (v := .list items) h
  | fields entries => exact Content.image_ofValue (v := .struct entries) h
  | json j => exact Content.image_ofJson (Value.ordered_ofJson h)
  | _ => constructor

/-- A place inside a typed value. -/
inductive Place where
  | here
  | wrapped (wrapper : Wrapper) (inner : Place)
  | item (type : SequenceType) (before : List Native) (inner : Place) (behind : List Native)
  | entry (type : MapType) (before : List (String × Native)) (key : String) (inner : Place)
    (behind : List (String × Native))

/-- The typed value that stands at a place, with all that is around it. -/
def Place.fill (a : Native) : Place → Native
  | here => a
  | wrapped wrapper inner => .wrapped wrapper (inner.fill a)
  | item type before inner behind => .sequence type (before ++ inner.fill a :: behind)
  | entry type before key inner behind => .map type (before ++ (key, inner.fill a) :: behind)

theorem content_fill {a b : Native} (h : a.content = b.content) (place : Place) :
    (place.fill a).content = (place.fill b).content := by
  induction place with
  | here => exact h
  | wrapped wrapper inner ih => exact ih
  | item type before inner behind ih =>
    simp only [Place.fill, content, contents_eq_map, List.map_append, List.map_cons, ih]
  | entry type before key inner behind ih =>
    simp only [Place.fill, content, entryContents_eq_map, List.map_append, List.map_cons, ih]

theorem toValue_fill {a b : Native} (h : a.toValue = b.toValue) (place : Place) :
    (place.fill a).toValue = (place.fill b).toValue := by
  induction place with
  | here => exact h
  | wrapped wrapper inner ih => exact ih
  | item type before inner behind ih =>
    simp only [Place.fill, toValue, toValues_eq_map, List.map_append, List.map_cons, ih]
  | entry type before key inner behind ih =>
    simp only [Place.fill, toValue, toFields_eq_map, List.map_append, List.map_cons, ih]

/-- One map, at any place, has its entries in another order, and may be of the other type. -/
inductive Reorders : Native → Native → Prop
  | map (place : Place) (type type' : MapType) {entries entries' : List (String × Native)}
    (keys : (entries.map Prod.fst).Nodup) (perm : entries.Perm entries') :
    Reorders (place.fill (.map type entries)) (place.fill (.map type' entries'))

theorem Reorders.content_eq {a b : Native} (h : Reorders a b) : b.content = a.content := by
  obtain ⟨place, type, type', hkeys, hperm⟩ := h
  refine content_fill ?_ place
  rw [content, content, entryContents_eq_map, entryContents_eq_map,
    Entries.last?_perm (Entries.nodup_keys_map content hkeys) (hperm.map _)]

theorem Reorders.toValue_eq {a b : Native} (h : Reorders a b) : b.toValue = a.toValue := by
  obtain ⟨place, type, type', hkeys, hperm⟩ := h
  refine toValue_fill ?_ place
  rw [toValue, toValue, toFields_eq_map, toFields_eq_map,
    Entries.ofList_perm (Entries.nodup_keys_map toValue hkeys) (hperm.map _)]

/-- What the conversion of a typed value depends on. -/
structure ConvertsContent (a : Native) : Prop where
  /-- The value is the only one that has the shape of the content. -/
  image : ∀ v, a.content.Image v ↔ v = a.toValue
  /-- Typed values with one content have one value, with the same bytes and the same text. -/
  same : ∀ b : Native, b.Ordered → b.content = a.content → b.toValue = a.toValue ∧
    Wire.encode (.value b.toValue) = Wire.encode (.value a.toValue) ∧
    ∀ layout, Json.print layout 0 b.toValue.toJson = Json.print layout 0 a.toValue.toJson
  /-- So it is with maps that come in another order, any number of them and at any depth. -/
  reordered : ∀ b : Native, Relation.ReflTransGen Reorders a b →
    b.content = a.content ∧ b.toValue = a.toValue

/-- The conversion of a typed value depends only on its content. -/
theorem convertsContent {a : Native} (ha : a.Ordered) : a.ConvertsContent where
  image v := by
    constructor
    · intro hv
      exact hv.unique (image_content ha)
    · rintro rfl
      exact image_content ha
  same b hb h := by
    have hvalue : b.toValue = a.toValue := (image_content hb).unique (h ▸ image_content ha)
    rw [hvalue]
    exact ⟨rfl, rfl, fun _ => rfl⟩
  reordered b h := by
    induction h with
    | refl => exact ⟨rfl, rfl⟩
    | tail _ hstep ih => exact ⟨hstep.content_eq.trans ih.1, hstep.toValue_eq.trans ih.2⟩

/-- A map inside an option inside a sequence, next to a struct that is passed through. -/
def sampleWith (type : MapType) (entries : List (String × Native)) : Native :=
  .sequence .growable [.wrapped .present (.map type entries), .fields [("", .unset), ("b", .null 7)]]

def sampleEntries : List (String × Native) :=
  [("b", .integer ⟨true, .bits64⟩ (-1) (by decide)), ("a", .wrapped .box .absent)]

theorem sample_reordered : (sampleWith .hashed sampleEntries).Ordered ∧
    (sampleWith .ordered sampleEntries.reverse).toValue = (sampleWith .hashed sampleEntries).toValue := by
  have hascending : Entries.Ascending [("", Value.unset), ("b", .null 7)] :=
    List.pairwise_pair.mpr (show "" < "b" by decide)
  have hordered : (sampleWith .hashed sampleEntries).Ordered :=
    ⟨⟨trivial, trivial, trivial⟩, ⟨hascending, trivial, trivial, trivial⟩, trivial⟩
  have hsteps : Reorders (sampleWith .hashed sampleEntries) (sampleWith .ordered sampleEntries.reverse) :=
    .map (.item .growable [] (.wrapped .present .here) [.fields [("", .unset), ("b", .null 7)]])
      .hashed .ordered (by decide) (List.reverse_perm sampleEntries).symm
  exact ⟨hordered, ((convertsContent hordered).reordered _ (.single hsteps)).2⟩

end Native
end Telemetry
