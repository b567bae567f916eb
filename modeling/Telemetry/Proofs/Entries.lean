import Mathlib.Tactic
import Telemetry.Entries

/-!
# Entries in order

The map of a list ascends, a list with ascending keys is its own map, and a function of the values may be
applied before or after a list is made a map. The map gives to each key the last value that the list gives
to it, so the order of entries with different keys does not matter.
-/
namespace Telemetry.Entries

variable {α : Type}

theorem put_of_forall_lt (key : String) (a : α) (entries : List (String × α))
    (h : ∀ e ∈ entries, e.1 < key) : put key a entries = entries ++ [(key, a)] := by
  induction entries with
  | nil => rfl
  | cons e entries ih =>
    obtain ⟨k, b⟩ := e
    have hk : k < key := h (k, b) List.mem_cons_self
    rw [put, if_neg (String.lt_asymm hk), if_neg (String.ne_of_lt hk).symm,
      ih fun e he => h e (List.mem_cons_of_mem _ he)]
    rfl

theorem putAll_of_ascending (base entries : List (String × α)) (h : Ascending (base ++ entries)) :
    putAll base entries = base ++ entries := by
  induction entries generalizing base with
  | nil => simp [putAll]
  | cons e entries ih =>
    have hlast : ∀ b ∈ base, b.1 < e.1 := fun b hb =>
      (List.pairwise_append.mp h).2.2 b hb e List.mem_cons_self
    have happend : base ++ e :: entries = base ++ [e] ++ entries := by simp
    calc putAll base (e :: entries) = putAll (put e.1 e.2 base) entries := rfl
      _ = putAll (base ++ [e]) entries := by rw [put_of_forall_lt _ _ _ hlast]
      _ = base ++ e :: entries := by rw [ih _ (happend ▸ h), happend]

theorem ofList_of_ascending {entries : List (String × α)} (h : Ascending entries) :
    ofList entries = entries :=
  putAll_of_ascending [] entries h

theorem mem_put {key : String} {a : α} {entries : List (String × α)} {e : String × α}
    (h : e ∈ put key a entries) : e = (key, a) ∨ e ∈ entries := by
  induction entries with
  | nil => exact .inl (List.mem_singleton.mp h)
  | cons e' entries ih =>
    rw [put] at h
    grind

theorem ascending_put (key : String) (a : α) {entries : List (String × α)} (h : Ascending entries) :
    Ascending (put key a entries) := by
  induction entries with
  | nil => exact List.pairwise_singleton _ _
  | cons e entries ih =>
    obtain ⟨k, b⟩ := e
    obtain ⟨hfirst, hrest⟩ := List.pairwise_cons.mp h
    rw [put]
    split_ifs with hlt heq
    · refine List.pairwise_cons.mpr ⟨fun e he => ?_, h⟩
      obtain rfl | he := List.mem_cons.mp he
      · exact hlt
      · exact String.lt_trans hlt (hfirst e he)
    · subst heq
      exact List.pairwise_cons.mpr ⟨hfirst, hrest⟩
    · refine List.pairwise_cons.mpr ⟨fun e he => ?_, ih hrest⟩
      obtain rfl | he := mem_put he
      · by_contra hnot
        exact heq (String.le_antisymm (String.not_lt.mp hnot) (String.not_lt.mp hlt))
      · exact hfirst e he

theorem ascending_putAll {base : List (String × α)} (h : Ascending base) (entries : List (String × α)) :
    Ascending (putAll base entries) := by
  unfold putAll
  exact List.foldlRecOn entries _ h fun base h e _ => ascending_put e.1 e.2 h

theorem ascending_ofList (entries : List (String × α)) : Ascending (ofList entries) :=
  ascending_putAll List.Pairwise.nil entries

theorem get?_put (key key' : String) (a : α) (entries : List (String × α)) :
    get? key' (put key a entries) = if key = key' then some a else get? key' entries := by
  induction entries with
  | nil => rfl
  | cons e entries ih =>
    obtain ⟨k, b⟩ := e
    rw [put]
    split_ifs with hlt heq hkey <;> grind [get?]

theorem get?_append (key : String) (entries more : List (String × α)) :
    get? key (entries ++ more) = (get? key entries).or (get? key more) := by
  induction entries with
  | nil => rfl
  | cons e entries ih =>
    obtain ⟨k, a⟩ := e
    rw [List.cons_append, get?, get?]
    split_ifs
    · rfl
    · exact ih

/-- What entries give to a key: the last of its values. -/
def last? : List (String × α) → String → Option α
  | [], _ => none
  | (k, a) :: rest, key => (last? rest key).or (if k = key then some a else none)

theorem get?_putAll_eq (key : String) (base entries : List (String × α)) :
    get? key (putAll base entries) = (last? entries key).or (get? key base) := by
  induction entries generalizing base with
  | nil => rfl
  | cons e entries ih =>
    have hput : get? key (putAll base (e :: entries)) =
        (last? entries key).or (get? key (put e.1 e.2 base)) := ih _
    rw [hput, get?_put, last?, Option.or_assoc]
    split_ifs <;> rfl

theorem get?_ofList (key : String) (entries : List (String × α)) :
    get? key (ofList entries) = last? entries key :=
  (get?_putAll_eq key [] entries).trans Option.or_none

theorem last?_of_ascending {entries : List (String × α)} (h : Ascending entries) (key : String) :
    last? entries key = get? key entries := by
  rw [← get?_ofList, ofList_of_ascending h]

/-- Of two maps, the second one counts for the keys of both. -/
theorem get?_putAll (key : String) (base : List (String × α)) {entries : List (String × α)}
    (h : Ascending entries) : get? key (putAll base entries) = (get? key entries).or (get? key base) := by
  rw [get?_putAll_eq, last?_of_ascending h]

theorem mem_of_last? {key : String} {a : α} {entries : List (String × α)}
    (h : last? entries key = some a) : (key, a) ∈ entries := by
  induction entries with
  | nil => cases h
  | cons e entries ih =>
    rw [last?, Option.or_eq_some_iff] at h
    obtain h | ⟨-, h⟩ := h
    · exact List.mem_cons_of_mem _ (ih h)
    · split_ifs at h with hkey
      cases h
      exact hkey ▸ List.mem_cons_self

theorem last?_eq_some_iff {entries : List (String × α)} (h : (entries.map Prod.fst).Nodup)
    (key : String) (a : α) : last? entries key = some a ↔ (key, a) ∈ entries := by
  refine ⟨mem_of_last?, fun hmem => ?_⟩
  induction entries with
  | nil => cases hmem
  | cons e entries ih =>
    obtain ⟨hfirst, hrest⟩ := List.nodup_cons.mp h
    obtain rfl | hmem := List.mem_cons.mp hmem
    · have hnone : last? entries key = none :=
        Option.eq_none_iff_forall_ne_some.mpr fun b hb =>
          hfirst (List.mem_map.mpr ⟨_, mem_of_last? hb, rfl⟩)
      rw [last?, hnone, if_pos rfl, Option.none_or]
    · rw [last?, ih hrest hmem, Option.some_or]

theorem last?_perm {entries entries' : List (String × α)} (h : (entries.map Prod.fst).Nodup)
    (hperm : entries.Perm entries') : last? entries = last? entries' := by
  have h' := (hperm.map Prod.fst).nodup h
  funext key
  refine Option.ext fun a => ?_
  rw [last?_eq_some_iff h, last?_eq_some_iff h', hperm.mem_iff]

theorem nodup_of_ascending {entries : List (String × α)} (h : Ascending entries) :
    (entries.map Prod.fst).Nodup :=
  List.pairwise_map.mpr (h.imp String.ne_of_lt)

theorem get?_eq_some_iff {entries : List (String × α)} (h : Ascending entries) (key : String) (a : α) :
    get? key entries = some a ↔ (key, a) ∈ entries := by
  rw [← last?_of_ascending h, last?_eq_some_iff (nodup_of_ascending h)]

theorem mem_of_mem_ofList {entries : List (String × α)} {e : String × α} (h : e ∈ ofList entries) :
    e ∈ entries := by
  rw [← get?_eq_some_iff (ascending_ofList entries), get?_ofList] at h
  exact mem_of_last? h

/-- Equal maps are equal lists. -/
theorem eq_of_get?_eq {entries entries' : List (String × α)} (h : Ascending entries)
    (h' : Ascending entries') (hget : ∀ key, get? key entries = get? key entries') :
    entries = entries' := by
  have hmem (e : String × α) : e ∈ entries ↔ e ∈ entries' := by
    rw [← get?_eq_some_iff h, ← get?_eq_some_iff h', hget]
  have hperm : entries.Perm entries' :=
    (List.perm_ext_iff_of_nodup (nodup_of_ascending h).of_map (nodup_of_ascending h').of_map).mpr hmem
  exact hperm.eq_of_pairwise (fun a b _ _ hab hba => absurd hab (String.lt_asymm hba)) h h'

/-- The map of entries with different keys does not depend on their order. -/
theorem ofList_perm {entries entries' : List (String × α)} (h : (entries.map Prod.fst).Nodup)
    (hperm : entries.Perm entries') : ofList entries = ofList entries' := by
  refine eq_of_get?_eq (ascending_ofList _) (ascending_ofList _) fun key => ?_
  rw [get?_ofList, get?_ofList, last?_perm h hperm]

variable {β : Type} (f : α → β)

theorem put_map (key : String) (a : α) (entries : List (String × α)) :
    put key (f a) (entries.map fun e => (e.1, f e.2)) =
      (put key a entries).map fun e => (e.1, f e.2) := by
  induction entries with
  | nil => rfl
  | cons e entries ih =>
    simp only [List.map_cons, put, ih]
    split_ifs <;> rfl

theorem ofList_map (entries : List (String × α)) :
    ofList (entries.map fun e => (e.1, f e.2)) = (ofList entries).map fun e => (e.1, f e.2) := by
  suffices h : ∀ base, putAll (base.map fun e => (e.1, f e.2)) (entries.map fun e => (e.1, f e.2)) =
      (putAll base entries).map fun e => (e.1, f e.2) from h []
  induction entries with
  | nil => exact fun base => rfl
  | cons e entries ih =>
    intro base
    simp only [putAll, List.map_cons, List.foldl_cons] at ih ⊢
    rw [put_map, ih]

theorem nodup_keys_map {entries : List (String × α)} (h : (entries.map Prod.fst).Nodup) :
    ((entries.map fun e => (e.1, f e.2)).map Prod.fst).Nodup := by
  rwa [List.map_map]

theorem last?_map (entries : List (String × α)) (key : String) :
    last? (entries.map fun e => (e.1, f e.2)) key = (last? entries key).map f := by
  induction entries with
  | nil => rfl
  | cons e entries ih =>
    rw [List.map_cons, last?, last?, ih, Option.map_or]
    split_ifs <;> rfl

end Telemetry.Entries
