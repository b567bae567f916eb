import Mathlib.Data.String.Basic
import Telemetry.Log.Filter
import Telemetry.Proofs.Log.Directive

/-!
# Filters of plain directives

A filter keeps its directives in order, one for each target, and a later one takes the place of an earlier one
about the same. So a filter that is made from plain directives is known from the last directive about each
target, and the environment, the base and the named parts count in this order.
-/
namespace Telemetry.Log
namespace Directive

/-- A directive without brackets. -/
structure IsPlain (d : Directive) : Prop where
  span : d.span = none
  fields : d.fields = []

theorem isPlain_plain (t : Threshold) : (plain t).IsPlain := ⟨rfl, rfl⟩

theorem isPlain_ofTarget (target : String) (t : Threshold) : (ofTarget target t).IsPlain := ⟨rfl, rfl⟩

theorem Writes.isPlain {cs : List Char} {d : Directive} (h : Writes cs d) : d.IsPlain := by
  cases h with
  | plain h => exact isPlain_plain _
  | ofTarget hname h => exact isPlain_ofTarget _ _

/-- Longer targets come first, and the greater one of two that are equally long. What is about everything
comes last. -/
def Precedes : Option String → Option String → Prop
  | none, _ => False
  | some _, none => True
  | some s, some t => t.utf8ByteSize < s.utf8ByteSize ∨ s.utf8ByteSize = t.utf8ByteSize ∧ t < s

theorem precedes_irrefl (s : Option String) : ¬ Precedes s s := by
  cases s <;> simp [Precedes]

theorem precedes_trans {s t u : Option String} (h : Precedes s t) (h' : Precedes t u) : Precedes s u := by
  cases s <;> cases t <;> cases u <;> simp only [Precedes] at h h' ⊢
  obtain h | ⟨heq, h⟩ := h <;> obtain h' | ⟨heq', h'⟩ := h'
  · left
    omega
  · left
    omega
  · left
    omega
  · exact .inr ⟨heq.trans heq', h'.trans h⟩

theorem Precedes.ne {s t : Option String} (h : Precedes s t) : s ≠ t := by
  rintro rfl
  exact precedes_irrefl s h

theorem compare_rank (m n : Nat) : Ord.compare [m, 0, 0] [n, 0, 0] = Ord.compare m n := by
  change List.compareLex Ord.compare _ _ = _
  simp [List.compareLex_cons_cons, List.compareLex_nil_nil]

variable {d e : Directive}

/-- Plain directives are compared by their targets alone. -/
theorem compare_eq (hd : d.IsPlain) (he : e.IsPlain) : d.compare e =
    (Ord.compare (d.target.elim 0 (·.utf8ByteSize + 1)) (e.target.elim 0 (·.utf8ByteSize + 1))).then
      (Ord.compare (d.target.getD "") (e.target.getD "")) := by
  obtain ⟨target, span, fields, threshold⟩ := d
  obtain ⟨target', span', fields', threshold'⟩ := e
  obtain ⟨rfl, rfl⟩ := hd
  obtain ⟨rfl, rfl⟩ := he
  have hrank : Ord.compare (rank ⟨target, none, [], threshold⟩) (rank ⟨target', none, [], threshold'⟩) =
      Ord.compare (target.elim 0 (·.utf8ByteSize + 1)) (target'.elim 0 (·.utf8ByteSize + 1)) := by
    cases target <;> cases target' <;> exact compare_rank _ _
  simp [Directive.compare, hrank, Field.compareAll]

theorem compare_eq_eq_iff (hd : d.IsPlain) (he : e.IsPlain) : d.compare e = .eq ↔ d.target = e.target := by
  rw [compare_eq hd he, Ordering.then_eq_eq, compare_eq_iff_eq, compare_eq_iff_eq]
  cases d.target <;> cases e.target <;> simp
  rintro rfl
  rfl

theorem compare_eq_gt_iff (hd : d.IsPlain) (he : e.IsPlain) :
    d.compare e = .gt ↔ Precedes d.target e.target := by
  rw [compare_eq hd he, Ordering.then_eq_gt, compare_gt_iff_gt, compare_eq_iff_eq, compare_gt_iff_gt]
  cases d.target <;> cases e.target <;> simp [Precedes]

theorem compare_eq_lt_iff (hd : d.IsPlain) (he : e.IsPlain) :
    d.compare e = .lt ↔ Precedes e.target d.target := by
  rw [compare_eq hd he, Ordering.then_eq_lt, compare_lt_iff_lt, compare_eq_iff_eq, compare_lt_iff_lt,
    @eq_comm Nat]
  cases d.target <;> cases e.target <;> simp [Precedes]

/-- Plain directives in order, one at most for each target. -/
structure Arranged (ds : List Directive) : Prop where
  plain : ∀ d ∈ ds, d.IsPlain
  pairwise : ds.Pairwise fun d e => Precedes d.target e.target

theorem arranged_nil : Arranged [] := ⟨by simp, .nil⟩

theorem Arranged.of_cons {ds : List Directive} (h : Arranged (d :: ds)) : Arranged ds :=
  ⟨(List.forall_mem_cons.mp h.plain).2, (List.pairwise_cons.mp h.pairwise).2⟩

theorem Arranged.nodup {ds : List Directive} (h : Arranged ds) : (ds.map target).Nodup :=
  List.pairwise_map.mpr (h.pairwise.imp Precedes.ne)

/-- Directives in order are known from their members. -/
theorem Arranged.eq {ds ds' : List Directive} (h : Arranged ds) (h' : Arranged ds')
    (hmem : ∀ d, d ∈ ds ↔ d ∈ ds') : ds = ds' := by
  have hperm : ds.Perm ds' := (List.perm_ext_iff_of_nodup h.nodup.of_map h'.nodup.of_map).mpr hmem
  refine hperm.eq_of_pairwise (fun d e _ _ hde hed => ?_) h.pairwise h'.pairwise
  exact absurd (precedes_trans hde hed) (precedes_irrefl _)

/-- A directive stands between those that precede it and those that it precedes, in the place of the one about
the same. -/
theorem exists_put (hd : d.IsPlain) {ds : List Directive} (h : Arranged ds) : ∃ front same back : List Directive,
    ds = front ++ (same ++ back) ∧ d.put ds = front ++ d :: back ∧
      (∀ e ∈ front, Precedes e.target d.target) ∧ (∀ e ∈ same, e.target = d.target) ∧
      ∀ e ∈ back, Precedes d.target e.target := by
  induction ds with
  | nil => exact ⟨[], [], [], by simp [put]⟩
  | cons f rest ih =>
    have hf := h.plain f List.mem_cons_self
    obtain ⟨hbehind, -⟩ := List.pairwise_cons.mp h.pairwise
    cases hcompare : d.compare f with
    | eq =>
      have htarget := (compare_eq_eq_iff hd hf).mp hcompare
      rw [← htarget] at hbehind
      exact ⟨[], [f], rest, rfl, by simp [put, hcompare], by simp, by simp [htarget], hbehind⟩
    | gt =>
      have hfirst := (compare_eq_gt_iff hd hf).mp hcompare
      have hback : ∀ e ∈ f :: rest, Precedes d.target e.target :=
        List.forall_mem_cons.mpr ⟨hfirst, fun e he => precedes_trans hfirst (hbehind e he)⟩
      exact ⟨[], [], f :: rest, rfl, by simp [put, hcompare], by simp, by simp, hback⟩
    | lt =>
      have hfirst := (compare_eq_lt_iff hd hf).mp hcompare
      obtain ⟨front, same, back, rfl, hput, hfront, hsame, hback⟩ := ih h.of_cons
      exact ⟨f :: front, same, back, rfl, by simp [put, hcompare, hput],
        List.forall_mem_cons.mpr ⟨hfirst, hfront⟩, hsame, hback⟩

/-- All directives stay but for the one about the same. -/
theorem mem_put_iff (hd : d.IsPlain) {ds : List Directive} (h : Arranged ds) :
    e ∈ d.put ds ↔ e = d ∨ e ∈ ds ∧ e.target ≠ d.target := by
  obtain ⟨front, same, back, rfl, hput, hfront, hsame, hback⟩ := exists_put hd h
  simp only [hput, List.mem_append, List.mem_cons]
  constructor
  · rintro (he | rfl | he)
    · exact .inr ⟨.inl he, (hfront e he).ne⟩
    · exact .inl rfl
    · exact .inr ⟨.inr (.inr he), (hback e he).ne.symm⟩
  · rintro (rfl | ⟨he | he | he, hne⟩)
    · exact .inr (.inl rfl)
    · exact .inl he
    · exact absurd (hsame e he) hne
    · exact .inr (.inr he)

theorem Arranged.put (hd : d.IsPlain) {ds : List Directive} (h : Arranged ds) : Arranged (d.put ds) := by
  refine ⟨fun e he => ?_, ?_⟩
  · obtain rfl | ⟨he, -⟩ := (mem_put_iff hd h).mp he
    · exact hd
    · exact h.plain e he
  · obtain ⟨front, same, back, rfl, hput, hfront, -, hback⟩ := exists_put hd h
    obtain ⟨hordered, hrest, -⟩ := List.pairwise_append.mp h.pairwise
    obtain ⟨-, hbehind, -⟩ := List.pairwise_append.mp hrest
    rw [hput]
    refine List.pairwise_append.mpr ⟨hordered, List.pairwise_cons.mpr ⟨hback, hbehind⟩, fun e he e' he' => ?_⟩
    obtain rfl | he' := List.mem_cons.mp he'
    · exact hfront e he
    · exact precedes_trans (hfront e he) (hback e' he')

/-- Directives put in order, one after the other. -/
def arrange (ds : List Directive) : List Directive := ds.foldl (fun ds d => d.put ds) []

/-- The last directive about a target, or about everything. -/
def last? (ds : List Directive) (target : Option String) : Option Directive :=
  (ds.filter (·.target = target)).getLast?

theorem last?_append (ds es : List Directive) (target : Option String) :
    last? (ds ++ es) target = (last? es target).or (last? ds target) := by
  rw [last?, List.filter_append, List.getLast?_append]
  rfl

theorem last?_singleton (target : Option String) :
    last? [d] target = if d.target = target then some d else none := by
  rw [last?]
  split_ifs with h <;> simp [h]

theorem mem_of_last? {ds : List Directive} {target : Option String} (h : last? ds target = some d) : d ∈ ds :=
  List.mem_of_mem_filter (List.mem_of_getLast? h)

theorem arrange_append_singleton (ds : List Directive) (d : Directive) :
    arrange (ds ++ [d]) = d.put (arrange ds) := by
  rw [arrange, List.foldl_append]
  rfl

theorem arranged_arrange {ds : List Directive} (h : ∀ d ∈ ds, d.IsPlain) : Arranged (arrange ds) := by
  induction ds using List.reverseRecOn with
  | nil => exact arranged_nil
  | append_singleton ds d ih =>
    rw [arrange_append_singleton]
    exact .put (h d (by simp)) (ih fun e he => h e (by simp [he]))

/-- The last directive about each target counts. -/
theorem mem_arrange_iff {ds : List Directive} (h : ∀ d ∈ ds, d.IsPlain) :
    e ∈ arrange ds ↔ last? ds e.target = some e := by
  -- From the end, since the directive that is put in last is the one that counts.
  induction ds using List.reverseRecOn with
  | nil => simp [arrange, last?]
  | append_singleton ds d ih =>
    have hds : ∀ e ∈ ds, e.IsPlain := fun e he => h e (by simp [he])
    rw [arrange_append_singleton, mem_put_iff (h d (by simp)) (arranged_arrange hds), ih hds,
      last?_append, last?_singleton]
    by_cases htarget : d.target = e.target
    · simp [htarget, eq_comm]
    · have hne : e ≠ d := by
        rintro rfl
        exact htarget rfl
      simp [htarget, hne, Ne.symm htarget]

/-- Only the last directives count. -/
theorem arrange_congr {ds es : List Directive} (hds : ∀ d ∈ ds, d.IsPlain) (hes : ∀ e ∈ es, e.IsPlain)
    (h : ∀ target, last? ds target = last? es target) : arrange ds = arrange es := by
  refine (arranged_arrange hds).eq (arranged_arrange hes) fun d => ?_
  rw [mem_arrange_iff hds, mem_arrange_iff hes, h]

theorem IsPlain.eq_ofTarget (h : d.IsPlain) {target : String} (htarget : d.target = some target) :
    d = ofTarget target d.threshold := by
  obtain ⟨_, _, _, _⟩ := d
  obtain ⟨rfl, rfl⟩ := h
  obtain rfl := htarget
  rfl

end Directive

namespace Filter

open Directive

/-- A plain directive as it is written. -/
structure Written where
  text : List Char
  directive : Directive
  writes : Writes text directive

/-- The environment lists plain directives between commas. An empty text lists none, and so does none. -/
def Lists (environment : Option String) (given : List Written) : Prop :=
  (environment.getD "").toList = [','].intercalate (given.map Written.text)

theorem splitCommas_eq (cs : List Char) : splitCommas cs = cs.splitOn ',' := by
  induction cs with
  | nil => rfl
  | cons c cs ih =>
    rw [splitCommas, List.splitOn_cons_eq_if_modifyHead, ih]
    by_cases hc : c = ','
    · simp [hc]
    · rw [if_neg hc, if_neg (by simpa using hc)]
      cases hparts : cs.splitOn ',' with
      | nil => exact absurd hparts (List.splitOn_ne_nil _ _)
      | cons part parts => rfl

variable {environment : Option String} {given : List Written}

theorem isPlain_directive : ∀ d ∈ given.map Written.directive, d.IsPlain :=
  List.forall_mem_map.mpr fun w _ => w.writes.isPlain

/-- Each of the directives is read. -/
theorem readings_of_lists (h : Lists environment given) :
    readings environment = given.map fun w => (w.text, .ok w.directive) := by
  have hparts : (splitCommas (environment.getD "").toList).filter (!·.isEmpty) = given.map Written.text := by
    rw [splitCommas_eq, h]
    by_cases hnil : given = []
    · simp [hnil]
    · have hcommas : ∀ text ∈ given.map Written.text, ',' ∉ text :=
        List.forall_mem_map.mpr fun w _ => w.writes.comma_not_mem
      have hfull : ∀ text ∈ given.map Written.text, (!text.isEmpty) = true :=
        List.forall_mem_map.mpr fun w _ => by simpa using w.writes.ne_nil
      rw [List.splitOn_intercalate ',' hcommas (by simpa using hnil), List.filter_eq_self.mpr hfull]
  rw [readings, hparts, List.map_map]
  exact List.map_congr_left fun w _ => by rw [Function.comp_apply, w.writes.parse]

theorem readable_of_lists (h : Lists environment given) :
    isReadable environment = true ∧ complaints environment = [] := by
  constructor
  · simp [isReadable, readings_of_lists h, isCut]
  · rw [complaints, readings_of_lists h, List.filterMap_eq_nil_iff]
    intro r hr
    obtain ⟨w, -, rfl⟩ := List.mem_map.mp ((List.takeWhile_subset _) hr)
    rfl

theorem ofEnvironment_of_lists (h : Lists environment given) :
    ofEnvironment environment = ⟨arrange (given.map Written.directive), []⟩ := by
  have hvalid : valid environment = given.map Written.directive := by
    rw [valid, readings_of_lists h, List.filterMap_map, ← List.filterMap_eq_map]
    rfl
  have hnarrow : ∀ d ∈ given.map Written.directive, isNarrow d = false := by
    intro d hd
    obtain ⟨hspan, hfields⟩ := isPlain_directive d hd
    simp [isNarrow, hspan, hfields]
  have hwide : (given.map Written.directive).filter (!isNarrow ·) = given.map Written.directive :=
    List.filter_eq_self.mpr fun d hd => by simp [hnarrow d hd]
  have hnone : (given.map Written.directive).filter isNarrow = [] :=
    List.filter_eq_nil_iff.mpr fun d hd => by simp [hnarrow d hd]
  simp [ofEnvironment, hvalid, hwide, hnone, arrange]

theorem foldl_add {ds : List Directive} (h : ∀ d ∈ ds, d.IsPlain) (f : Filter) :
    ds.foldl (fun f d => f.add d) f = ⟨ds.foldl (fun ds d => d.put ds) f.directives, f.narrow⟩ := by
  induction ds generalizing f with
  | nil => rfl
  | cons d ds ih =>
    obtain ⟨⟨hspan, hfields⟩, hds⟩ := List.forall_mem_cons.mp h
    have hadd : f.add d = ⟨d.put f.directives, f.narrow⟩ := by
      simp [add, isStatic, hspan, hfields]
    rw [List.foldl_cons, ih hds, hadd, List.foldl_cons]

theorem directiveFor?_of_isName {part : String} (h : IsName part) (level : Level) :
    directiveFor? level part = some (.ofTarget part (some level)) := by
  rw [directiveFor?, (Writes.ofTarget h (Threshold.spells_text level)).parse]
  rfl

/-- The directives of a filter, those of the environment first. -/
def layers (given : List Written) (base : Level) (parts : List String) (level : Level) : List Directive :=
  given.map Written.directive ++ .plain (some base) :: parts.map (.ofTarget · (some level))

variable {parts : List String} (base level : Level)

theorem isPlain_layers : ∀ d ∈ layers given base parts level, d.IsPlain := by
  refine List.forall_mem_append.mpr ⟨isPlain_directive, List.forall_mem_cons.mpr ⟨isPlain_plain _, ?_⟩⟩
  exact List.forall_mem_map.mpr fun part _ => isPlain_ofTarget _ _

theorem new_of_lists (h : Lists environment given) (hparts : ∀ part ∈ parts, IsName part) :
    new environment base parts level = ⟨arrange (layers given base parts level), []⟩ := by
  have hnamed : parts.filterMap (directiveFor? level) = parts.map (.ofTarget · (some level)) := by
    rw [← List.filterMap_eq_map]
    exact List.filterMap_congr fun part hpart => directiveFor?_of_isName (hparts part hpart) level
  have hplain : ∀ d ∈ .plain (some base) :: parts.map (ofTarget · (some level)), d.IsPlain :=
    (List.forall_mem_append.mp (@isPlain_layers given parts base level)).2
  have hfold := foldl_add hplain ⟨arrange (given.map Written.directive), []⟩
  rw [List.foldl_cons] at hfold
  rw [new, hnamed, ofEnvironment_of_lists h, hfold, layers, arrange, arrange, List.foldl_append]

theorem last?_map_ofTarget (target : Option String) (t : Threshold) :
    last? (parts.map (.ofTarget · t)) target =
      (target.filter (· ∈ parts)).map (.ofTarget · t) := by
  induction parts using List.reverseRecOn with
  | nil => cases target <;> rfl
  | append_singleton parts part ih =>
    rw [List.map_append, last?_append, ih, List.map_singleton, last?_singleton]
    cases target with
    | none => rfl
    | some name =>
      by_cases hname : part = name <;> simp [ofTarget, hname, Option.filter, eq_comm]

/-- The base is the last directive about everything, and the level is the last one for each of the parts. -/
theorem last?_layers (target : Option String) : last? (layers given base parts level) target =
    match target with
    | none => some (.plain (some base))
    | some name =>
      if name ∈ parts then some (.ofTarget name (some level))
      else last? (given.map Written.directive) (some name) := by
  rw [layers, last?_append, ← List.singleton_append, last?_append, last?_singleton, last?_map_ofTarget]
  cases target with
  | none => rfl
  | some name =>
    by_cases hname : name ∈ parts <;> simp [hname, plain, Option.filter]

/-- A filter has the base for everything, the level for each of the named parts, and for another target the last
directive that the environment has about it. Neither the order of the parts counts nor how often they are named,
and nothing else of the environment does. -/
structure Overrides (environment : Option String) (given : List Written) (base : Level) (parts : List String)
    (level : Level) : Prop where
  readable : isReadable environment = true ∧ complaints environment = []
  narrow : (new environment base parts level).narrow = []
  nodup : ((new environment base parts level).directives.map target).Nodup
  descending : (new environment base parts level).directives.Pairwise fun d e => Precedes d.target e.target
  mem_iff : ∀ d, d ∈ (new environment base parts level).directives ↔
    d = .plain (some base) ∨ (∃ part ∈ parts, d = .ofTarget part (some level)) ∨
      ∃ name t, name ∉ parts ∧ d = .ofTarget name t ∧
        last? (given.map Written.directive) (some name) = some (.ofTarget name t)
  parts_congr : ∀ parts', (∀ part, part ∈ parts' ↔ part ∈ parts) →
    new environment base parts' level = new environment base parts level
  environment_congr : ∀ environment' given', Lists environment' given' →
    (∀ name, name ∉ parts → last? (given'.map Written.directive) (some name) =
      last? (given.map Written.directive) (some name)) →
    new environment' base parts level = new environment base parts level

theorem mem_arrange_layers_iff {d : Directive} : d ∈ arrange (layers given base parts level) ↔
    d = .plain (some base) ∨ (∃ part ∈ parts, d = .ofTarget part (some level)) ∨
      ∃ name t, name ∉ parts ∧ d = .ofTarget name t ∧
        last? (given.map Written.directive) (some name) = some (.ofTarget name t) := by
  rw [mem_arrange_iff (isPlain_layers base level), last?_layers]
  constructor
  · intro hlast
    cases htarget : d.target with
    | none =>
      rw [htarget] at hlast
      exact .inl (Option.some.inj hlast).symm
    | some name =>
      simp only [htarget] at hlast
      split_ifs at hlast with hname
      · exact .inr (.inl ⟨name, hname, (Option.some.inj hlast).symm⟩)
      · have hplain := isPlain_directive d (mem_of_last? hlast)
        have hd := hplain.eq_ofTarget htarget
        exact .inr (.inr ⟨name, d.threshold, hname, hd, hd ▸ hlast⟩)
  · rintro (rfl | ⟨part, hpart, rfl⟩ | ⟨name, t, hname, rfl, hlast⟩)
    · rfl
    · simp [ofTarget, hpart]
    · simpa [ofTarget, hname] using hlast

theorem overridesEnvironment (h : Lists environment given) (hparts : ∀ part ∈ parts, IsName part) :
    Overrides environment given base parts level := by
  have hnew := new_of_lists base level h hparts
  have harranged : Arranged (arrange (layers given base parts level)) :=
    arranged_arrange (isPlain_layers base level)
  refine { readable := readable_of_lists h, narrow := ?_, nodup := ?_, descending := ?_, mem_iff := ?_,
           parts_congr := ?_, environment_congr := ?_ }
  · rw [hnew]
  · rw [hnew]
    exact harranged.nodup
  · rw [hnew]
    exact harranged.pairwise
  · rw [hnew]
    exact fun d => mem_arrange_layers_iff base level
  · intro parts' hsame
    have hparts' : ∀ part ∈ parts', IsName part := fun part hpart => hparts part ((hsame part).mp hpart)
    have harrange : arrange (layers given base parts' level) = arrange (layers given base parts level) := by
      refine arrange_congr (isPlain_layers base level) (isPlain_layers base level) fun target => ?_
      simp only [last?_layers, hsame]
    rw [hnew, new_of_lists base level h hparts', harrange]
  · intro environment' given' h' hlast
    have harrange : arrange (layers given' base parts level) = arrange (layers given base parts level) := by
      refine arrange_congr (isPlain_layers base level) (isPlain_layers base level) fun target => ?_
      rw [last?_layers, last?_layers]
      cases target with
      | none => rfl
      | some name =>
        dsimp only
        split_ifs with hname
        · rfl
        · exact hlast name hname
    rw [hnew, new_of_lists base level h' hparts, harrange]

/-- An environment that says something twice about everything and about one target, and once about a part. -/
def sampleGiven : List Written :=
  [⟨"info".toList, .plain (some .info), .plain (.name rfl)⟩,
   ⟨"h2".toList ++ '=' :: "DEBUG".toList, .ofTarget "h2" (some .debug), .ofTarget (by decide) (.name rfl)⟩,
   ⟨"cli".toList ++ '=' :: "off".toList, .ofTarget "cli" none, .ofTarget (by decide) (.name rfl)⟩,
   ⟨"h2".toList ++ '=' :: "3".toList, .ofTarget "h2" (some .info),
     .ofTarget (by decide) (.number (by decide) (by simp) rfl)⟩,
   ⟨"warn".toList, .plain (some .warn), .plain (.name rfl)⟩]

theorem sample_overridesEnvironment : Lists (some "info,h2=DEBUG,cli=off,h2=3,warn") sampleGiven ∧
    (∀ part ∈ ["cli", "a_1", "cli"], IsName part) ∧
    Overrides (some "info,h2=DEBUG,cli=off,h2=3,warn") sampleGiven .error ["cli", "a_1", "cli"] .debug := by
  have hlists : Lists (some "info,h2=DEBUG,cli=off,h2=3,warn") sampleGiven := by
    rw [Lists]
    decide
  have hparts : ∀ part ∈ ["cli", "a_1", "cli"], IsName part := by decide
  exact ⟨hlists, hparts, overridesEnvironment .error .debug hlists hparts⟩

end Filter
end Telemetry.Log
