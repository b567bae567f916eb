import Telemetry.Proofs.Arguments

/-!
# Where options stand

A command line that gives each option at most once comes to the same whatever the order of its options,
whether they stand before the command or after it, and in which of its spellings each one is written. What an
option is given counts before what the environment gives.
-/
namespace Telemetry.Arguments

/-- An option in one of its spellings. -/
inductive Item where
  | value (o : ValueOption) (v : String) (attached : Bool)
  | verbose (short : Bool)
  | json

namespace Item

/-- A value stands behind an equals sign, or is an argument of its own. -/
def words : Item → List String
  | value o v true => [.ofList (o.word ++ '=' :: v.toList)]
  | value o v false => [.ofList o.word, v]
  | verbose true => ["-v"]
  | verbose false => ["--verbose"]
  | json => ["--json"]

/-- What may be given only once. -/
def name : Item → LongName
  | value o _ _ => .option o
  | verbose _ => .flag .verbose
  | json => .flag .json

/-- The value is not taken for an option. -/
def IsPlain : Item → Prop
  | value _ v false => v.toList.head? ≠ some '-'
  | _ => True

def StandsAt (place : Place) : Item → Prop
  | json => place = .stats
  | _ => True

def valueOf? (o : ValueOption) : Item → Option String
  | value o' v _ => if o' = o then some v else none
  | _ => none

def isFlag (f : Flag) (item : Item) : Bool := item.name = .flag f

end Item

/-- The value that items give to an option. -/
def given? (o : ValueOption) : List Item → Option String
  | [] => none
  | item :: rest => (given? o rest).or (item.valueOf? o)

/-- The options of a scan, with the last value looked at. -/
def Scan.finish (s : Scan) : Except Refusal Options := s.settle.map Scan.options

def Options.add (os : Options) : Item → Except Refusal Options
  | .value o v _ => os.set o v
  | .verbose _ =>
    if os.verbose then .error (.repeatedFlag .verbose) else .ok { os with verbose := true }
  | .json => if os.json then .error (.repeatedFlag .json) else .ok { os with json := true }

/-- A scan that an option or a command may follow. -/
structure Scan.IsReady (s : Scan) : Prop where
  trailing : s.trailing = false
  isAwaiting : s.isAwaiting = false

/-- What a reading of arguments comes to, once the last value is looked at. -/
def ComesTo (read : Except Refusal Scan) (result : Except Refusal Options) : Prop :=
  match read with
  | .error e => result = .error e
  | .ok s => s.IsReady ∧ s.finish = result

section Words

variable {place : Place} {s : Scan}

theorem splitEquals_of_not_mem {name : List Char} (h : '=' ∉ name) : splitEquals name = (name, none) := by
  have hdrop : name.dropWhile (· ≠ '=') = [] :=
    List.dropWhile_eq_nil_iff.mpr fun c hc => decide_eq_true fun heq => h (heq ▸ hc)
  rw [splitEquals, hdrop]

theorem splitEquals_append {name : List Char} (h : '=' ∉ name) (v : List Char) :
    splitEquals (name ++ '=' :: v) = (name, some v) := by
  have hname : ∀ c ∈ name, decide (c ≠ '=') = true := fun c hc =>
    decide_eq_true fun heq => h (heq ▸ hc)
  rw [splitEquals, List.dropWhile_append_of_pos hname, List.takeWhile_append_of_pos hname]
  simp

theorem argument_long {arg : String} {cs : List Char} (hs : s.trailing = false)
    (harg : arg.toList = '-' :: '-' :: cs) (hcs : cs ≠ []) :
    argument place arg s = long place (splitEquals cs).1 (splitEquals cs).2 s := by
  obtain ⟨c, cs, rfl⟩ := List.exists_cons_of_ne_nil hcs
  rw [argument, if_neg (by simp [hs]), harg]
  rfl

/-- The word of an option without its hyphens. -/
def ValueOption.name (o : ValueOption) : List Char := o.word.drop 2

theorem ValueOption.word_eq (o : ValueOption) : o.word = '-' :: '-' :: o.name := by cases o <;> rfl

theorem ValueOption.name_ne_nil (o : ValueOption) : o.name ≠ [] := by cases o <;> decide

theorem ValueOption.equals_not_mem_name (o : ValueOption) : '=' ∉ o.name :=
  fun h => o.equals_not_mem_word (List.mem_of_mem_drop h)

theorem longName_name (place : Place) (o : ValueOption) : longName place o.name = .option o := by
  cases o <;> rfl

theorem argument_word (hs : s.trailing = false) (o : ValueOption) : argument place (.ofList o.word) s =
    s.settle.map fun s => { s with pending := some (o, none) } := by
  rw [argument_long hs (String.toList_ofList.trans o.word_eq) o.name_ne_nil,
    splitEquals_of_not_mem o.equals_not_mem_name]
  simp only [long, longName_name]

theorem argument_behind (hs : s.trailing = false) (o : ValueOption) (v : String) :
    argument place (.ofList (o.word ++ '=' :: v.toList)) s = (do
      let s ← s.settle
      let options ← s.options.set o v
      return { s with options }) := by
  have harg : (String.ofList (o.word ++ '=' :: v.toList)).toList =
      '-' :: '-' :: (o.name ++ '=' :: v.toList) := by
    rw [String.toList_ofList, o.word_eq]
    rfl
  rw [argument_long hs harg (List.append_ne_nil_of_left_ne_nil o.name_ne_nil _),
    splitEquals_append o.equals_not_mem_name]
  simp only [long, longName_name, String.ofList_toList]

theorem argument_value {o : ValueOption} (hs : s.trailing = false) (hpending : s.pending = some (o, none))
    {v : String} (hv : v.toList.head? ≠ some '-') :
    argument place v s = .ok { s with pending := some (o, some v) } := by
  rw [argument, if_neg (by simp [hs])]
  split
  · next h => simp [h] at hv
  · next h => simp [h] at hv
  · next h => simp [h] at hv
  · simp only [hpending]

theorem argument_verbose (hs : s.trailing = false) : argument place "--verbose" s =
    s.flag place .verbose :=
  argument_long hs (show "--verbose".toList = '-' :: '-' :: "verbose".toList from rfl) (by decide)

theorem argument_v (hs : s.trailing = false) : argument place "-v" s = s.flag place .verbose := by
  rw [argument, if_neg (by simp [hs])]
  exact bind_pure (s.flag place .verbose)

theorem argument_json (hs : s.trailing = false) :
    argument .stats "--json" s = s.flag .stats .json :=
  argument_long hs (show "--json".toList = '-' :: '-' :: "json".toList from rfl) (by decide)

end Words

section Readings

variable {place : Place} {s settled : Scan}

theorem Scan.settle_ok (h : s.settle = .ok settled) :
    settled.pending = none ∧ settled.trailing = s.trailing := by
  unfold Scan.settle at h
  split at h
  · next hpending =>
    cases h
    exact ⟨hpending, rfl⟩
  · cases h
  · obtain ⟨options, -, rfl⟩ := exists_of_map_eq_ok h
    exact ⟨rfl, rfl⟩

theorem Scan.finish_of_pending (h : s.pending = none) : s.finish = .ok s.options := by
  rw [Scan.finish, Scan.settle, h]
  rfl

theorem Scan.finish_of_value {o : ValueOption} {v : String} (h : s.pending = some (o, some v)) :
    s.finish = s.options.set o v := by
  rw [Scan.finish, Scan.settle]
  simp only [h]
  cases s.options.set o v <;> rfl

theorem Scan.isReady_of_pending (hpending : s.pending = none) (htrailing : s.trailing = false) :
    s.IsReady :=
  ⟨htrailing, by rw [isAwaiting, hpending]⟩

/-- What a reading that settles the scan first comes to, from what it does after that. -/
theorem comesTo_bind_settle {next : Scan → Except Refusal Scan} {add : Options → Except Refusal Options}
    (hs : s.IsReady)
    (h : ∀ settled : Scan, settled.pending = none → settled.trailing = false →
      ComesTo (next settled) (add settled.options)) :
    ComesTo (s.settle >>= next) (s.finish >>= add) := by
  rw [Scan.finish]
  cases hsettle : s.settle with
  | error e => rfl
  | ok settled =>
    obtain ⟨hpending, htrailing⟩ := Scan.settle_ok hsettle
    exact h settled hpending (htrailing.trans hs.trailing)

theorem comesTo_flag (hs : s.IsReady) {item : Item} {f : Flag} (h : item.name = .flag f) :
    ComesTo (s.flag place f) (s.finish >>= fun os => os.add item) := by
  cases item with
  | value o v attached => cases h
  | _ =>
    cases h
    refine comesTo_bind_settle hs fun settled hpending htrailing => ?_
    dsimp only [Options.add]
    split_ifs
    · rfl
    · exact ⟨Scan.isReady_of_pending hpending htrailing, Scan.finish_of_pending hpending⟩

theorem comesTo_behind (hs : s.IsReady) (o : ValueOption) (v : String) :
    ComesTo (argument place (.ofList (o.word ++ '=' :: v.toList)) s)
      (s.finish >>= fun os => os.set o v) := by
  rw [argument_behind hs.trailing]
  refine comesTo_bind_settle hs fun settled hpending htrailing => ?_
  cases hset : settled.options.set o v with
  | error e => rfl
  | ok options => exact ⟨Scan.isReady_of_pending hpending htrailing, Scan.finish_of_pending hpending⟩

/-- A value that is an argument of its own is looked at later. -/
theorem comesTo_word (hs : s.IsReady) (o : ValueOption) {v : String} (hv : v.toList.head? ≠ some '-') :
    ComesTo (argument place (.ofList o.word) s >>= argument place v)
      (s.finish >>= fun os => os.set o v) := by
  have hread : argument place (.ofList o.word) s >>= argument place v = s.settle >>= fun s =>
      argument place v { s with pending := some (o, none) } := by
    rw [argument_word hs.trailing]
    cases s.settle <;> rfl
  rw [hread]
  refine comesTo_bind_settle hs fun settled hpending htrailing => ?_
  have hvalue : argument place v { settled with pending := some (o, none) } =
      .ok { settled with pending := some (o, some v) } :=
    argument_value (s := { settled with pending := some (o, none) }) htrailing rfl hv
  rw [hvalue]
  exact ⟨⟨htrailing, rfl⟩, Scan.finish_of_value rfl⟩

/-- One option, in any spelling, adds what it says to the options. -/
theorem comesTo_words (hs : s.IsReady) {item : Item} (hplain : item.IsPlain)
    (hplace : item.StandsAt place) :
    ComesTo (item.words.foldlM (fun s arg => argument place arg s) s)
      (s.finish >>= fun os => os.add item) := by
  cases item with
  | value o v attached =>
    cases attached with
    | true =>
      simp only [Item.words, List.foldlM_cons, List.foldlM_nil, bind_pure]
      exact comesTo_behind hs o v
    | false =>
      simp only [Item.words, List.foldlM_cons, List.foldlM_nil, bind_pure]
      exact comesTo_word hs o hplain
  | verbose short =>
    cases short with
    | true =>
      simp only [Item.words, List.foldlM_cons, List.foldlM_nil, bind_pure, argument_v hs.trailing]
      exact comesTo_flag hs rfl
    | false =>
      simp only [Item.words, List.foldlM_cons, List.foldlM_nil, bind_pure,
        argument_verbose hs.trailing]
      exact comesTo_flag hs rfl
  | json =>
    obtain rfl : place = .stats := hplace
    simp only [Item.words, List.foldlM_cons, List.foldlM_nil, bind_pure, argument_json hs.trailing]
    exact comesTo_flag hs rfl

/-- Options one after the other. -/
theorem comesTo_items (hs : s.IsReady) {items : List Item} (hplain : ∀ item ∈ items, item.IsPlain)
    (hplace : ∀ item ∈ items, item.StandsAt place) :
    ComesTo ((items.flatMap Item.words).foldlM (fun s arg => argument place arg s) s)
      (s.finish >>= fun os => items.foldlM Options.add os) := by
  induction items generalizing s with
  | nil => exact ⟨hs, (bind_pure s.finish).symm⟩
  | cons item items ih =>
    have hone := comesTo_words hs (hplain item List.mem_cons_self) (hplace item List.mem_cons_self)
    rw [List.flatMap_cons, List.foldlM_append]
    simp only [List.foldlM_cons, ← bind_assoc]
    -- The first item leaves the scan ready for the others.
    cases hread : item.words.foldlM (fun s arg => argument place arg s) s with
    | error e =>
      rw [hread] at hone
      rw [show s.finish >>= (fun os => os.add item) = .error e from hone]
      rfl
    | ok next =>
      rw [hread] at hone
      have hrest := ih hone.1 (fun item h => hplain item (List.mem_cons_of_mem _ h))
        fun item h => hplace item (List.mem_cons_of_mem _ h)
      rwa [hone.2] at hrest

theorem finish_of_comesTo {read : Except Refusal Scan} {result : Except Refusal Options}
    (h : ComesTo read result) : read >>= Scan.finish = result := by
  cases read with
  | error e => exact h.symm
  | ok s => exact h.2

end Readings

section Sections

variable {s : Scan}

theorem optionsAfter_items {place : Place} {items : List Item} (hplain : ∀ item ∈ items, item.IsPlain)
    (hplace : ∀ item ∈ items, item.StandsAt place) :
    optionsAfter place (items.flatMap Item.words) = items.foldlM Options.add .empty := by
  have hready : Scan.start.IsReady := ⟨rfl, rfl⟩
  exact finish_of_comesTo (comesTo_items hready hplain hplace)

/-- The value of an option and an argument that begins with a hyphen are no commands. -/
theorem sections_argument {arg : String} (h : s.isAwaiting = true ∨ arg.toList.head? = some '-')
    (rest : List String) :
    sections s (arg :: rest) = argument .top arg s >>= fun s => sections s rest := by
  rw [sections]
  obtain hawaiting | hhyphen := h
  · simp [hawaiting]
  · have hhelp : arg ≠ "help" := fun heq => by simp [heq] at hhyphen
    have hcommand : commandPlace? arg = none := by
      rw [commandPlace?, if_neg fun heq => by simp [heq] at hhyphen,
        if_neg fun heq => by simp [heq] at hhyphen]
    simp [hhelp, hcommand]

theorem sections_words (hs : s.IsReady) (item : Item) (rest : List String) :
    sections s (item.words ++ rest) =
      item.words.foldlM (fun s arg => argument .top arg s) s >>= fun s => sections s rest := by
  cases item with
  | value o v attached =>
    have hhyphen (cs : List Char) : (String.ofList (o.word ++ cs)).toList.head? = some '-' := by
      rw [String.toList_ofList, o.word_eq]
      rfl
    cases attached with
    | true =>
      simp only [Item.words, List.foldlM_cons, List.foldlM_nil, bind_pure]
      exact sections_argument (.inr (hhyphen _)) rest
    | false =>
      simp only [Item.words, List.foldlM_cons, List.foldlM_nil, bind_pure]
      have hword : (String.ofList o.word).toList.head? = some '-' := o.word.append_nil ▸ hhyphen []
      -- The value is read by a scan that waits for it, so it may be the word of a command.
      refine (sections_argument (.inr hword) (v :: rest)).trans ?_
      rw [argument_word hs.trailing]
      cases s.settle with
      | error e => rfl
      | ok settled => exact sections_argument (.inl rfl) rest
  | verbose short =>
    cases short <;>
      (simp only [Item.words, List.foldlM_cons, List.foldlM_nil, bind_pure]
       exact sections_argument (.inr rfl) rest)
  | json =>
    simp only [Item.words, List.foldlM_cons, List.foldlM_nil, bind_pure]
    exact sections_argument (.inr rfl) rest

/-- Options before a command are read one after the other. -/
theorem sections_items (hs : s.IsReady) {items : List Item} (hplain : ∀ item ∈ items, item.IsPlain)
    (hplace : ∀ item ∈ items, item.StandsAt .top) (rest : List String) :
    sections s (items.flatMap Item.words ++ rest) =
      (items.flatMap Item.words).foldlM (fun s arg => argument .top arg s) s >>= fun s =>
        sections s rest := by
  induction items generalizing s with
  | nil => rfl
  | cons item items ih =>
    have hone := comesTo_words hs (hplain item List.mem_cons_self) (hplace item List.mem_cons_self)
    rw [List.flatMap_cons, List.append_assoc, sections_words hs, List.foldlM_append, bind_assoc]
    cases hread : item.words.foldlM (fun s arg => argument .top arg s) s with
    | error e => rfl
    | ok next =>
      rw [hread] at hone
      exact ih hone.1 (fun item h => hplain item (List.mem_cons_of_mem _ h))
        fun item h => hplace item (List.mem_cons_of_mem _ h)

end Sections

section Given

variable {o : ValueOption} {items : List Item} {v : String}

theorem given?_append (o : ValueOption) (items items' : List Item) :
    given? o (items ++ items') = (given? o items').or (given? o items) := by
  induction items with
  | nil => rw [List.nil_append, given?, Option.or_none]
  | cons item items ih => rw [List.cons_append, given?, given?, ih, Option.or_assoc]

theorem Item.valueOf?_eq_some_iff {item : Item} :
    item.valueOf? o = some v ↔ ∃ attached, item = .value o v attached := by
  cases item with
  | value o' v' attached =>
    constructor
    · intro h
      dsimp only [Item.valueOf?] at h
      split_ifs at h with heq
      cases h
      exact ⟨attached, heq ▸ rfl⟩
    · rintro ⟨attached, h⟩
      cases h
      exact if_pos rfl
  | verbose short => simp [Item.valueOf?]
  | json => simp [Item.valueOf?]

/-- What gives an option a value is there by its name. -/
theorem mem_of_given? (h : given? o items = some v) : ∃ attached, .value o v attached ∈ items := by
  induction items with
  | nil => cases h
  | cons item items ih =>
    obtain hrest | ⟨-, hitem⟩ := Option.or_eq_some_iff.mp h
    · obtain ⟨attached, hmem⟩ := ih hrest
      exact ⟨attached, List.mem_cons_of_mem _ hmem⟩
    · obtain ⟨attached, rfl⟩ := Item.valueOf?_eq_some_iff.mp hitem
      exact ⟨attached, List.mem_cons_self⟩

theorem given?_eq_none (h : .option o ∉ items.map Item.name) : given? o items = none := by
  refine Option.eq_none_iff_forall_ne_some.mpr fun v hv => ?_
  obtain ⟨attached, hmem⟩ := mem_of_given? hv
  exact h (List.mem_map_of_mem hmem)

/-- If nothing is given twice, order does not matter. -/
theorem given?_of_mem (hnodup : (items.map Item.name).Nodup) {attached : Bool}
    (hmem : .value o v attached ∈ items) : given? o items = some v := by
  induction items with
  | nil => cases hmem
  | cons item items ih =>
    obtain ⟨hfresh, hrest⟩ := List.nodup_cons.mp hnodup
    obtain rfl | hmem := List.mem_cons.mp hmem
    · rw [given?, given?_eq_none hfresh, Item.valueOf?, if_pos rfl, Option.none_or]
    · rw [given?, ih hrest hmem, Option.some_or]

theorem given?_eq_none_or {items' : List Item} (h : ((items ++ items').map Item.name).Nodup)
    (o : ValueOption) : given? o items = none ∨ given? o items' = none := by
  rw [List.map_append] at h
  by_cases hmem : .option o ∈ items.map Item.name
  · exact .inr (given?_eq_none (List.disjoint_of_nodup_append h hmem))
  · exact .inl (given?_eq_none hmem)

theorem any_isFlag_verbose :
    items.any (Item.isFlag .verbose) = true ↔ ∃ short, .verbose short ∈ items := by
  rw [List.any_eq_true]
  constructor
  · rintro ⟨item, hmem, hflag⟩
    cases item with
    | verbose short => exact ⟨short, hmem⟩
    | _ => simp [Item.isFlag, Item.name] at hflag
  · rintro ⟨short, hmem⟩
    exact ⟨_, hmem, rfl⟩

theorem any_isFlag_json : items.any (Item.isFlag .json) = true ↔ .json ∈ items := by
  rw [List.any_eq_true]
  constructor
  · rintro ⟨item, hmem, hflag⟩
    cases item with
    | json => exact hmem
    | _ => simp [Item.isFlag, Item.name] at hflag
  · exact fun hmem => ⟨_, hmem, rfl⟩

/-- The port that items give. -/
def port? (items : List Item) : Except Refusal (Option UInt16) :=
  match given? .port items with
  | none => .ok none
  | some v =>
    match readPort v with
    | .ok p => .ok (some p)
    | .error e => .error (.invalidPort v e)

theorem port?_of_none (h : given? .port items = none) : port? items = .ok none := by rw [port?, h]

theorem port?_eq_ok_iff {p : UInt16} :
    port? items = .ok (some p) ↔ ∃ v, given? .port items = some v ∧ readPort v = .ok p := by
  rw [port?]
  cases given? .port items with
  | none => simp
  | some v => cases hport : readPort v <;> simp [hport]

/-- If only one of two lists gives the port, it does not matter where. -/
theorem port?_append (items items' : List Item)
    (h : given? .port items = none ∨ given? .port items' = none) :
    port? (items ++ items') = do
      let port ← port? items
      let port' ← port? items'
      return port'.or port := by
  obtain h | h := h
  · have hgiven : given? .port (items ++ items') = given? .port items' := by
      rw [given?_append, h, Option.or_none]
    rw [port?_of_none h, port?, port?, hgiven]
    cases given? .port items' with
    | none => rfl
    | some v => cases hport : readPort v <;> simp [hport] <;> rfl
  · have hgiven : given? .port (items ++ items') = given? .port items := by
      rw [given?_append, h, Option.none_or]
    rw [port?_of_none h, port?, port?, hgiven]
    cases given? .port items with
    | none => rfl
    | some v => cases hport : readPort v <;> simp [hport] <;> rfl

/-- Options with what items say. -/
def Options.with (os : Options) (items : List Item) (port : Option UInt16) : Options where
  target := (given? .target items).or os.target
  port := port.or os.port
  token := (given? .token items).or os.token
  verbose := items.any (Item.isFlag .verbose) || os.verbose
  json := items.any (Item.isFlag .json) || os.json

/-- What may be given only once is not there. -/
def Options.IsFree (os : Options) : LongName → Prop
  | .option o => os.has o = false
  | .flag .verbose => os.verbose = false
  | .flag .json => os.json = false
  | _ => True

theorem Options.add_eq {os : Options} {item : Item} (h : os.IsFree item.name) :
    os.add item = (port? [item]).map (os.with [item]) := by
  obtain ⟨target, port, token, verbose, json⟩ := os
  cases item with
  | value o v attached =>
    have hhas : ¬ (Options.has ⟨target, port, token, verbose, json⟩ o = true) := Bool.eq_false_iff.mp h
    rw [Options.add, Options.set.eq_def, if_neg hhas]
    cases o with
    | target => rfl
    | token => rfl
    | port =>
      have hport : port? [.value .port v attached] = match readPort v with
        | .ok p => .ok (some p)
        | .error e => .error (.invalidPort v e) := rfl
      rw [hport]
      cases readPort v <;> rfl
  | verbose short =>
    obtain rfl : verbose = false := h
    rfl
  | json =>
    obtain rfl : json = false := h
    cases verbose <;> rfl

theorem Options.with_with (os : Options) (items items' : List Item) (port port' : Option UInt16) :
    (os.with items port).with items' port' = os.with (items ++ items') (port'.or port) := by
  simp only [Options.with, given?_append, Option.or_assoc, List.any_append,
    Bool.or_left_comm, Bool.or_assoc]

theorem Options.IsFree.with {os : Options} {name : LongName} {port : Option UInt16}
    (h : os.IsFree name) (hname : name ∉ items.map Item.name) (hport : port? items = .ok port) :
    (os.with items port).IsFree name := by
  cases name with
  | option o =>
    have hgiven := given?_eq_none hname
    cases o with
    | target => simpa [Options.IsFree, Options.has, Options.with, hgiven] using h
    | token => simpa [Options.IsFree, Options.has, Options.with, hgiven] using h
    | port =>
      rw [port?_of_none hgiven] at hport
      cases hport
      exact h
  | flag f =>
    have hnone : items.any (Item.isFlag f) = false := List.any_eq_false.mpr fun item hmem h =>
      hname (of_decide_eq_true h ▸ List.mem_map_of_mem hmem)
    cases f with
    | verbose => exact Bool.or_eq_false_iff.mpr ⟨hnone, h⟩
    | json => exact Bool.or_eq_false_iff.mpr ⟨hnone, h⟩
    | help => trivial
    | version => trivial
  | unknown => trivial

theorem Options.isFree_empty (name : LongName) : Options.empty.IsFree name := by
  cases name with
  | option o => cases o <;> rfl
  | flag f => cases f <;> trivial
  | unknown => trivial

/-- Options that are given at most once are gathered one after the other. -/
theorem foldlM_add {os : Options} (hnodup : (items.map Item.name).Nodup)
    (hfree : ∀ item ∈ items, os.IsFree item.name) :
    items.foldlM Options.add os = (port? items).map (os.with items) := by
  induction items generalizing os with
  | nil => rfl
  | cons item items ih =>
    obtain ⟨hfresh, hrest⟩ := List.nodup_cons.mp hnodup
    have hports : port? (item :: items) = (do
        let port ← port? [item]
        let port' ← port? items
        return port'.or port) :=
      port?_append [item] items (given?_eq_none_or hnodup .port)
    rw [List.foldlM_cons, Options.add_eq (hfree item List.mem_cons_self), hports]
    cases hone : port? [item] with
    | error e => rfl
    | ok port =>
      have hnext : items.foldlM Options.add (os.with [item] port) =
          (port? items).map ((os.with [item] port).with items) :=
        ih hrest fun item' h => (hfree item' (List.mem_cons_of_mem _ h)).with
          (fun hmem => hfresh (List.mem_singleton.mp hmem ▸ List.mem_map_of_mem h)) hone
      refine hnext.trans ?_
      cases port? items with
      | error e => rfl
      | ok port' => exact congrArg Except.ok (os.with_with [item] items port port')

end Given

def commandWord : Command → String
  | .ack => "ack"
  | .stats _ => "stats"

def placeOf : Command → Place
  | .ack => .ack
  | .stats _ => .stats

/-- A command with the options before it and the options after it. -/
structure Line where
  command : Command
  before : List Item
  after : List Item

namespace Line

def words (l : Line) : List String :=
  l.before.flatMap Item.words ++ commandWord l.command :: l.after.flatMap Item.words

def items (l : Line) : List Item := l.before ++ l.after

def Gives (l : Line) (o : ValueOption) (v : String) : Prop :=
  ∃ attached, .value o v attached ∈ l.items

def IsVerbose (l : Line) : Prop := ∃ short, .verbose short ∈ l.items

/-- Nothing is given twice, and JSON is asked for where it may be. -/
structure WellFormed (l : Line) : Prop where
  plain : ∀ item ∈ l.items, item.IsPlain
  once : (l.items.map Item.name).Nodup
  json_before : .json ∉ l.before
  json_after : .json ∈ l.after ↔ l.command = .stats true

/-- The arguments that a line and an environment make up. -/
def arguments (env : Environment) (l : Line) (port : Option UInt16) : Arguments where
  command := l.command
  target := (given? .target l.items).or env.target?
  port := port
  token := (given? .token l.items).or env.token?
  verbose := l.items.any (Item.isFlag .verbose)

variable {l : Line}

theorem WellFormed.standsAt_top (hl : l.WellFormed) : ∀ item ∈ l.before, item.StandsAt .top := by
  rintro (_ | _ | _) hmem
  · trivial
  · trivial
  · exact absurd hmem hl.json_before

theorem WellFormed.standsAt_command (hl : l.WellFormed) :
    ∀ item ∈ l.after, item.StandsAt (placeOf l.command) := by
  rintro (_ | _ | _) hmem
  · trivial
  · trivial
  · rw [hl.json_after.mp hmem]
    rfl

theorem WellFormed.plain_before (hl : l.WellFormed) : ∀ item ∈ l.before, item.IsPlain :=
  fun item h => hl.plain item (List.mem_append_left _ h)

theorem WellFormed.plain_after (hl : l.WellFormed) : ∀ item ∈ l.after, item.IsPlain :=
  fun item h => hl.plain item (List.mem_append_right _ h)

theorem WellFormed.once_before (hl : l.WellFormed) : (l.before.map Item.name).Nodup :=
  (List.map_append ▸ hl.once).of_append_left

theorem WellFormed.once_after (hl : l.WellFormed) : (l.after.map Item.name).Nodup :=
  (List.map_append ▸ hl.once).of_append_right

theorem sections_command {s : Scan} (hs : s.IsReady) (command : Command) (rest : List String) :
    sections s (commandWord command :: rest) = do
      let after ← optionsAfter (placeOf command) rest
      let before ← s.finish
      return (before, some (placeOf command, after)) := by
  have hhelp : commandWord command ≠ "help" := by
    cases command <;> exact of_decide_eq_true rfl
  have hplace : commandPlace? (commandWord command) = some (placeOf command) := by
    cases command <;> rfl
  rw [sections]
  simp only [hs.trailing, hs.isAwaiting, hhelp, hplace, Scan.finish, decide_false,
    Bool.and_false, Bool.or_false, Bool.false_eq_true, if_false]
  cases optionsAfter (placeOf command) rest with
  | error e => rfl
  | ok after => cases s.settle <;> rfl

/-- The two sides of a command are read on their own. -/
theorem sections_line (hl : l.WellFormed) :
    sections .start l.words = do
      let before ← (port? l.before).map (Options.empty.with l.before)
      let after ← (port? l.after).map (Options.empty.with l.after)
      return (before, some (placeOf l.command, after)) := by
  have hready : Scan.start.IsReady := ⟨rfl, rfl⟩
  have hadd {items : List Item} (h : (items.map Item.name).Nodup) :
      items.foldlM Options.add .empty = (port? items).map (Options.empty.with items) :=
    foldlM_add h fun item _ => Options.isFree_empty item.name
  have hafter : optionsAfter (placeOf l.command) (l.after.flatMap Item.words) =
      (port? l.after).map (Options.empty.with l.after) :=
    (optionsAfter_items hl.plain_after hl.standsAt_command).trans (hadd hl.once_after)
  have hbefore : ComesTo _ _ := comesTo_items hready hl.plain_before hl.standsAt_top
  rw [words, sections_items hready hl.plain_before hl.standsAt_top, ← hadd hl.once_before]
  cases hread : (l.before.flatMap Item.words).foldlM (fun s arg => argument .top arg s) .start with
  | error e =>
    rw [hread] at hbefore
    rw [show l.before.foldlM Options.add .empty = .error e from hbefore]
    rfl
  | ok s =>
    rw [hread] at hbefore
    refine (sections_command hbefore.1 l.command _).trans ?_
    rw [hafter, show s.finish = l.before.foldlM Options.add .empty from hbefore.2,
      hadd hl.once_before]
    -- The options after the command are gathered first, but only one side can give a wrong port.
    obtain hnone | hnone := given?_eq_none_or hl.once .port
    · rw [port?_of_none hnone]
      cases port? l.after <;> rfl
    · rw [port?_of_none hnone]
      cases port? l.before <;> rfl

theorem WellFormed.command_eq (hl : l.WellFormed) (port : Option UInt16) :
    commandOf (placeOf l.command) (Options.empty.with l.after port) = l.command := by
  have hjson : l.after.any (Item.isFlag .json) = true ↔ l.command = .stats true :=
    any_isFlag_json.trans hl.json_after
  cases hcommand : l.command with
  | ack => rfl
  | stats json =>
    have heq : l.after.any (Item.isFlag .json) = json :=
      Bool.eq_iff_iff.mpr (hjson.trans (by rw [hcommand, Command.stats.injEq]))
    rw [placeOf, commandOf, Options.with, heq]
    exact congrArg Command.stats (Bool.or_false json)

theorem parse_words (hl : l.WellFormed) (env : Environment) :
    parse env l.words = (port? l.items).map (l.arguments env) := by
  rw [parse, sections_line hl, items, port?_append l.before l.after (given?_eq_none_or hl.once .port)]
  cases port? l.before with
  | error e => rfl
  | ok port =>
    cases port? l.after with
    | error e => rfl
    | ok port' =>
      refine congrArg Except.ok ?_
      rw [arguments, items, given?_append, given?_append, List.any_append, Bool.or_comm,
        hl.command_eq]
      simp only [Options.with, Options.empty, Option.or_none, Bool.or_false]

/-- What a line says, with what it does not say as the environment has it. -/
structure Gathers (env : Environment) (l : Line) (a : Arguments) : Prop where
  command : a.command = l.command
  target (v : String) : a.target = some v ↔
    l.Gives .target v ∨ (∀ v', ¬ l.Gives .target v') ∧ env.target? = some v
  port (p : UInt16) : a.port = some p ↔ ∃ v, l.Gives .port v ∧ readPort v = .ok p
  token (v : String) : a.token = some v ↔
    l.Gives .token v ∨ (∀ v', ¬ l.Gives .token v') ∧ env.token? = some v
  verbose : a.verbose = true ↔ l.IsVerbose

/-- What a line comes to does not depend on where its options stand and how they are written. -/
structure StandsAnywhere (env : Environment) (l : Line) : Prop where
  understood : (∀ v, l.Gives .port v → ∃ p, readPort v = .ok p) →
    ∃ a, parse env l.words = .ok a ∧ l.Gathers env a
  refused (v : String) (e : PortFault) : l.Gives .port v → readPort v = .error e →
    parse env l.words = .error (.invalidPort v e)
  same (l' : Line) : l'.WellFormed → l'.command = l.command →
    (∀ o v, l'.Gives o v ↔ l.Gives o v) → (l'.IsVerbose ↔ l.IsVerbose) →
    parse env l'.words = parse env l.words

theorem WellFormed.given?_eq_some_iff (hl : l.WellFormed) {o : ValueOption} {v : String} :
    given? o l.items = some v ↔ l.Gives o v :=
  ⟨mem_of_given?, fun ⟨_, h⟩ => given?_of_mem hl.once h⟩

theorem WellFormed.given?_eq_none_iff (hl : l.WellFormed) {o : ValueOption} :
    given? o l.items = none ↔ ∀ v, ¬ l.Gives o v := by
  simp only [← hl.given?_eq_some_iff, Option.eq_none_iff_forall_ne_some, ne_eq]

/-- What a line gives counts before what the environment gives. -/
theorem WellFormed.or_eq_some_iff (hl : l.WellFormed) {o : ValueOption} {fallback : Option String}
    {v : String} : (given? o l.items).or fallback = some v ↔
      l.Gives o v ∨ (∀ v', ¬ l.Gives o v') ∧ fallback = some v := by
  rw [Option.or_eq_some_iff, hl.given?_eq_some_iff, hl.given?_eq_none_iff]

theorem WellFormed.gathers (hl : l.WellFormed) {env : Environment} {port : Option UInt16}
    (h : port? l.items = .ok port) : l.Gathers env (l.arguments env port) where
  command := rfl
  target _ := hl.or_eq_some_iff
  port p := by
    have hport : port = some p ↔ port? l.items = .ok (some p) := by rw [h, Except.ok.injEq]
    simp only [arguments, hport, port?_eq_ok_iff, hl.given?_eq_some_iff]
  token _ := hl.or_eq_some_iff
  verbose := any_isFlag_verbose

theorem standsAnywhere (hl : l.WellFormed) (env : Environment) : l.StandsAnywhere env where
  understood h := by
    have hport : ∃ port, port? l.items = .ok port := by
      cases hgiven : given? .port l.items with
      | none => exact ⟨none, port?_of_none hgiven⟩
      | some v =>
        obtain ⟨p, hp⟩ := h v (hl.given?_eq_some_iff.mp hgiven)
        exact ⟨some p, port?_eq_ok_iff.mpr ⟨v, hgiven, hp⟩⟩
    obtain ⟨port, hport⟩ := hport
    exact ⟨_, by rw [parse_words hl, hport]; rfl, hl.gathers hport⟩
  refused v e hgives hport := by
    rw [parse_words hl, port?, hl.given?_eq_some_iff.mpr hgives]
    simp only [hport]
    rfl
  same l' hl' hcommand hgives hverbose := by
    have hgiven (o : ValueOption) : given? o l'.items = given? o l.items := Option.ext fun v => by
      rw [hl'.given?_eq_some_iff, hl.given?_eq_some_iff, hgives]
    have hflag : l'.items.any (Item.isFlag .verbose) = l.items.any (Item.isFlag .verbose) :=
      Bool.eq_iff_iff.mpr (any_isFlag_verbose.trans (hverbose.trans any_isFlag_verbose.symm))
    have hport : port? l'.items = port? l.items := by rw [port?, port?, hgiven]
    have hline : l'.arguments env = l.arguments env := funext fun port => by
      rw [arguments, arguments, hcommand, hgiven, hgiven, hflag]
    rw [parse_words hl', parse_words hl, hport, hline]

def scattered : Line :=
  ⟨.stats true, [.value .target "stats=help" true, .verbose true], [.value .port "4000" false, .json]⟩

def gathered : Line :=
  ⟨.stats true, [], [.json, .verbose false, .value .port "4000" true, .value .target "stats=help" false]⟩

theorem wellFormed_scattered : scattered.WellFormed where
  plain := by simp [scattered, items, Item.IsPlain]
  once := by decide
  json_before := by simp [scattered]
  json_after := by simp [scattered]

theorem wellFormed_gathered : gathered.WellFormed where
  plain := by simp [gathered, items, Item.IsPlain]
  once := by decide
  json_before := by simp [gathered]
  json_after := by simp [gathered]

/-- The same options before a command and after it, with a value that looks like a command. -/
theorem scattered_gathered :
    parse [(Environment.targetName, "elsewhere")]
        ["stats", "--json", "--verbose", "--port=4000", "--target", "stats=help"] =
      parse [(Environment.targetName, "elsewhere")]
        ["--target=stats=help", "-v", "stats", "--port", "4000", "--json"] := by
  refine (standsAnywhere wellFormed_scattered [(Environment.targetName, "elsewhere")]).same gathered
    wellFormed_gathered rfl (fun o v => ?_) ?_
  · simp [Gives, scattered, gathered, items, or_comm]
  · simp [IsVerbose, scattered, gathered, items]

end Line
end Telemetry.Arguments
