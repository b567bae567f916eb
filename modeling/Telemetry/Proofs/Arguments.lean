import Mathlib.Logic.Function.Basic
import Mathlib.Tactic
import Telemetry.Arguments
import Telemetry.Proofs.Text

/-!
# What a command line gives to its options

A command line that can be read gives an option its values as words that follow the option's own, or
behind an equals sign in it, before the command and after it. Of several values the last one counts, and
it counts before what the environment gives.
-/
namespace Telemetry

section Except

variable {ε α β : Type} {x : Except ε α} {b : β}

theorem exists_of_bind_eq_ok {f : α → Except ε β} (h : x >>= f = .ok b) :
    ∃ a, x = .ok a ∧ f a = .ok b := by
  cases x with
  | error e => cases h
  | ok a => exact ⟨a, rfl, h⟩

theorem exists_of_map_eq_ok {f : α → β} (h : x.map f = .ok b) : ∃ a, x = .ok a ∧ f a = b := by
  cases x with
  | error e => cases h
  | ok a => exact ⟨a, rfl, Except.ok.inj h⟩

end Except

namespace Arguments

/-- The word that names an option. -/
def ValueOption.word : ValueOption → List Char
  | target => "--target".toList
  | port => "--port".toList
  | token => "--token".toList

/-- What stands behind the word of an option and an equals sign. -/
def valueBehind? (o : ValueOption) (arg : String) : Option String :=
  match Text.splitOnce? ['='] arg.toList with
  | some (word, v) => if word = o.word then some (.ofList v) else none
  | none => none

/-- What an argument gives to an option, with the argument that follows. -/
def valueIn (o : ValueOption) (arg : String) (next : Option String) : Option String :=
  if arg.toList = o.word then next else valueBehind? o arg

/-- The values that arguments give to an option. -/
def valuesOf (o : ValueOption) : List String → List String
  | [] => []
  | arg :: rest => (valueIn o arg rest.head?).toList ++ valuesOf o rest

/-- The value of an option that counts. -/
def text? (o : ValueOption) (args : List String) : Option String := (valuesOf o args).getLast?

section Words

variable {o o' : ValueOption} {arg : String}

theorem ValueOption.word_injective (h : o.word = o'.word) : o = o' := by
  cases o <;> cases o' <;> first | rfl | exact absurd h (by decide)

theorem ValueOption.equals_not_mem_word (o : ValueOption) : '=' ∉ o.word := by cases o <;> decide

theorem ValueOption.exists_word_eq (o : ValueOption) : ∃ cs, o.word = '-' :: '-' :: cs := by
  cases o <;> exact ⟨_, rfl⟩

theorem valueBehind?_of_not_mem (h : '=' ∉ arg.toList) : valueBehind? o arg = none := by
  have hnone := (Text.splitOnce?_eq_none (List.cons_ne_nil '=' [])).mpr
    (fun hwithin => h (hwithin.subset List.mem_cons_self) : ¬ ['='] <:+: arg.toList)
  simp only [valueBehind?, hnone]

theorem valueBehind?_of_splits {word v : List Char} (h : arg.toList = word ++ '=' :: v)
    (hword : '=' ∉ word) : valueBehind? o arg = if word = o.word then some (.ofList v) else none := by
  have hsplits := (Text.splitOnce?_eq_some_iff (List.cons_ne_nil '=' [])).mpr
    (Text.splitsAt_singleton_iff.mpr ⟨h, hword⟩)
  simp only [valueBehind?, hsplits]

theorem valueIn_of_word (h : arg.toList = o.word) (o' : ValueOption) (next : Option String) :
    valueIn o' arg next = if o = o' then next else none := by
  have hbehind : valueBehind? o' arg = none := valueBehind?_of_not_mem (h ▸ o.equals_not_mem_word)
  rw [valueIn, h, hbehind]
  exact if_congr ⟨ValueOption.word_injective, congrArg _⟩ rfl rfl

theorem valueIn_of_behind {v : List Char} (h : arg.toList = o.word ++ '=' :: v) (o' : ValueOption)
    (next : Option String) : valueIn o' arg next = if o = o' then some (.ofList v) else none := by
  have hword : arg.toList ≠ o'.word := fun heq =>
    o'.equals_not_mem_word (heq ▸ h ▸ List.mem_append_right _ List.mem_cons_self)
  rw [valueIn, if_neg hword, valueBehind?_of_splits h o.equals_not_mem_word]
  exact if_congr ⟨ValueOption.word_injective, congrArg _⟩ rfl rfl

/-- A word that is not the option's and has no value in it gives nothing. -/
theorem valueIn_of_other (hword : arg.toList ≠ o.word) (h : '=' ∉ arg.toList)
    (next : Option String) : valueIn o arg next = none := by
  rw [valueIn, if_neg hword, valueBehind?_of_not_mem h]

/-- A word that does not begin with two hyphens gives nothing. -/
theorem valueIn_of_plain (h : ∀ cs, arg.toList ≠ '-' :: '-' :: cs) (o : ValueOption)
    (next : Option String) : valueIn o arg next = none := by
  obtain ⟨cs, hcs⟩ := o.exists_word_eq
  rw [valueIn, if_neg (hcs ▸ h cs), valueBehind?]
  split
  · next word v hsplit =>
    have hsplits := Text.splitsAt_of_splitOnce? (List.cons_ne_nil '=' []) hsplit
    refine if_neg fun hword => h (cs ++ '=' :: v) ?_
    rw [hsplits.eq, hword, hcs]
    rfl
  · rfl

end Words

/-- Options have the values that texts give. -/
structure Options.Hold (os : Options) (texts : ValueOption → Option String) : Prop where
  target : os.target = texts .target
  token : os.token = texts .token
  port : os.port.map .ok = (texts .port).map readPort

variable {texts : ValueOption → Option String}

theorem Options.hold_empty : Options.empty.Hold fun _ => none := ⟨rfl, rfl, rfl⟩

theorem Options.Hold.set {os os' : Options} (hos : os.Hold texts) {o : ValueOption} {v : String}
    (h : os.set o v = .ok os') : os'.Hold (Function.update texts o (some v)) := by
  unfold Options.set at h
  split_ifs at h
  cases o with
  | target =>
    cases h
    exact ⟨by simp, by simpa using hos.token, by simpa using hos.port⟩
  | token =>
    cases h
    exact ⟨by simpa using hos.target, by simp, by simpa using hos.port⟩
  | port =>
    cases hport : readPort v with
    | error e => simp [hport] at h
    | ok p =>
      simp only [hport] at h
      cases h
      exact ⟨by simpa using hos.target, by simpa using hos.token, by simp [hport]⟩

namespace Scan

variable {s s' : Scan} {place : Place} {arg : String}

/-- What a scan has come across so far, the value that has not been looked at included. -/
def Tells (s : Scan) (texts : ValueOption → Option String) : Prop :=
  match s.pending with
  | some (o, some v) => ∃ before, s.options.Hold before ∧ texts = Function.update before o (some v)
  | _ => s.options.Hold texts

/-- A scan at which no value is pending. -/
structure Settled (s : Scan) (texts : ValueOption → Option String) : Prop where
  hold : s.options.Hold texts
  pending : s.pending = none

theorem settled_start : start.Settled fun _ => none := ⟨Options.hold_empty, rfl⟩

theorem Settled.tells (hs : s.Settled texts) : s.Tells texts := by
  rw [Tells, hs.pending]
  exact hs.hold

theorem Tells.settle (hs : s.Tells texts) (h : s.settle = .ok s') :
    s'.Settled texts ∧ s.isAwaiting = false := by
  unfold Scan.settle at h
  unfold Tells at hs
  rw [isAwaiting]
  cases hpending : s.pending with
  | none =>
    rw [hpending] at h hs
    cases h
    exact ⟨⟨hs, hpending⟩, rfl⟩
  | some pending =>
    obtain ⟨o, v⟩ := pending
    cases v with
    | none => simp [hpending] at h
    | some v =>
      rw [hpending] at h hs
      obtain ⟨before, hbefore, rfl⟩ := hs
      obtain ⟨options, hset, rfl⟩ := exists_of_map_eq_ok h
      exact ⟨⟨hbefore.set hset, rfl⟩, rfl⟩

theorem Tells.flag (hs : s.Tells texts) {f : Flag} (h : s.flag place f = .ok s') :
    s'.Settled texts ∧ s.isAwaiting = false := by
  obtain ⟨settled, hsettle, h⟩ := exists_of_bind_eq_ok h
  obtain ⟨hsettled, hawaiting⟩ := hs.settle hsettle
  refine ⟨?_, hawaiting⟩
  have hkept (verbose json : Bool) :
      { settled with options := { settled.options with verbose, json } }.Settled texts :=
    ⟨⟨hsettled.hold.target, hsettled.hold.token, hsettled.hold.port⟩, hsettled.pending⟩
  cases f with
  | help | version => cases h
  | verbose | json =>
    dsimp only at h
    split_ifs at h
    cases h
    exact hkept _ _

theorem Settled.short (hs : s.Settled texts) {cs : List Char} (h : short place cs s = .ok s') :
    s'.Settled texts := by
  induction cs generalizing s with
  | nil => cases h; exact hs
  | cons c cs ih =>
    rw [Arguments.short] at h
    cases hname : shortName? place c with
    | none => simp [hname] at h
    | some f =>
      rw [hname] at h
      obtain ⟨s'', hflag, h⟩ := exists_of_bind_eq_ok h
      exact ih (hs.tells.flag hflag).1 h

theorem Tells.short (hs : s.Tells texts) {c : Char} {cs : List Char}
    (h : short place (c :: cs) s = .ok s') : s'.Settled texts ∧ s.isAwaiting = false := by
  rw [Arguments.short] at h
  cases hname : shortName? place c with
  | none => simp [hname] at h
  | some f =>
    rw [hname] at h
    obtain ⟨s'', hflag, h⟩ := exists_of_bind_eq_ok h
    obtain ⟨hsettled, hawaiting⟩ := hs.flag hflag
    exact ⟨hsettled.short h, hawaiting⟩

end Scan

theorem splitEquals_of_none {cs name : List Char} (h : splitEquals cs = (name, none)) :
    cs = name ∧ '=' ∉ name := by
  unfold splitEquals at h
  split at h
  · cases h
  · next hdrop =>
    obtain ⟨rfl, -⟩ := Prod.mk.inj h
    refine ⟨rfl, fun hmem => ?_⟩
    cases hrest : cs.dropWhile (· ≠ '=') with
    | nil => simpa using List.dropWhile_eq_nil_iff.mp hrest '=' hmem
    | cons c rest =>
      have hc := List.head_dropWhile_not (· ≠ '=') (hrest ▸ List.cons_ne_nil c rest)
      simp only [hrest, List.head_cons, decide_eq_false_iff_not, not_not] at hc
      exact hdrop rest (hc ▸ hrest)

theorem splitEquals_of_some {cs name v : List Char} (h : splitEquals cs = (name, some v)) :
    cs = name ++ '=' :: v ∧ '=' ∉ name := by
  unfold splitEquals at h
  split at h
  · next rest hdrop =>
    obtain ⟨rfl, hv⟩ := Prod.mk.inj h
    cases hv
    refine ⟨by rw [← hdrop, List.takeWhile_append_dropWhile], fun hmem => ?_⟩
    simpa using List.mem_takeWhile_imp hmem
  · cases h

theorem longName_eq_option {place : Place} {name : List Char} {o : ValueOption}
    (h : longName place name = .option o) : '-' :: '-' :: name = o.word := by
  unfold longName at h
  split_ifs at h <;> cases h <;> next hname => rw [hname]; rfl

theorem longName_ne_option {place : Place} {name : List Char}
    (h : ∀ o, longName place name ≠ .option o) (o : ValueOption) : '-' :: '-' :: name ≠ o.word := by
  rintro hword
  refine h o ?_
  cases o <;> obtain rfl : name = _ := (List.cons.inj (List.cons.inj hword).2).2 <;> rfl

/-- The ways in which an argument is read, when the reading goes on. -/
inductive Reads (place : Place) (arg : String) (s : Scan) : Scan → Prop
  | hyphens (h : arg = "--") : Reads place arg s { s with trailing := true }
  | option {settled : Scan} (o : ValueOption) (h : arg.toList = o.word)
    (hsettle : s.settle = .ok settled) : Reads place arg s { settled with pending := some (o, none) }
  | setting {settled : Scan} {options : Options} (o : ValueOption) (v : List Char)
    (h : arg.toList = o.word ++ '=' :: v) (hsettle : s.settle = .ok settled)
    (hset : settled.options.set o (.ofList v) = .ok options) :
    Reads place arg s { settled with options }
  | flag {s' : Scan} (f : Flag) (h : ∀ o next, valueIn o arg next = none)
    (hflag : s.flag place f = .ok s') : Reads place arg s s'
  | letters {s' : Scan} (c : Char) (cs : List Char) (h : ∀ o next, valueIn o arg next = none)
    (hshort : short place (c :: cs) s = .ok s') : Reads place arg s s'
  | value (o : ValueOption) (h : ∀ o next, valueIn o arg next = none)
    (hpending : s.pending = some (o, none)) :
    Reads place arg s { s with pending := some (o, some arg) }

variable {place : Place} {arg : String} {s s' : Scan}

theorem reads_of_long {name : List Char} {value : Option (List Char)}
    (harg : arg.toList = '-' :: '-' :: name ++ (value.elim [] ('=' :: ·))) (hname : '=' ∉ name)
    (h : long place name value s = .ok s') : Reads place arg s s' := by
  have hword : '=' ∉ '-' :: '-' :: name := by simpa using hname
  unfold long at h
  split at h
  · next o hlong =>
    obtain ⟨settled, hsettle, rfl⟩ := exists_of_map_eq_ok h
    exact .option o (by simpa [← longName_eq_option hlong] using harg) hsettle
  · next o v hlong =>
    obtain ⟨settled, hsettle, h⟩ := exists_of_bind_eq_ok h
    obtain ⟨options, hset, h⟩ := exists_of_bind_eq_ok h
    cases h
    exact .setting o v (by rw [harg, longName_eq_option hlong]; rfl) hsettle hset
  · next f hlong =>
    rw [Option.elim_none, List.append_nil] at harg
    have hother (o : ValueOption) : arg.toList ≠ o.word :=
      harg ▸ longName_ne_option (fun o => by rw [hlong]; exact LongName.noConfusion) o
    exact .flag f (fun o => valueIn_of_other (hother o) (harg ▸ hword)) h
  · cases h
  · cases h

theorem reads_of_argument (h : argument place arg s = .ok s') :
    s.trailing = false ∧ Reads place arg s s' := by
  unfold argument at h
  split_ifs at h with htrailing
  refine ⟨Bool.eq_false_iff.mpr htrailing, ?_⟩
  split at h
  · next harg =>
    cases h
    exact .hyphens (String.toList_injective harg)
  · next cs _ harg =>
    cases hsplit : splitEquals cs with
    | mk name value =>
      simp only [hsplit] at h
      cases value with
      | none =>
        obtain ⟨rfl, hname⟩ := splitEquals_of_none hsplit
        exact reads_of_long (by simpa using harg) hname h
      | some v =>
        obtain ⟨rfl, hname⟩ := splitEquals_of_some hsplit
        exact reads_of_long (by simpa using harg) hname h
  · next c cs _ hlong harg =>
    refine .letters c cs (valueIn_of_plain fun cs' hcs' => ?_) h
    exact hlong (List.cons.inj (List.cons.inj (harg.symm.trans hcs')).2).1
  · next hlong hshort =>
    split at h
    · next o hpending =>
      cases h
      exact .value o (valueIn_of_plain hlong) hpending
    · cases h

namespace Scan

/-- The values that arguments give to an option from here on. -/
def valuesFrom (s : Scan) (o : ValueOption) (args : List String) : List String :=
  (if s.pending = some (o, none) then args.head?.toList else []) ++ valuesOf o args

/-- The value of an option that counts after arguments, if a text counted before them. -/
def textAfter (s : Scan) (texts : ValueOption → Option String) (args : List String) (o : ValueOption) :
    Option String := (s.valuesFrom o args).getLast?.or (texts o)

theorem valuesFrom_of_not_awaiting (h : s.isAwaiting = false) (o : ValueOption) (args : List String) :
    s.valuesFrom o args = valuesOf o args := by
  have hnot : s.pending ≠ some (o, none) := fun hpending => by simp [isAwaiting, hpending] at h
  rw [valuesFrom, if_neg hnot, List.nil_append]

theorem Settled.isAwaiting {texts : ValueOption → Option String} (hs : s.Settled texts) :
    s.isAwaiting = false := by
  rw [Scan.isAwaiting, hs.pending]

theorem Settled.valuesFrom {texts : ValueOption → Option String} (hs : s.Settled texts)
    (o : ValueOption) (args : List String) : s.valuesFrom o args = valuesOf o args :=
  valuesFrom_of_not_awaiting hs.isAwaiting o args

/-- An argument that gives nothing changes nothing. -/
theorem textAfter_cons {texts : ValueOption → Option String} (h : s.isAwaiting = false)
    (hnone : ∀ o next, valueIn o arg next = none) (rest : List String) :
    s.textAfter texts (arg :: rest) = fun o => (valuesOf o rest).getLast?.or (texts o) := by
  funext o
  rw [textAfter, valuesFrom_of_not_awaiting h, valuesOf, hnone]
  rfl

theorem Settled.textAfter {texts : ValueOption → Option String} (hs : s.Settled texts)
    (args : List String) :
    s.textAfter texts args = fun o => (valuesOf o args).getLast?.or (texts o) := by
  funext o
  rw [Scan.textAfter, hs.valuesFrom]

/-- The last of some texts, and one in front of them. -/
theorem getLast?_or_some (v : String) (vs : List String) (before : Option String) :
    vs.getLast?.or (some v) = (v :: vs).getLast?.or before := by
  rw [List.getLast?_cons]
  cases vs.getLast? <;> rfl

/-- Reading an argument loses no value. -/
theorem Tells.argument {texts : ValueOption → Option String} (hs : s.Tells texts) (hdash : arg ≠ "--")
    (h : argument place arg s = .ok s') :
    ∃ texts', s'.Tells texts' ∧ ∀ rest, s'.textAfter texts' rest = s.textAfter texts (arg :: rest) := by
  cases (reads_of_argument h).2 with
  | hyphens hhyphens => exact absurd hhyphens hdash
  | option o hword hsettle =>
    obtain ⟨hsettled, hawaiting⟩ := hs.settle hsettle
    refine ⟨texts, hsettled.hold, fun rest => funext fun o' => ?_⟩
    rw [textAfter, textAfter, valuesFrom_of_not_awaiting hawaiting, valuesOf, valueIn_of_word hword,
      valuesFrom]
    by_cases ho : o = o' <;> simp [ho]
  | @setting settled options o v hbehind hsettle hset =>
    obtain ⟨hsettled, hawaiting⟩ := hs.settle hsettle
    have hnext : { settled with options }.Settled (Function.update texts o (some (.ofList v))) :=
      ⟨hsettled.hold.set hset, hsettled.pending⟩
    refine ⟨_, hnext.tells, fun rest => funext fun o' => ?_⟩
    rw [textAfter, textAfter, hnext.valuesFrom, valuesFrom_of_not_awaiting hawaiting, valuesOf,
      valueIn_of_behind hbehind]
    by_cases ho : o = o'
    · subst ho
      simpa using getLast?_or_some (.ofList v) (valuesOf o rest) (texts o)
    · simp [ho, Function.update_of_ne (Ne.symm ho)]
  | flag f hnone hflag =>
    obtain ⟨hsettled, hawaiting⟩ := hs.flag hflag
    exact ⟨texts, hsettled.tells, fun rest =>
      (hsettled.textAfter rest).trans (textAfter_cons hawaiting hnone rest).symm⟩
  | letters c cs hnone hshort =>
    obtain ⟨hsettled, hawaiting⟩ := hs.short hshort
    exact ⟨texts, hsettled.tells, fun rest =>
      (hsettled.textAfter rest).trans (textAfter_cons hawaiting hnone rest).symm⟩
  | value o hnone hpending =>
    have hhold : s.options.Hold texts := by simpa [Tells, hpending] using hs
    refine ⟨_, ⟨texts, hhold, rfl⟩, fun rest => funext fun o' => ?_⟩
    rw [textAfter, textAfter, valuesFrom, valuesFrom, valuesOf, hnone, hpending]
    by_cases ho : o = o'
    · subst ho
      simpa using getLast?_or_some arg (valuesOf o rest) (texts o)
    · simp [ho, Function.update_of_ne (Ne.symm ho)]

theorem textAfter_start (args : List String) :
    start.textAfter (fun _ => none) args = fun o => text? o args := by
  rw [settled_start.textAfter]
  exact funext fun o => Option.or_none

theorem Tells.trailing {texts : ValueOption → Option String} (hs : s.Tells texts) :
    { s with trailing := true }.Tells texts := hs

end Scan

theorem eq_of_argument_hyphens (h : argument place "--" s = .ok s') :
    s' = { s with trailing := true } := by
  have htrailing := (reads_of_argument h).1
  have hargument : argument place "--" s = .ok { s with trailing := true } := by
    simp [argument, htrailing]
  exact Except.ok.inj (h.symm.trans hargument)

/-- After two hyphens no argument can be read. -/
theorem argument_of_trailing (h : s.trailing = true) :
    argument place arg s = .error (stray place true arg) := by
  rw [argument, if_pos h]

variable {texts : ValueOption → Option String}

theorem valueIn_hyphens (o : ValueOption) (next : Option String) : valueIn o "--" next = none :=
  valueIn_of_other (by cases o <;> decide) (by decide) next

theorem textAfter_nil (h : s.isAwaiting = false) : s.textAfter texts [] = texts := by
  funext o
  rw [Scan.textAfter, Scan.valuesFrom_of_not_awaiting h]
  rfl

/-- The options after a run hold the values that count. -/
theorem hold_of_foldlM {args : List String} {settled : Scan} (hs : s.Tells texts)
    (h : args.foldlM (fun s arg => argument place arg s) s = .ok s') (hsettle : s'.settle = .ok settled) :
    settled.options.Hold (s.textAfter texts args) := by
  -- by induction on the arguments, with what counts after all of them unchanged from step to step
  induction args generalizing s texts with
  | nil =>
    obtain rfl : s' = s := (Except.ok.inj h).symm
    obtain ⟨hsettled, hawaiting⟩ := hs.settle hsettle
    exact (textAfter_nil hawaiting).symm ▸ hsettled.hold
  | cons arg rest ih =>
    rw [List.foldlM_cons] at h
    obtain ⟨next, hargument, h⟩ := exists_of_bind_eq_ok h
    by_cases hdash : arg = "--"
    · subst hdash
      obtain rfl := eq_of_argument_hyphens hargument
      cases rest with
      | nil =>
        obtain rfl : s' = { s with trailing := true } := (Except.ok.inj h).symm
        obtain ⟨hsettled, hawaiting⟩ := hs.trailing.settle hsettle
        have hsame : s.textAfter texts ["--"] = texts :=
          Scan.textAfter_cons hawaiting valueIn_hyphens []
        exact hsame.symm ▸ hsettled.hold
      | cons arg rest =>
        rw [List.foldlM_cons] at h
        obtain ⟨next, hnext, -⟩ := exists_of_bind_eq_ok h
        have hnone : argument place arg { s with trailing := true } = _ := argument_of_trailing rfl
        cases hnone.symm.trans hnext
    · obtain ⟨texts', htells, hafter⟩ := hs.argument hdash hargument
      exact hafter rest ▸ ih htells h

theorem hold_of_optionsAfter {args : List String} {os : Options}
    (h : optionsAfter place args = .ok os) : os.Hold fun o => text? o args := by
  obtain ⟨s, hrun, h⟩ := exists_of_bind_eq_ok h
  obtain ⟨settled, hsettle, h⟩ := exists_of_bind_eq_ok h
  cases h
  exact Scan.textAfter_start args ▸ hold_of_foldlM Scan.settled_start.tells hrun hsettle

theorem valueIn_of_commandPlace? (h : commandPlace? arg = some place) (o : ValueOption)
    (next : Option String) : valueIn o arg next = none := by
  unfold commandPlace? at h
  split_ifs at h with hack hstats
  · subst hack
    exact valueIn_of_other (by cases o <;> decide) (by decide) next
  · subst hstats
    exact valueIn_of_other (by cases o <;> decide) (by decide) next

/-- A section goes on with a command, or with an option or a value. -/
theorem sections_cons {rest : List String} {before after : Options}
    (h : sections s (arg :: rest) = .ok (before, some (place, after))) :
    (∃ settled, s.isAwaiting = false ∧ commandPlace? arg = some place ∧
      optionsAfter place rest = .ok after ∧ s.settle = .ok settled ∧ settled.options = before) ∨
    ∃ next, argument .top arg s = .ok next ∧ sections next rest = .ok (before, some (place, after)) := by
  rw [sections] at h
  split at h
  · cases h
  · cases hcommand : if s.trailing || s.isAwaiting then none else commandPlace? arg with
    | some place' =>
      obtain ⟨hplain, hplace⟩ := Option.ite_none_left_eq_some.mp hcommand
      have hawaiting : s.isAwaiting = false := by simp_all
      rw [hcommand] at h
      obtain ⟨os, hafter, h⟩ := exists_of_bind_eq_ok h
      obtain ⟨settled, hsettle, h⟩ := exists_of_bind_eq_ok h
      cases h
      exact .inl ⟨settled, hawaiting, hplace, hafter, hsettle, rfl⟩
    | none =>
      rw [hcommand] at h
      exact .inr (exists_of_bind_eq_ok h)

theorem sections_nil_ne {before after : Options} :
    sections s [] ≠ .ok (before, some (place, after)) := by
  intro h
  obtain ⟨settled, -, h⟩ := exists_of_map_eq_ok h
  cases h

/-- Nothing can follow two hyphens in front of the command, not even the command. -/
theorem sections_ne_of_trailing (h : s.trailing = true) {args : List String} {before after : Options} :
    sections s args ≠ .ok (before, some (place, after)) := by
  intro hsections
  cases args with
  | nil => exact sections_nil_ne hsections
  | cons arg rest =>
    have hnone : argument .top arg s = _ := argument_of_trailing h
    simp [sections, h, hnone, bind, Except.bind] at hsections

/-- Of what is given before the command and after it, the latter counts. -/
theorem hold_of_sections {args : List String} {before after : Options} (hs : s.Tells texts)
    (h : sections s args = .ok (before, some (place, after))) :
    ∃ first last, before.Hold first ∧ after.Hold last ∧
      ∀ o, (last o).or (first o) = s.textAfter texts args o := by
  induction args generalizing s texts with
  | nil => exact absurd h sections_nil_ne
  | cons arg rest ih =>
    obtain ⟨settled, hawaiting, hplace, hafter, hsettle, rfl⟩ | ⟨next, hargument, hnext⟩ :=
      sections_cons h
    · refine ⟨texts, _, (hs.settle hsettle).1.hold, hold_of_optionsAfter hafter, fun o => ?_⟩
      rw [Scan.textAfter_cons hawaiting (valueIn_of_commandPlace? hplace), text?]
    · by_cases hdash : arg = "--"
      · subst hdash
        obtain rfl := eq_of_argument_hyphens hargument
        exact absurd hnext (sections_ne_of_trailing rfl)
      · obtain ⟨texts', htells, hafter⟩ := hs.argument hdash hargument
        exact hafter rest ▸ ih htells hnext

/-- The arguments are what a command line gives, or else what an environment gives. -/
structure Given (env : Environment) (args : List String) (a : Arguments) : Prop where
  target : a.target = (text? .target args).or env.target?
  token : a.token = (text? .token args).or env.token?
  port : a.port.map .ok = (text? .port args).map readPort

/-- What the options before a command and after it make in an environment. -/
def assembled (env : Environment) (before : Options) (place : Place) (after : Options) : Arguments where
  command := commandOf place after
  target := (after.target.or before.target).or env.target?
  port := after.port.or before.port
  token := (after.token.or before.token).or env.token?
  verbose := after.verbose || before.verbose

theorem sections_of_parse {env : Environment} {args : List String} {a : Arguments}
    (h : parse env args = .ok a) : ∃ before place after,
      sections Scan.start args = .ok (before, some (place, after)) ∧
        a = assembled env before place after := by
  obtain ⟨⟨before, command⟩, hsections, h⟩ := exists_of_bind_eq_ok h
  cases command with
  | none =>
    dsimp only at h
    split_ifs at h
  | some command =>
    cases h
    exact ⟨before, command.1, command.2, hsections, rfl⟩

/-- A command line that can be read has the values that are written in it. -/
theorem given_of_parse {env : Environment} {args : List String} {a : Arguments}
    (h : parse env args = .ok a) : Given env args a := by
  obtain ⟨before, place, after, hsections, rfl⟩ := sections_of_parse h
  obtain ⟨first, last, hfirst, hlast, htexts⟩ := hold_of_sections Scan.settled_start.tells hsections
  have htext (o : ValueOption) : (last o).or (first o) = text? o args := by
    rw [htexts, Scan.textAfter_start]
  refine ⟨?_, ?_, ?_⟩
  · rw [← htext, assembled, hlast.target, hfirst.target]
  · rw [← htext, assembled, hlast.token, hfirst.token]
  · rw [← htext, assembled, Option.map_or, Option.map_or, hlast.port, hfirst.port]

example : text? .target ["--target", "a", "stats", "--target=b", "--json"] = some "b" := by decide

/-- Whether a command line can be read does not depend on the environment. -/
theorem exists_parse_of_parse {env : Environment} {args : List String} {a : Arguments}
    (h : parse env args = .ok a) (env' : Environment) : ∃ a', parse env' args = .ok a' := by
  obtain ⟨before, place, after, hsections, -⟩ := sections_of_parse h
  exact ⟨assembled env' before place after, by rw [parse, hsections]; rfl⟩

end Arguments
end Telemetry
