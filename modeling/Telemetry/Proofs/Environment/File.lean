import Mathlib.Tactic
import Telemetry.Environment.File
import Telemetry.Proofs.Entries

/-!
# What an environment file supplies

A file whose lines can all be read gives entries, each of them read with the variables of the
environment and of the entries before. A variable then has its value in the environment, or else that of
its first entry.
-/
namespace Telemetry.Environment

/-- Two environments with the same variables. -/
def Agree (env env' : Environment) : Prop := ∀ name, env.get? name = env'.get? name

variable {env env' : Environment}

/-- A variable is supplied behind those that are there. -/
theorem exists_supply? (env : Environment) (name : String) {value : String} (h : isValue value = true) :
    ∃ env', env.supply? name value = some env' ∧ env'.Agree (env ++ [(name, value)]) := by
  have happend (key : String) : get? key (env ++ [(name, value)]) =
      (env.get? key).or (if name = key then some value else none) :=
    Entries.get?_append key env [(name, value)]
  unfold supply?
  cases hname : env.get? name with
  | some v =>
    refine ⟨env, rfl, fun key => ?_⟩
    rw [happend]
    by_cases hkey : name = key
    · rw [← hkey, hname]
      rfl
    · rw [if_neg hkey, Option.or_none]
  | none =>
    refine ⟨Entries.put name value env, if_pos h, fun key => ?_⟩
    rw [happend, get?, Entries.get?_put]
    by_cases hkey : name = key
    · rw [← hkey, hname, if_pos rfl, if_pos rfl]
      rfl
    · rw [if_neg hkey, if_neg hkey, Option.or_none]
      rfl

namespace File

theorem Draft.refer_congr (h : env.Agree env') (name : List Char) (d : Draft) :
    d.refer env name = d.refer env' name := by
  rw [refer, refer, h]

theorem Draft.step?_congr (h : env.Agree env') (d : Draft) (c : Char) :
    d.step? env c = d.step? env' c := by
  have hreference (r : Reference) : d.stepReference env c r = d.stepReference env' c r := by
    cases r <;> simp only [stepReference, refer_congr h]
  simp only [step?, hreference]

theorem Draft.finish?_congr (h : env.Agree env') (d : Draft) : d.finish? env = d.finish? env' := by
  simp only [finish?, refer_congr h]

theorem value?_congr (h : env.Agree env') (cs : List Char) : value? env cs = value? env' cs := by
  have hstep : Draft.step? env = Draft.step? env' := funext₂ (Draft.step?_congr h)
  have hfinish : Draft.finish? env = Draft.finish? env' := funext (Draft.finish?_congr h)
  rw [value?, value?, hstep, hfinish]

/-- What a line gives depends on nothing but the variables. -/
theorem entry?_congr (h : env.Agree env') (line : List Char) : entry? env line = entry? env' line := by
  simp only [ entry?, value?_congr h]

/-- The lines of a file. -/
def linesOf (text : String) : List (Option (List Char)) :=
  let cs := text.toList
  let cs := if cs.head? = some '\uFEFF' then cs.drop 1 else cs
  lines .plain [] (pieces cs)

/-- Adds the entries of lines to those before, if every line can be read and every value can be that of a
variable. -/
def entriesAfter? (env : Environment) (earlier : List (String × String)) :
    List (Option (List Char)) → Option (List (String × String))
  | [] => some earlier
  | none :: _ => none
  | some line :: rest =>
    match entry? (env ++ earlier) line with
    | none => none
    | some none => entriesAfter? env earlier rest
    | some (some (name, v)) =>
      if isValue v then entriesAfter? env (earlier ++ [(name, v)]) rest else none

/-- The entries of a file that is well formed. -/
def entries? (env : Environment) (text : String) : Option (List (String × String)) :=
  entriesAfter? env [] (linesOf text)

theorem exists_supplyLines? {lines : List (Option (List Char))} {earlier entries : List (String × String)}
    (h : entriesAfter? env earlier lines = some entries) {current : Environment}
    (hcurrent : current.Agree (env ++ earlier)) :
    ∃ env', supplyLines? current lines = some env' ∧ env'.Agree (env ++ entries) := by
  induction lines generalizing earlier current with
  | nil =>
    obtain rfl : earlier = entries := Option.some.inj h
    exact ⟨current, rfl, hcurrent⟩
  | cons line rest ih =>
    cases line with
    | none => cases h
    | some line =>
      rw [entriesAfter?, ← entry?_congr hcurrent] at h
      rw [supplyLines?]
      cases hentry : entry? current line with
      | none => simp [hentry] at h
      | some found =>
        rw [hentry] at h
        cases found with
        | none => exact ih h hcurrent
        | some entry =>
          obtain ⟨name, v⟩ := entry
          have hread : (if isValue v then entriesAfter? env (earlier ++ [(name, v)]) rest else none) =
              some entries := h
          split_ifs at hread with hvalue
          obtain ⟨next, hnext, hagree⟩ := exists_supply? current name hvalue
          have hthen : next.Agree (env ++ (earlier ++ [(name, v)])) := by
            intro key
            rw [hagree key, get?, Entries.get?_append, ← get?, hcurrent key, ← List.append_assoc,
              get?, get?, ← Entries.get?_append]
          obtain ⟨env', hrest, hfinal⟩ := ih hread hthen
          exact ⟨env', by simpa [hnext] using hrest, hfinal⟩

/-- A file that is well formed is loaded, and gives what the environment does not have. -/
theorem exists_load? {text : String} {entries : List (String × String)}
    (h : entries? env text = some entries) : ∃ env', load? text env = some env' ∧
      ∀ name, env'.get? name = (env.get? name).or (Entries.get? name entries) := by
  have hstart : env.Agree (env ++ []) := fun name => by rw [List.append_nil]
  obtain ⟨env', hload, hagree⟩ := exists_supplyLines? h hstart
  exact ⟨env', hload, fun name => (hagree name).trans (Entries.get?_append name env entries)⟩

example : entries? [("HOME", "/h")] "# who\nexport A=$HOME\nB=\"x\"$A/b\n" =
    some [("A", "/h"), ("B", "x/h/b")] := by decide +kernel

/-- The entries of a file that need not be there. -/
def entriesIfGiven? (env : Environment) (text : Option String) : Option (List (String × String)) :=
  text.elim (some []) (entries? env)

theorem exists_load?_of_given {text : Option String} {entries : List (String × String)}
    (h : entriesIfGiven? env text = some entries) :
    ∃ env', text.elim (some env) (fun text => load? text env) = some env' ∧
      ∀ name, env'.get? name = (env.get? name).or (Entries.get? name entries) := by
  cases text with
  | none =>
    obtain rfl : [] = entries := Option.some.inj h
    exact ⟨env, rfl, fun name => (Option.or_none ..).symm⟩
  | some text => exact exists_load? h

end File
end Telemetry.Environment
