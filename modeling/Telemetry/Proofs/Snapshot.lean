import Telemetry.Proofs.Calendar.Reading
import Telemetry.Proofs.Json.Printing
import Telemetry.Proofs.Value
import Telemetry.Snapshot

/-!
# The JSON output says what the server sent

The document of a value has doubles only, so its text says the document itself. The text of a snapshot says
an object with the fields of the response, and nothing else.
-/
namespace Telemetry

theorem Value.mapNumbers_toJson (v : Value) : v.toJson.mapNumbers Number.rounded = v.toJson := by
  rw [← toJson_ofJson, ofJson_toJson, toJson_plain]

/-- Both texts of the document of a value say that document. -/
theorem Value.says_toJson_iff (layout : Json.Layout) (v : Value) (j : Json) :
    Json.Says (.ofList (Json.print layout 0 v.toJson)) j ↔ j = v.toJson := by
  rw [Json.says_print_iff, mapNumbers_toJson]

namespace Snapshot

open Json

theorem mapNumbers_dateToJson (date : Option Instant) :
    (dateToJson date).mapNumbers Number.rounded = dateToJson date := by
  cases date <;> rfl

theorem mapNumbers_toJson (r : Stats) :
    (ofStats r).toJson.mapNumbers Number.rounded = (ofStats r).toJson := by
  have hdata := Value.mapNumbers_toJson (.struct (r.data.getD []))
  rw [Value.toJson, mapNumbers] at hdata
  simp only [toJson, ofStats, mapNumbers, mapMembers, mapNumbers_dateToJson, hdata]

/-- The name of a flavour by its number. A number without a flavour goes by the name of none. -/
def flavourText (number : Int) : String :=
  match number with
  | 1 => "DOCKER"
  | 2 => "DEB"
  | 3 => "RPM"
  | 4 => "WINDOWS"
  | 5 => "MACOS"
  | 6 => "HELM"
  | _ => "NONE"

/-- The text of a stamp's date, which the calendar reads as the seconds and nanoseconds of the stamp. A
stamp that is no point in time has none. -/
inductive DateText : Option Timestamp → Option (List Char) → Prop
  | absent : DateText none none
  | noPoint {t : Timestamp} (h : ¬ t.IsPoint) : DateText (some t) none
  | point {t : Timestamp} (h : t.IsPoint) {text : List Char} (htext : t.text? = some text)
      (hread : Instant.read? (text ++ ['Z']) = some (t.seconds.toInt, t.nanos.toInt)) :
      DateText (some t) (some (text ++ ['Z']))

/-- The document of a response with the text of its date: five texts, the name of the flavour, the date if
there is one, and the data. -/
def document (r : Stats) (date : Option (List Char)) : Json :=
  .object [("product", .string r.product), ("version", .string r.version), ("vendor", .string r.vendor),
    ("commit_sha", .string r.commitSha), ("build_date", .string r.buildDate),
    ("build_flavour", .string (flavourText r.buildFlavour.toInt)),
    ("snapshot_date", date.elim .null fun text => .string (.ofList text)),
    ("data", match r.data with
      | none => .object []
      | some fields => Value.structToJson fields)]

theorem name_ofNumber? (n : Int32) :
    ((BuildFlavour.ofNumber? n).getD .none).name = flavourText n.toInt := by
  by_cases hn : n ∈ BuildFlavour.all.map BuildFlavour.number
  · obtain ⟨f, -, rfl⟩ := List.mem_map.mp hn
    cases f <;> rfl
  · have hnone : BuildFlavour.ofNumber? n = none :=
      List.find?_eq_none.mpr fun f hf hnumber =>
        hn (List.mem_map.mpr ⟨f, hf, of_decide_eq_true hnumber⟩)
    have hother (f : BuildFlavour) : n.toInt ≠ f.number.toInt := fun h =>
      hn (List.mem_map.mpr ⟨f, by cases f <;> decide, (Int32.toInt_inj.mp h).symm⟩)
    rw [hnone, Option.getD_none, flavourText]
    exacts [rfl, hother .docker, hother .deb, hother .rpm, hother .windows, hother .macos, hother .helm]

theorem exists_dateText (stamp : Option Timestamp) : ∃ date, DateText stamp date ∧
    dateToJson (stamp.bind Timestamp.toInstant?) =
      date.elim .null fun text => .string (.ofList text) := by
  cases stamp with
  | none => exact ⟨none, .absent, rfl⟩
  | some t =>
    by_cases hpoint : t.IsPoint
    · obtain ⟨i, hi⟩ := Option.isSome_iff_exists.mp (t.isSome_toInstant?_iff.mpr hpoint)
      have htext : t.text? = some i.text := by rw [Timestamp.text?, hi, Option.map_some]
      refine ⟨_, .point hpoint htext (Timestamp.read?_of_text? htext (.inl rfl)), ?_⟩
      rw [Option.bind_some, hi]
      rfl
    · have hi : t.toInstant? = none := by
        rwa [← Option.not_isSome_iff_eq_none, t.isSome_toInstant?_iff]
      refine ⟨none, .noPoint hpoint, ?_⟩
      rw [Option.bind_some, hi]
      rfl

theorem exists_toJson_eq (r : Stats) : ∃ date, DateText r.snapshotDate date ∧
    (ofStats r).toJson = document r date := by
  obtain ⟨date, hdate, hjson⟩ := exists_dateText r.snapshotDate
  refine ⟨date, hdate, ?_⟩
  have hdata : Json.object (Value.toJsonFields (r.data.getD [])) =
      match r.data with
      | none => .object []
      | some fields => Value.structToJson fields := by
    cases r.data <;> rfl
  simp only [toJson, ofStats, document, hjson, hdata, name_ofNumber?]

theorem says_pretty_iff (r : Stats) (j : Json) :
    Says (ofStats r).toJson.pretty j ↔ j = (ofStats r).toJson := by
  rw [pretty, says_print_iff, mapNumbers_toJson]

/-- The text of a snapshot says the document of its response, each of the two texts of a value's document says
that document, and none of them says anything else. -/
theorem output_reads_back :
    (∀ r : Stats, ∃ date, DateText r.snapshotDate date ∧
      ∀ j, Says (ofStats r).toJson.pretty j ↔ j = document r date) ∧
      ∀ (v : Value) (j : Json), (Says v.toJson.compact j ↔ j = v.toJson) ∧
        (Says v.toJson.pretty j ↔ j = v.toJson) := by
  refine ⟨fun r => ?_, fun v j => ⟨v.says_toJson_iff .compact j, v.says_toJson_iff .indented j⟩⟩
  obtain ⟨date, hdate, hjson⟩ := exists_toJson_eq r
  exact ⟨date, hdate, fun j => hjson ▸ says_pretty_iff r j⟩

/-- A snapshot of a chart with one number in its data. -/
def chartStats : Stats :=
  { Stats.empty with
    product := "p", buildFlavour := 6, snapshotDate := some ⟨86400, 5000000⟩
    data := some [("n", .number ⟨0x3ff0000000000000⟩)] }

theorem chartStats_reads_back : Says (ofStats chartStats).toJson.pretty
    (.object [("product", .string "p"), ("version", .string ""), ("vendor", .string ""),
      ("commit_sha", .string ""), ("build_date", .string ""), ("build_flavour", .string "HELM"),
      ("snapshot_date", .string "1970-01-02T00:00:00.005Z"),
      ("data", .object [("n", .number (.double ⟨0x3ff0000000000000⟩ (by decide)))])]) := by
  obtain ⟨date, hdate, hread⟩ := output_reads_back.1 chartStats
  rw [hread]
  have hknown : Timestamp.text? ⟨86400, 5000000⟩ = some "1970-01-02T00:00:00.005".toList := by
    decide +kernel
  cases hdate with
  | noPoint h => exact absurd ((Timestamp.isSome_text?_iff _).mp (hknown ▸ rfl)) h
  | point h htext =>
    obtain rfl := Option.some.inj (hknown.symm.trans htext)
    rfl

end Snapshot
end Telemetry
