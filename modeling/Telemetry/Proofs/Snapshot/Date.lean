import Telemetry.Proofs.Calendar.Reading
import Telemetry.Proofs.Snapshot
import Telemetry.Report

/-!
# The date of a snapshot in the document and in the report

The document and the report of a response show its stamp in one place each, by one text with two marks of
universal time, and nothing else in them depends on it. So they show every point in time, and no two alike.
-/
namespace Telemetry

/-- A response with a stamp in place of its own. -/
def Stats.stamped (r : Stats) (t : Timestamp) : Stats := { r with snapshotDate := some t }

theorem Report.row_inj {color : Bool} {label : String} {blanks : Nat} {content content' : List Char}
    (h : row color label blanks content = row color label blanks content') : content = content' := by
  simpa [row] using h

namespace Snapshot

open Report

/-- The date of a stamp in a document. -/
def documentDate (t : Timestamp) : Json :=
  match t.text? with
  | none => .null
  | some text => .string (.ofList (text ++ ['Z']))

/-- The date of a stamp in a report. -/
def reportDate (t : Timestamp) : List Char :=
  match t.text? with
  | none => Report.unknown
  | some text => text ++ "+00:00".toList

theorem dateToJson_toInstant? (t : Timestamp) : dateToJson t.toInstant? = documentDate t := by
  rw [documentDate, Timestamp.text?]
  cases t.toInstant? <;> rfl

theorem dateText_toInstant? (t : Timestamp) : Report.dateText t.toInstant? = reportDate t := by
  rw [reportDate, Timestamp.text?]
  cases t.toInstant? <;> rfl

/-- The members of a document around its date do not depend on the stamp. -/
theorem exists_document_eq (r : Stats) : ∃ before after, ∀ t, (ofStats (r.stamped t)).toJson =
    .object (before ++ ("snapshot_date", documentDate t) :: after) := by
  refine ⟨[("product", .string r.product), ("version", .string r.version), ("vendor", .string r.vendor),
    ("commit_sha", .string r.commitSha), ("build_date", .string r.buildDate),
    ("build_flavour", .string (ofStats r).buildFlavour.name)], [("data", .object (ofStats r).data)],
    fun t => ?_⟩
  rw [← dateToJson_toInstant?]
  rfl

/-- The report around the row of the date does not depend on the stamp. -/
theorem exists_report_eq (r : Stats) (color : Bool) : ∃ before after, ∀ t,
    (Report.ofSnapshot color (ofStats (r.stamped t))).toList =
      before ++ (Report.row color "Snapshot" 1 (reportDate t) ++ after) := by
  refine ⟨heading color "Stats" ++
    row color "Product" 2 (r.product.toList ++ ' ' :: r.version.toList) ++
    row color "Vendor" 3 r.vendor.toList ++
    row color "Commit" 3 r.commitSha.toList ++
    row color "Built" 4 r.buildDate.toList ++
    row color "Flavour" 2 ((ofStats r).buildFlavour.name.toList.map Char.toLower),
    if (ofStats r).data.isEmpty then []
      else '\n' :: (heading color "Data" ++ dataRows color (ofStats r).data), fun t => ?_⟩
  rw [← dateText_toInstant?, ofSnapshot, String.toList_ofList, List.append_assoc]
  rfl

theorem eq_of_documentDate_eq {t t' : Timestamp} (h : t.IsPoint) (h' : t'.IsPoint)
    (heq : documentDate t = documentDate t') : t = t' := by
  obtain ⟨text, htext⟩ := Option.isSome_iff_exists.mp (t.isSome_text?_iff.mpr h)
  obtain ⟨text', htext'⟩ := Option.isSome_iff_exists.mp (t'.isSome_text?_iff.mpr h')
  simp only [documentDate, htext, htext', Json.string.injEq, String.ofList_inj,
    List.append_cancel_right_eq] at heq
  exact Timestamp.eq_of_text? htext (heq ▸ htext')

theorem eq_of_reportDate_eq {t t' : Timestamp} (h : t.IsPoint) (h' : t'.IsPoint)
    (heq : reportDate t = reportDate t') : t = t' := by
  obtain ⟨text, htext⟩ := Option.isSome_iff_exists.mp (t.isSome_text?_iff.mpr h)
  obtain ⟨text', htext'⟩ := Option.isSome_iff_exists.mp (t'.isSome_text?_iff.mpr h')
  simp only [reportDate, htext, htext', List.append_cancel_right_eq] at heq
  exact Timestamp.eq_of_text? htext (heq ▸ htext')

/-- What the snapshots of a response show of its stamp, whatever stamp it has. -/
structure ShowsStamps (r : Stats) : Prop where
  present_iff : ∀ t : Timestamp, (ofStats (r.stamped t)).snapshotDate.isSome ↔ t.IsPoint
  text_iff : ∀ t : Timestamp, t.text?.isSome ↔ t.IsPoint
  document : ∃ before after, ∀ t j, Json.Says (ofStats (r.stamped t)).toJson.pretty j ↔
    j = .object (before ++ ("snapshot_date", documentDate t) :: after)
  report : ∀ color, ∃ before after, ∀ t, (Report.ofSnapshot color (ofStats (r.stamped t))).toList =
    before ++ (Report.row color "Snapshot" 1 (reportDate t) ++ after)
  reads_back : ∀ (t : Timestamp) (text mark : List Char), t.text? = some text →
    Instant.IsUniversal mark → Instant.read? (text ++ mark) = some (t.seconds.toInt, t.nanos.toInt)
  distinct : ∀ t t' : Timestamp, t.IsPoint → t'.IsPoint → t ≠ t' →
    documentDate t ≠ documentDate t' ∧ reportDate t ≠ reportDate t' ∧
    (ofStats (r.stamped t)).toJson.pretty ≠ (ofStats (r.stamped t')).toJson.pretty ∧
    ∀ color, Report.ofSnapshot color (ofStats (r.stamped t)) ≠
      Report.ofSnapshot color (ofStats (r.stamped t'))

/-- The document and the report of every response show its stamp faithfully. -/
theorem showsStamps (r : Stats) : ShowsStamps r where
  present_iff t := t.isSome_toInstant?_iff
  text_iff t := t.isSome_text?_iff
  document := by
    obtain ⟨before, after, hdocument⟩ := exists_document_eq r
    exact ⟨before, after, fun t j => by rw [says_pretty_iff, hdocument]⟩
  report := exists_report_eq r
  reads_back t text mark := Timestamp.read?_of_text?
  distinct t t' h h' hne := by
    refine ⟨fun heq => hne (eq_of_documentDate_eq h h' heq), fun heq => hne (eq_of_reportDate_eq h h' heq),
      fun heq => ?_, fun color heq => ?_⟩
    · obtain ⟨before, after, hdocument⟩ := exists_document_eq r
      have hsays := (says_pretty_iff (r.stamped t) _).mpr rfl
      rw [heq, says_pretty_iff, hdocument, hdocument] at hsays
      simp only [Json.object.injEq, List.append_cancel_left_eq, List.cons.injEq, Prod.mk.injEq,
        true_and, and_true] at hsays
      exact hne (eq_of_documentDate_eq h h' hsays)
    · obtain ⟨before, after, hreport⟩ := exists_report_eq r color
      have hlist := congrArg String.toList heq
      rw [hreport, hreport, List.append_cancel_left_eq, List.append_cancel_right_eq] at hlist
      exact hne (eq_of_reportDate_eq h h' (Report.row_inj hlist))

end Snapshot
end Telemetry
