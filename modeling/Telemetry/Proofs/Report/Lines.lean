import Telemetry.Proofs.Calendar.Reading
import Telemetry.Proofs.Json.Characters
import Telemetry.Proofs.Report
import Telemetry.Proofs.Snapshot

/-!
# One line for each entry

A report without colour is cut at its line feeds. Nine lines at most come before the data, and then each entry
has one, since the compact text of its value cannot break a line.
-/
namespace Telemetry

namespace Text

/-- The lines of a text that a line feed ends. -/
def lines (cs : List Char) : List (List Char) := (cs.splitOn '\n').dropLast

/-- Lines, each with a line feed behind it. -/
def unlines (ls : List (List Char)) : List Char := ls.flatMap (· ++ ['\n'])

theorem splitOn_unlines {ls : List (List Char)} (h : ∀ l ∈ ls, '\n' ∉ l) :
    (unlines ls).splitOn '\n' = ls ++ [[]] := by
  induction ls with
  | nil => simp [unlines]
  | cons l ls ih =>
    obtain ⟨hl, hls⟩ := List.forall_mem_cons.mp h
    have hfirst : unlines (l :: ls) = l ++ '\n' :: unlines ls := by simp [unlines]
    rw [hfirst, List.splitOn_append_cons_self_of_not_mem hl, ih hls, List.cons_append]

theorem lines_unlines {ls : List (List Char)} (h : ∀ l ∈ ls, '\n' ∉ l) : lines (unlines ls) = ls := by
  rw [lines, splitOn_unlines h, List.dropLast_concat]

theorem getLast?_unlines {ls : List (List Char)} (h : ls ≠ []) : (unlines ls).getLast? = some '\n' := by
  obtain ⟨front, l, rfl⟩ := List.eq_nil_or_concat ls |>.resolve_left h
  simp [unlines]

end Text

theorem Instant.lineFeed_not_mem_text (t : Instant) : '\n' ∉ t.text := by
  have hdigits (width n : Nat) : '\n' ∉ Decimal.padded width n := by
    intro hmem
    exact absurd (Decimal.isDigit_of_mem_padded width n _ hmem) (by decide)
  have hyear : '\n' ∉ Date.yearText t.date.year := by
    simp only [Date.yearText]
    split_ifs <;> simp [hdigits]
  have hfraction : '\n' ∉ fractionText (t.nanos % 1000000000) := by
    rw [fractionText]
    split_ifs <;> simp [hdigits]
  simp [text, Date.text, timeText, hyear, hfraction, hdigits]

namespace Report

namespace Line

/-- What a line of the report is without colour: one line of text, with an empty one before some titles. -/
def texts : Line → List (List Char)
  | title true text => [[], text.toList]
  | title false text => [text.toList]
  | row label blanks content =>
    [' ' :: ' ' :: (label.toList ++ ':' :: (List.replicate blanks ' ' ++ content))]

theorem print_false (l : Line) : l.print false = Text.unlines l.texts := by
  cases l with
  | title gap text => cases gap <;> simp [print, texts, Text.unlines, lead, body, label, Style.paint]
  | row label blanks content => simp [print, texts, Text.unlines, lead, body, Line.label, Style.paint]

/-- Neither of the two parts of a line that are taken from data has a line feed. -/
def IsSingle : Line → Prop
  | title _ text => '\n' ∉ text.toList
  | row label _ content => '\n' ∉ label.toList ∧ '\n' ∉ content

theorem IsSingle.texts {l : Line} (h : l.IsSingle) : ∀ text ∈ l.texts, '\n' ∉ text := by
  cases l with
  | title gap text =>
    have htext : '\n' ∉ text.toList := h
    cases gap <;> simp [Line.texts, htext]
  | row label blanks content =>
    have hlabel : '\n' ∉ label.toList := h.1
    have hcontent : '\n' ∉ content := h.2
    simp [Line.texts, hlabel, hcontent]

end Line

/-- The line of an entry: its key and the compact text of its value. -/
def entryText (e : String × Json) : List Char :=
  ' ' :: ' ' :: (e.1.toList ++ ':' :: ' ' :: e.2.compact.toList)

theorem texts_dataLine (e : String × Json) : (dataLine e).texts = [entryText e] := by
  simp [dataLine, Line.texts, entryText, Json.compact]

theorem texts_data (data : List (String × Json)) :
    (data.map dataLine).flatMap Line.texts = data.map entryText := by
  induction data with
  | nil => rfl
  | cons e data ih => simp [ih, texts_dataLine]

theorem toList_ofSnapshot_false (s : Snapshot) :
    (ofSnapshot false s).toList = Text.unlines ((lines s).flatMap Line.texts) := by
  rw [toList_ofSnapshot, Text.unlines, List.flatMap_assoc]
  exact List.flatMap_congr fun l _ => l.print_false

/-- Before the data there are seven lines, and nine if there are data. -/
theorem exists_texts_lines (s : Snapshot) : ∃ front : List (List Char),
    front.length = (if s.data.isEmpty then 7 else 9) ∧
      (lines s).flatMap Line.texts = front ++ s.data.map entryText := by
  refine ⟨(lines { s with data := [] }).flatMap Line.texts ++
    if s.data.isEmpty then [] else (Line.title true "Data").texts, ?_, ?_⟩
  · cases s.data <;> simp [lines, Line.texts]
  · cases hdata : s.data with
    | nil => simp [lines, hdata]
    | cons e data => simp [lines, hdata, texts_dataLine, texts_data]

/-- The five texts and the keys of the data have no line feed. -/
structure IsFlat (s : Snapshot) : Prop where
  texts : ∀ text ∈ [s.product, s.version, s.vendor, s.commitSha, s.buildDate], '\n' ∉ text.toList
  keys : ∀ e ∈ s.data, '\n' ∉ e.1.toList

theorem lineFeed_not_mem_dateText (date : Option Instant) : '\n' ∉ dateText date := by
  cases date with
  | none => decide
  | some t =>
    have hmark : '\n' ∉ "+00:00".toList := by decide
    simp only [dateText, List.mem_append, t.lineFeed_not_mem_text, hmark, or_self, not_false_eq_true]

theorem IsFlat.isSingle {s : Snapshot} (h : IsFlat s) : ∀ l ∈ lines s, l.IsSingle := by
  have hproduct := h.texts s.product (by simp)
  have hversion := h.texts s.version (by simp)
  have hvendor := h.texts s.vendor (by simp)
  have hcommit := h.texts s.commitSha (by simp)
  have hbuilt := h.texts s.buildDate (by simp)
  have hflavour : '\n' ∉ s.buildFlavour.name.toList.map Char.toLower := by
    cases s.buildFlavour <;> decide
  have hdate := lineFeed_not_mem_dateText s.snapshotDate
  have hdata : ∀ l ∈ s.data.map dataLine, l.IsSingle := by
    refine List.forall_mem_map.mpr fun e he => ⟨h.keys e he, ?_⟩
    exact (Json.noControl_print 0 e.2).lineFeed_not_mem
  intro l hl
  rw [lines, List.mem_append] at hl
  obtain hl | hl := hl
  · simp only [List.mem_cons, List.not_mem_nil, or_false] at hl
    obtain rfl | rfl | rfl | rfl | rfl | rfl | rfl := hl <;>
      simp_all [Line.IsSingle]
  · split_ifs at hl with hempty
    · cases hl
    · obtain rfl | hl := List.mem_cons.mp hl
      · simp [Line.IsSingle]
      · exact hdata l hl

theorem IsFlat.exists_lines {s : Snapshot} (h : IsFlat s) : ∃ front : List (List Char),
    front.length = (if s.data.isEmpty then 7 else 9) ∧
      Text.lines (ofSnapshot false s).toList = front ++ s.data.map entryText := by
  obtain ⟨front, hlength, htexts⟩ := exists_texts_lines s
  have hsingle : ∀ text ∈ (lines s).flatMap Line.texts, '\n' ∉ text := by
    intro text htext
    obtain ⟨l, hl, htext⟩ := List.mem_flatMap.mp htext
    exact (h.isSingle l hl).texts text htext
  refine ⟨front, hlength, ?_⟩
  rw [toList_ofSnapshot_false, Text.lines_unlines hsingle, htexts]

theorem mapNumbers_of_mem_data (r : Stats) :
    ∀ e ∈ (Snapshot.ofStats r).data, e.2.mapNumbers Number.rounded = e.2 := by
  intro e he
  rw [Snapshot.ofStats, Value.toJsonFields_eq_map] at he
  obtain ⟨entry, -, rfl⟩ := List.mem_map.mp he
  exact entry.2.mapNumbers_toJson

/-- The report has a line for each entry of the data, in the order of the bytes of their keys, and the value
of the entry is read back from it. -/
structure HasLinePerEntry (s : Snapshot) : Prop where
  ended : (ofSnapshot false s).toList.getLast? = some '\n'
  length : (Text.lines (ofSnapshot false s).toList).length =
    if s.data.isEmpty then 7 else 9 + s.data.length
  line : ∀ i (h : i < s.data.length), (Text.lines (ofSnapshot false s).toList)[9 + i]? =
    some (' ' :: ' ' :: (s.data[i].1.toList ++ ':' :: ' ' :: s.data[i].2.compact.toList))
  ascending : (s.data.map fun e => Text.utf8 e.1).Pairwise (· < ·)
  noControl : ∀ e ∈ s.data, ∀ c ∈ e.2.compact.toList, 0x20 ≤ c.toNat
  /-- The text of a value says the value with its numbers as doubles, and nothing else. -/
  reads_back : ∀ e ∈ s.data, ∀ j, Json.Says e.2.compact j ↔ j = e.2.mapNumbers Number.rounded
  rounded : ∀ n : Number, n.RoundsTo n.rounded
  /-- All numbers that a server sends are doubles. -/
  received : ∀ r, s = .ofStats r → ∀ e ∈ s.data, e.2.mapNumbers Number.rounded = e.2

theorem hasLinePerEntry {s : Snapshot} (hmap : Entries.Ascending s.data) (hflat : IsFlat s) :
    HasLinePerEntry s := by
  obtain ⟨front, hfront, hlines⟩ := hflat.exists_lines
  refine { ended := ?_, length := ?_, line := ?_, ascending := ?_, noControl := ?_, reads_back := ?_,
           rounded := Number.roundsTo_rounded, received := ?_ }
  · rw [toList_ofSnapshot_false]
    exact Text.getLast?_unlines (by simp [lines, Line.texts])
  · rw [hlines, List.length_append, List.length_map, hfront]
    cases s.data <;> simp
  · intro i hi
    have hne : s.data.isEmpty = false := by
      rw [List.isEmpty_eq_false_iff]
      exact List.ne_nil_of_length_pos (by omega)
    have hnine : front.length = 9 := by simpa [hne] using hfront
    rw [hlines, List.getElem?_append_right (by omega), hnine, Nat.add_sub_cancel_left,
      List.getElem?_map, List.getElem?_eq_getElem hi]
    rfl
  · exact List.pairwise_map.mpr (hmap.imp Text.utf8_lt_utf8)
  · exact fun e _ => Json.noControl_compact e.2
  · exact fun e _ j => Json.says_print_iff .compact e.2 j
  · rintro r rfl
    exact mapNumbers_of_mem_data r

/-- A snapshot whose texts would break lines if they were not escaped. -/
def sampleSnapshot : Snapshot where
  product := "server"
  version := "1.0"
  vendor := "\r"
  commitSha := ""
  buildDate := "today"
  buildFlavour := .helm
  snapshotDate := none
  data := [("", .string "\n  forged: 1"), ("deep", .array [.object [("\n", .null)], .string "\x00"])]

theorem sampleSnapshot_hasLinePerEntry : Entries.Ascending sampleSnapshot.data ∧ IsFlat sampleSnapshot ∧
    HasLinePerEntry sampleSnapshot := by
  have hmap : Entries.Ascending sampleSnapshot.data := List.pairwise_pair.mpr (by decide)
  have hflat : IsFlat sampleSnapshot := ⟨by decide, by simp [sampleSnapshot]⟩
  exact ⟨hmap, hflat, hasLinePerEntry hmap hflat⟩

end Report
end Telemetry
