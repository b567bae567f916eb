import Telemetry.Report
import Telemetry.Proofs.Style

/-!
# Colour and content

A report is made of lines, and each line has one text in a style: a title, the label of a row or the key of
an entry. Colour adds nothing to a report but the sequences around these texts.
-/
namespace Telemetry.Report

open Style

/-- A title, which an empty line may precede, or a row. -/
inductive Line where
  | title (gap : Bool) (text : String)
  | row (label : String) (blanks : Nat) (content : List Char)

namespace Line

/-- What stands before the text that has a style. -/
def lead : Line → List Char
  | title true _ => ['\n']
  | title false _ => []
  | row _ _ _ => [' ', ' ']

def style : Line → Style
  | title _ _ => .bold
  | row _ _ _ => .dimmed

/-- The text that has a style. -/
def label : Line → String
  | title _ text => text
  | row label _ _ => label

/-- What stands between the text that has a style and the end of the line. -/
def body : Line → List Char
  | title _ _ => []
  | row _ blanks content => ':' :: (List.replicate blanks ' ' ++ content)

def print (color : Bool) (l : Line) : List Char :=
  l.lead ++ (l.style.paint color l.label.toList ++ (l.body ++ ['\n']))

/-- What a line says. -/
def content (l : Line) : List Char := l.lead ++ (strip l.label.toList ++ (strip l.body ++ ['\n']))

theorem print_title (color gap : Bool) (text : String) :
    (title gap text).print color = (if gap then ['\n'] else []) ++ heading color text := by
  cases gap <;> rfl

theorem print_row (color : Bool) (label : String) (blanks : Nat) (content : List Char) :
    (row label blanks content).print color = Report.row color label blanks content := by
  simp [print, Report.row, lead, style, Line.label, body]

variable (l : Line)

theorem isEmphasis_style : l.style.IsEmphasis := by
  cases l with
  | title => exact .inl rfl
  | row => exact .inr rfl

theorem ne_escape_of_mem_lead : ∀ c ∈ l.lead, c ≠ escape := by
  cases l with
  | title gap => cases gap <;> simp [lead, escape]
  | row => simp [lead, escape]

/-- A style is closed before a colon or the end of the line. -/
theorem exists_body_eq (rest : List Char) :
    ∃ c after, l.body ++ '\n' :: rest = c :: after ∧ (c = ':' ∨ c = '\n') := by
  cases l with
  | title => exact ⟨'\n', rest, rfl, .inr rfl⟩
  | row => exact ⟨':', _, rfl, .inl rfl⟩

theorem breaks_body (rest : List Char) : Breaks (l.body ++ '\n' :: rest) := by
  obtain ⟨c, after, heq, hc⟩ := l.exists_body_eq rest
  rw [heq]
  rintro _ ⟨⟩
  obtain rfl | rfl := hc <;> decide

theorem strip_print (color : Bool) (rest : List Char) :
    strip (l.print color ++ rest) = l.content ++ strip rest := by
  have hend : Breaks ('\n' :: rest) := by
    rintro _ ⟨⟩
    decide
  have hlines : l.print color ++ rest =
      l.lead ++ (l.style.paint color l.label.toList ++ (l.body ++ '\n' :: rest)) := by
    simp [print]
  rw [hlines, strip_append_of_ne l.ne_escape_of_mem_lead,
    l.isEmphasis_style.strip_paint color _ (l.breaks_body rest), strip_append l.body hend,
    strip_cons_of_ne (by decide)]
  simp [content]

end Line

def dataLine (entry : String × Json) : Line := .row entry.1 1 (Json.print .compact 0 entry.2)

/-- The lines of the report on a snapshot. -/
def lines (s : Snapshot) : List Line :=
  [.title false "Stats",
    .row "Product" 2 (s.product.toList ++ ' ' :: s.version.toList),
    .row "Vendor" 3 s.vendor.toList,
    .row "Commit" 3 s.commitSha.toList,
    .row "Built" 4 s.buildDate.toList,
    .row "Flavour" 2 (s.buildFlavour.name.toList.map Char.toLower),
    .row "Snapshot" 1 (dateText s.snapshotDate)] ++
  if s.data.isEmpty then [] else .title true "Data" :: s.data.map dataLine

theorem dataRows_eq (color : Bool) (data : List (String × Json)) :
    dataRows color data = (data.map dataLine).flatMap (Line.print color) := by
  induction data with
  | nil => rfl
  | cons entry data ih =>
    rw [dataRows, List.map_cons, List.flatMap_cons, dataLine, Line.print_row, ih]

theorem toList_ofSnapshot (color : Bool) (s : Snapshot) :
    (ofSnapshot color s).toList = (lines s).flatMap (Line.print color) := by
  rw [ofSnapshot, String.toList_ofList, lines]
  cases s.data with
  | nil => simp [Line.print_title, Line.print_row]
  | cons entry data => simp [Line.print_title, Line.print_row, dataRows_eq]

theorem strip_print (color : Bool) (ls : List Line) :
    strip (ls.flatMap (Line.print color)) = ls.flatMap Line.content := by
  induction ls with
  | nil => rfl
  | cons l ls ih => rw [List.flatMap_cons, List.flatMap_cons, l.strip_print, ih]

/-- A report with colour differs from the report without in the sequences around its titles, labels and
keys, and none of their styles reaches the character after them. -/
structure ColorIsSafe (s : Snapshot) : Prop where
  printed (color : Bool) : (ofSnapshot color s).toList = (lines s).flatMap (Line.print color)
  labels : (lines s).map Line.label =
    ["Stats", "Product", "Vendor", "Commit", "Built", "Flavour", "Snapshot"] ++
      if s.data.isEmpty then [] else "Data" :: s.data.map Prod.fst
  content : strip (ofSnapshot true s).toList = strip (ofSnapshot false s).toList
  closed (front : List Line) (l : Line) (rest : List Line) : lines s = front ++ l :: rest →
    ∃ before c after, before = front.flatMap (Line.print true) ++ l.lead ∧ c ≠ escape ∧
      (ofSnapshot true s).toList = before ++
        (l.style.opening ++ (reopen l.style.opening l.label.toList ++ (reset ++ c :: after))) ∧
      shown false (tokens (ofSnapshot true s).toList) = shown false (tokens before) ++
        ((strip l.label.toList).map (·, true) ++ (c, false) :: shown false (tokens after))

theorem labels_lines (s : Snapshot) : (lines s).map Line.label =
    ["Stats", "Product", "Vendor", "Commit", "Built", "Flavour", "Snapshot"] ++
      if s.data.isEmpty then [] else "Data" :: s.data.map Prod.fst := by
  rw [lines, List.map_append]
  cases s.data with
  | nil => rfl
  | cons entry data => simp [Line.label, dataLine]

theorem colorIsSafe (s : Snapshot) : ColorIsSafe s where
  printed color := toList_ofSnapshot color s
  labels := labels_lines s
  content := by rw [toList_ofSnapshot, toList_ofSnapshot, strip_print, strip_print]
  closed front l rest hlines := by
    obtain ⟨c, after, hbody, hc⟩ := l.exists_body_eq (rest.flatMap (Line.print true))
    have hescape : c ≠ escape := by obtain rfl | rfl := hc <;> decide
    have htext : (ofSnapshot true s).toList = (front.flatMap (Line.print true) ++ l.lead) ++
        (l.style.paint true l.label.toList ++ c :: after) := by
      rw [toList_ofSnapshot, hlines, List.flatMap_append, List.flatMap_cons, ← hbody]
      simp [Line.print]
    refine ⟨_, c, after, rfl, hescape, ?_, ?_⟩
    · rw [htext, paint, if_pos rfl]
      simp
    · rw [htext, l.isEmphasis_style.shown_paint, tokens_cons_of_ne hescape]
      rfl

end Telemetry.Report
