import Telemetry.Proofs.Calendar
import Telemetry.Proofs.Decimal
import Telemetry.Proofs.Json.Reading

/-!
# Dates and times of day read back

A reader of dates and times of day in universal time. It takes the fields of a text apart, checks each in the
calendar and on the clock, and adds up their seconds. From the text of an instant it gets its seconds and its
nanoseconds back.
-/
namespace Telemetry
namespace Instant

/-- The number of the digits at the front of a text, if there are as many as allowed. -/
def number? (allowed : Nat → Bool) (text : List Char) : Option (Nat × List Char) :=
  (Literal.digits? text).bind fun (ds, rest) =>
    if allowed ds.length then some (Decimal.ofDigits ds, rest) else none

/-- A year of four digits, or of at least four behind a sign. -/
def year? : List Char → Option (Int × List Char)
  | '-' :: text => (number? (4 ≤ ·) text).map fun (n, rest) => (-(n : Int), rest)
  | '+' :: text => (number? (4 ≤ ·) text).map fun (n, rest) => ((n : Int), rest)
  | text => (number? (· = 4) text).map fun (n, rest) => ((n : Int), rest)

/-- A field of two digits behind its mark. -/
def field? (mark : Char) : List Char → Option (Nat × List Char)
  | c :: tens :: ones :: rest =>
    if c = mark ∧ tens.isDigit ∧ ones.isDigit then some (Decimal.ofDigits [tens, ones], rest) else none
  | _ => none

/-- The nanoseconds of a fraction of a second with nine digits at most. -/
def nanosOf? : Option (List Char) → Option Nat
  | none => some 0
  | some ds => if ds.length ≤ 9 then some (Decimal.ofDigits ds * 10 ^ (9 - ds.length)) else none

/-- The two marks of universal time. -/
def IsUniversal (mark : List Char) : Prop := mark = ['Z'] ∨ mark = "+00:00".toList

instance (mark : List Char) : Decidable (IsUniversal mark) := inferInstanceAs (Decidable (_ ∨ _))

/-- The seconds since the beginning of 1970 and the nanoseconds of a day and a time of day. The second sixty
is the one before it, with a second more of nanoseconds. -/
def ofFields? (date : Date) (hour minute second nanos : Nat) : Option (Int × Int) :=
  if date.Valid ∧ hour < 24 ∧ minute < 60 then
    let minutes := 86400 * date.dayNumber + 3600 * hour + 60 * minute
    if second < 60 then some (minutes + second, nanos)
    else if second = 60 then some (minutes + 59, nanos + 1000000000)
    else none
  else none

/-- The seconds and the nanoseconds that a date and a time of day in universal time stand for. -/
def read? (text : List Char) : Option (Int × Int) := do
  let (year, text) ← year? text
  let (month, text) ← field? '-' text
  let (day, text) ← field? '-' text
  let (hour, text) ← field? 'T' text
  let (minute, text) ← field? ':' text
  let (second, text) ← field? ':' text
  let (fraction, mark) ← Literal.fraction? text
  let nanos ← nanosOf? fraction
  if IsUniversal mark then ofFields? ⟨year, month, day⟩ hour minute second nanos else none

theorem isDigits_padded (width n : Nat) (h : 0 < width) : Json.IsDigits (Decimal.padded width n) where
  isDigit := Decimal.isDigit_of_mem_padded width n
  ne_nil := List.ne_nil_of_length_pos (h.trans_le (Decimal.le_length_padded width n))

theorem number?_padded_append {allowed : Nat → Bool} {width n : Nat} {rest : List Char} (h : 0 < width)
    (hallowed : allowed (Decimal.padded width n).length = true)
    (hrest : ∀ c ∈ rest.head?, c.isDigit = false) :
    number? allowed (Decimal.padded width n ++ rest) = some (n, rest) := by
  simp only [number?, Json.digits?_append (isDigits_padded width n h) hrest, Option.bind_some,
    if_pos hallowed, Decimal.ofDigits_padded]

theorem year?_of_isDigit {text : List Char} (h : ∀ c ∈ text.head?, c.isDigit = true) :
    year? text = (number? (· = 4) text).map fun (n, rest) => ((n : Int), rest) := by
  rw [year?]
  · rintro text' rfl
    exact absurd (h '-' rfl) (by decide)
  · rintro text' rfl
    exact absurd (h '+' rfl) (by decide)

theorem year?_yearText_append (year : Int) {rest : List Char}
    (hrest : ∀ c ∈ rest.head?, c.isDigit = false) :
    year? (Date.yearText year ++ rest) = some (year, rest) := by
  have hlong := decide_eq_true (Decimal.le_length_padded 4 year.natAbs)
  simp only [Date.yearText]
  split
  · next hneg =>
    rw [List.cons_append, year?, number?_padded_append (by decide) hlong hrest]
    simp only [Option.map_some, Int.ofNat_natAbs_of_nonpos hneg.le, neg_neg]
  split
  · next hneg hlarge =>
    rw [List.cons_append, year?, number?_padded_append (by decide) hlong hrest]
    simp only [Option.map_some, Int.natAbs_of_nonneg (not_lt.mp hneg)]
  · next hneg hlarge =>
    have hfour := decide_eq_true
      (Decimal.length_padded (show 0 < 4 by decide) (show year.natAbs < 10 ^ 4 by omega))
    have hdigits := isDigits_padded 4 year.natAbs (by decide)
    have hhead : ∀ c ∈ (Decimal.padded 4 year.natAbs ++ rest).head?, c.isDigit = true := by
      rw [List.head?_append_of_ne_nil _ hdigits.ne_nil]
      exact fun c hc => hdigits.isDigit c (List.mem_of_head? hc)
    rw [year?_of_isDigit hhead, number?_padded_append (by decide) hfour hrest]
    simp only [Option.map_some, Int.natAbs_of_nonneg (not_lt.mp hneg)]

theorem field?_padded (mark : Char) {n : Nat} (h : n < 100) (rest : List Char) :
    field? mark (mark :: (Decimal.padded 2 n ++ rest)) = some (n, rest) := by
  have hlength : (Decimal.padded 2 n).length = 2 := Decimal.length_padded (by decide) h
  obtain ⟨tens, ones, htwo⟩ := List.length_eq_two.mp hlength
  have hdigits := Decimal.isDigit_of_mem_padded 2 n
  have hvalue := Decimal.ofDigits_padded 2 n
  rw [htwo] at hdigits hvalue ⊢
  have htens := hdigits tens (by simp)
  have hones := hdigits ones (by simp)
  simp [field?, htens, hones, hvalue]

/-- A fraction has the fewest threes of digits that say its nanoseconds. -/
theorem exists_isFraction_fractionText {nanos : Nat} (h : nanos < 1000000000) :
    ∃ fraction, Json.IsFraction (fractionText nanos) fraction ∧ nanosOf? fraction = some nanos := by
  have hpresent : ∀ width n, 0 < width → width ≤ 9 → n < 10 ^ width → n * 10 ^ (9 - width) = nanos →
      ∃ fraction, Json.IsFraction ('.' :: Decimal.padded width n) fraction ∧
        nanosOf? fraction = some nanos := by
    intro width n hpos hle hn hvalue
    refine ⟨_, .present (isDigits_padded width n hpos), ?_⟩
    rw [nanosOf?, Decimal.length_padded hpos hn, if_pos hle, Decimal.ofDigits_padded, hvalue]
  rw [fractionText]
  split
  · next hzero => exact ⟨none, .absent, by rw [nanosOf?, hzero]⟩
  split
  · exact hpresent 3 _ (by decide) (by decide) (by omega) (by omega)
  split
  · exact hpresent 6 _ (by decide) (by decide) (by omega) (by omega)
  · exact hpresent 9 _ (by decide) (by decide) (by omega) (by omega)

theorem secondOfDay_lt (t : Instant) : t.secondOfDay < 86400 := by
  rw [secondOfDay]
  omega

/-- The fields of an instant stand for its seconds and its nanoseconds. -/
theorem ofFields?_eq (t : Instant) :
    ofFields? t.date (t.secondOfDay / 3600) (t.secondOfDay / 60 % 60) t.second (t.nanos % 1000000000) =
      some (t.seconds, (t.nanos : Int)) := by
  have hday : t.secondOfDay < 86400 := t.secondOfDay_lt
  have hparts : 86400 * t.date.dayNumber + t.secondOfDay = t.seconds := by
    rw [date, Date.dayNumber_ofDay, secondOfDay]
    omega
  have hminutes : t.secondOfDay / 60 % 60 < 60 := Nat.mod_lt _ (by decide)
  have hnanos := t.nanosValid
  rw [ofFields?, if_pos ⟨Date.valid_ofDay _, by omega, hminutes⟩, second]
  by_cases hleap : t.nanos < 1000000000
  · rw [if_pos hleap, if_pos (by omega), Nat.mod_eq_of_lt hleap]
    simp only [Option.some.injEq, Prod.mk.injEq, and_true]
    omega
  · have hlast : t.secondOfDay % 60 = 59 := by omega
    rw [if_neg hleap, hlast, if_neg (by decide), if_pos rfl]
    simp only [Option.some.injEq, Prod.mk.injEq]
    omega

theorem IsUniversal.head_spec {mark : List Char} (h : IsUniversal mark) :
    ∀ c ∈ mark.head?, c.isDigit = false ∧ c ≠ '.' := by
  intro c hc
  have hhead : mark.head? = some 'Z' ∨ mark.head? = some '+' := by
    obtain rfl | rfl := h
    · exact .inl rfl
    · exact .inr rfl
  obtain hz | hplus := hhead
  · obtain rfl := Option.some.inj (hz.symm.trans hc)
    decide
  · obtain rfl := Option.some.inj (hplus.symm.trans hc)
    decide

/-- The text of an instant, with either mark of universal time, says its seconds and its nanoseconds. -/
theorem read?_text_append (t : Instant) {mark : List Char} (hmark : IsUniversal mark) :
    read? (t.text ++ mark) = some (t.seconds, (t.nanos : Int)) := by
  have hday : t.secondOfDay < 86400 := t.secondOfDay_lt
  have hdate : t.date.Valid := Date.valid_ofDay _
  have hmonth : t.date.month < 100 := hdate.month_le.trans_lt (by decide)
  have hdaysIn : Date.daysIn (Date.isLeap t.date.year) t.date.month ≤ 31 := by
    rw [Date.daysIn]
    split_ifs <;> decide
  have hsecond : t.second < 100 := by
    rw [second]
    split <;> omega
  obtain ⟨fraction, hfraction, hnanos⟩ :=
    exists_isFraction_fractionText (Nat.mod_lt t.nanos (show 0 < 1000000000 by decide))
  rw [read?, text, timeText, Date.text]
  simp only [List.append_assoc, List.cons_append]
  rw [year?_yearText_append _ (by simp)]
  simp only [Option.bind_eq_bind, Option.bind_some]
  rw [field?_padded '-' hmonth, Option.bind_some, field?_padded '-' (by have := hdate.day_le; omega),
    Option.bind_some, field?_padded 'T' (by omega), Option.bind_some, field?_padded ':' (by omega),
    Option.bind_some, field?_padded ':' hsecond, Option.bind_some,
    hfraction.fraction?_append hmark.head_spec, Option.bind_some, hnanos, Option.bind_some,
    if_pos hmark, ofFields?_eq]

example : read? "2016-12-31T23:59:60.5Z".toList = some (1483228799, 1500000000) := by decide

end Instant

namespace Timestamp

/-- The stamps of points in time: from the first second of the year -262143 to the last one of the year
262142, and a second more of nanoseconds only in the last second of a minute. -/
def IsPoint (t : Timestamp) : Prop :=
  (-8334601228800 ≤ t.seconds.toInt ∧ t.seconds.toInt ≤ 8210266876799) ∧
    ((0 ≤ t.nanos.toInt ∧ t.nanos.toInt ≤ 999999999) ∨
      (1000000000 ≤ t.nanos.toInt ∧ t.nanos.toInt ≤ 1999999999 ∧ t.seconds.toInt % 60 = 59))

/-- The date and the time of day of a stamp, before the mark of universal time. -/
def text? (t : Timestamp) : Option (List Char) := t.toInstant?.map Instant.text

theorem isSome_toInstant?_iff (t : Timestamp) : t.toInstant?.isSome ↔ t.IsPoint := by
  rw [toInstant?, IsPoint]
  split
  · next h =>
    simp only [Option.isSome_some, true_iff]
    omega
  · next h =>
    simp only [Option.isSome_none, Bool.false_eq_true, false_iff]
    omega

theorem isSome_text?_iff (t : Timestamp) : t.text?.isSome ↔ t.IsPoint := by
  rw [text?, Option.isSome_map, isSome_toInstant?_iff]

theorem toInstant?_spec {t : Timestamp} {i : Instant} (h : t.toInstant? = some i) :
    i.seconds = t.seconds.toInt ∧ (i.nanos : Int) = t.nanos.toInt := by
  rw [toInstant?] at h
  split at h
  · next hpoint =>
    obtain rfl := Option.some.inj h
    exact ⟨rfl, Int.toNat_of_nonneg hpoint.1.1⟩
  · exact absurd h (by simp)

/-- The text of a stamp, with either mark of universal time, says the stamp. -/
theorem read?_of_text? {t : Timestamp} {text mark : List Char} (h : t.text? = some text)
    (hmark : Instant.IsUniversal mark) :
    Instant.read? (text ++ mark) = some (t.seconds.toInt, t.nanos.toInt) := by
  obtain ⟨i, hi, rfl⟩ := Option.map_eq_some_iff.mp h
  obtain ⟨hseconds, hnanos⟩ := toInstant?_spec hi
  rw [i.read?_text_append hmark, hseconds, hnanos]

/-- No two stamps have one text. -/
theorem eq_of_text? {t t' : Timestamp} {text : List Char} (h : t.text? = some text)
    (h' : t'.text? = some text) : t = t' := by
  have hread := read?_of_text? h (show Instant.IsUniversal ['Z'] from .inl rfl)
  rw [read?_of_text? h' (.inl rfl)] at hread
  obtain ⟨hseconds, hnanos⟩ := Prod.mk.inj (Option.some.inj hread)
  cases t
  cases t'
  rw [mk.injEq]
  exact ⟨(Int64.toInt_inj.mp hseconds).symm, (Int32.toInt_inj.mp hnanos).symm⟩

end Timestamp
end Telemetry
