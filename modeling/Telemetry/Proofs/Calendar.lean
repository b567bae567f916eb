import Mathlib.Tactic
import Telemetry.Calendar

/-!
# Day numbers in the Gregorian calendar

The calendar as it is taught: the lengths of the months and the rule for leap years. The number of a date
counts the days before it by these lengths. It is zero on the first of January 1970, and `Date.ofDay` gives
for every number a date of the calendar that has it.
-/
namespace Telemetry.Date

/-- Every fourth year is a leap year, but of the last years of the centuries only every fourth. -/
def isLeap (year : Int) : Bool := year % 4 = 0 ∧ (year % 100 = 0 → year % 400 = 0)

def daysIn (leap : Bool) (month : Nat) : Nat :=
  if month = 2 then if leap then 29 else 28
  else if month = 4 ∨ month = 6 ∨ month = 9 ∨ month = 11 then 30
  else 31

def daysInYear (leap : Bool) : Nat := if leap then 366 else 365

structure Valid (d : Date) : Prop where
  month_pos : 1 ≤ d.month
  month_le : d.month ≤ 12
  day_pos : 1 ≤ d.day
  day_le : d.day ≤ daysIn (isLeap d.year) d.month

instance (d : Date) : Decidable d.Valid :=
  decidable_of_iff ((1 ≤ d.month ∧ d.month ≤ 12) ∧ 1 ≤ d.day ∧ d.day ≤ daysIn (isLeap d.year) d.month)
    ⟨fun h => ⟨h.1.1, h.1.2, h.2.1, h.2.2⟩,
      fun h => ⟨⟨h.month_pos, h.month_le⟩, h.day_pos, h.day_le⟩⟩

/-- The days of a year before one of its months. -/
def daysBeforeMonth (leap : Bool) (month : Nat) : Nat :=
  ((List.range' 1 (month - 1)).map (daysIn leap)).sum

/-- The days from the first of January 1970 to the first of January of a year. -/
def daysBeforeYear (year : Int) : Int :=
  365 * (year - 1970) + ((year - 1) / 4 - (year - 1) / 100 + (year - 1) / 400) -
    (1969 / 4 - 1969 / 100 + 1969 / 400)

/-- The days from the first of January 1970 to a date. -/
def dayNumber (d : Date) : Int :=
  daysBeforeYear d.year + daysBeforeMonth (isLeap d.year) d.month + (d.day - 1)

theorem daysBeforeYear_succ (year : Int) :
    daysBeforeYear (year + 1) = daysBeforeYear year + daysInYear (isLeap year) := by
  simp only [daysBeforeYear, daysInYear, isLeap, decide_eq_true_eq]
  by_cases hleap : year % 4 = 0 ∧ (year % 100 = 0 → year % 400 = 0)
  · rw [if_pos hleap]
    omega
  · rw [if_neg hleap]
    omega

example : dayNumber ⟨1970, 1, 1⟩ = 0 := by decide

/-- The date so many days after the first of March of a year. -/
def fromMarch (year : Int) (days : Nat) : Date :=
  let month := (5 * days + 2) / 153
  { year := if month < 10 then year else year + 1
    month := if month < 10 then month + 3 else month - 9
    day := days - (153 * month + 2) / 5 + 1 }

/-- The days of a year before its first of March are those that the months from March on leave. -/
theorem daysBeforeMonth_of_lt_ten (leap : Bool) {month : Nat} (h : month < 10) :
    daysBeforeMonth leap (month + 3) + 306 =
      (153 * month + 2) / 5 + daysInYear leap := by
  have hall : ∀ leap, ∀ month < 10, daysBeforeMonth leap (month + 3) + 306 =
      (153 * month + 2) / 5 + daysInYear leap := by decide
  exact hall leap month h

theorem daysIn_of_lt_ten (leap : Bool) {month : Nat} (h : month < 10) :
    (153 * month + 2) / 5 + daysIn leap (month + 3) = (153 * (month + 1) + 2) / 5 := by
  have hall : ∀ leap, ∀ month < 10,
      (153 * month + 2) / 5 + daysIn leap (month + 3) = (153 * (month + 1) + 2) / 5 := by decide
  exact hall leap month h

theorem dayNumber_fromMarch (year : Int) {days : Nat} (h : days ≤ 365) :
    (fromMarch year days).dayNumber = daysBeforeYear (year + 1) - 306 + days := by
  obtain ⟨month, hmonth⟩ : ∃ month, (5 * days + 2) / 153 = month := ⟨_, rfl⟩
  simp only [fromMarch, hmonth]
  by_cases hlt : month < 10
  · have hbefore := daysBeforeMonth_of_lt_ten (isLeap year) hlt
    simp only [dayNumber, if_pos hlt, daysBeforeYear_succ]
    omega
  · have hbefore : ∀ leap, daysBeforeMonth leap 1 = 0 ∧ daysBeforeMonth leap 2 = 31 := by decide
    obtain rfl | rfl : month = 10 ∨ month = 11 := by omega
    · simp only [dayNumber, if_neg hlt, (hbefore _).1]
      omega
    · simp only [dayNumber, if_neg hlt, (hbefore _).2]
      omega

theorem valid_fromMarch (year : Int) {days : Nat} (h : days ≤ 365)
    (hleap : days = 365 → isLeap (year + 1) = true) : (fromMarch year days).Valid := by
  obtain ⟨month, hmonth⟩ : ∃ month, (5 * days + 2) / 153 = month := ⟨_, rfl⟩
  by_cases hlt : month < 10
  · have hdays := daysIn_of_lt_ten (isLeap year) hlt
    constructor <;> simp only [fromMarch, hmonth, if_pos hlt] <;> omega
  · obtain rfl | rfl : month = 10 ∨ month = 11 := by omega
    · have hdays : ∀ leap, daysIn leap 1 = 31 := by decide
      constructor <;> simp only [fromMarch, hmonth, if_neg hlt, Nat.reduceSub, hdays] <;> omega
    · have hdays : ∀ leap, daysIn leap 2 = if leap then 29 else 28 := by decide
      constructor <;> simp only [fromMarch, hmonth, if_neg hlt, Nat.reduceSub, hdays] <;> try omega
      split
      · omega
      · next hcommon =>
        have : days ≠ 365 := fun hlast => hcommon (hleap hlast)
        omega

/-- Days of an era by centuries, by four years and by years, each counted from March. Only the last of the
parts can be longer than the others, by its leap day. -/
theorem exists_daysOfEra {n : Nat} (h : n < 146097) :
    ∃ centuries fours years days, n = 36524 * centuries + 1461 * fours + 365 * years + days ∧
      centuries ≤ 3 ∧ fours ≤ 24 ∧ years ≤ 3 ∧ days ≤ 365 ∧
      (days = 365 → years = 3 ∧ (fours = 24 → centuries = 3)) := by
  obtain ⟨c, hc⟩ : ∃ c, min (n / 36524) 3 = c := ⟨_, rfl⟩
  obtain ⟨m, hm⟩ : ∃ m, n - 36524 * c = m := ⟨_, rfl⟩
  refine ⟨c, m / 1461, min (m % 1461 / 365) 3, m % 1461 - 365 * min (m % 1461 / 365) 3, ?_⟩
  omega

theorem yearOfEra_eq {n centuries fours years days : Nat}
    (hn : n = 36524 * centuries + 1461 * fours + 365 * years + days)
    (hcenturies : centuries ≤ 3) (hfours : fours ≤ 24) (hyears : years ≤ 3) (hdays : days ≤ 365)
    (hleap : days = 365 → years = 3 ∧ (fours = 24 → centuries = 3)) :
    (n - n / 1460 + n / 36524 - n / 146096) / 365 = 100 * centuries + 4 * fours + years := by
  rcases Nat.lt_or_ge n 146096 with hlt | hge
  · have hera : n / 146096 = 0 := Nat.div_eq_of_lt hlt
    have hcentury : n / 36524 = centuries := by omega
    rw [hera, hcentury]
    omega
  · -- The last day of an era.
    obtain rfl : n = 146096 := by omega
    obtain ⟨rfl, rfl, rfl⟩ : centuries = 3 ∧ fours = 24 ∧ years = 3 := by omega
    rfl

theorem dayOfYear_eq {n centuries fours years days : Nat}
    (hn : n = 36524 * centuries + 1461 * fours + 365 * years + days)
    (hfours : fours ≤ 24) (hyears : years ≤ 3) :
    n - (365 * (100 * centuries + 4 * fours + years) + (100 * centuries + 4 * fours + years) / 4 -
      (100 * centuries + 4 * fours + years) / 100) = days := by
  have hquarter : (100 * centuries + 4 * fours + years) / 4 = 25 * centuries + fours := by omega
  have hcentury : (100 * centuries + 4 * fours + years) / 100 = centuries := by omega
  omega

theorem daysBeforeYear_of_era (era : Int) {centuries fours years : Nat} (hcenturies : centuries ≤ 3)
    (hfours : fours ≤ 24) (hyears : years ≤ 3) :
    daysBeforeYear (era * 400 + (100 * centuries + 4 * fours + years : Nat) + 1) =
      146097 * era + (36524 * centuries + 1461 * fours + 365 * years) - epoch + 306 := by
  obtain ⟨year, hyear⟩ : ∃ year, era * 400 + ((100 * centuries + 4 * fours + years : Nat) : Int) = year :=
    ⟨_, rfl⟩
  have hquarter : year / 4 = 100 * era + (25 * centuries + fours) := by omega
  have hcentury : year / 100 = 4 * era + centuries := by omega
  have hera : year / 400 = era := by omega
  rw [hyear, daysBeforeYear, epoch, add_sub_cancel_right, hquarter, hcentury, hera, ← hyear]
  push_cast
  ring

/-- Every date of a day number is so many days after a first of March. -/
theorem exists_ofDay_eq_fromMarch (day : Int) :
    ∃ year days, ofDay day = fromMarch year days ∧ days ≤ 365 ∧
      (days = 365 → isLeap (year + 1) = true) ∧ daysBeforeYear (year + 1) - 306 + days = day := by
  obtain ⟨era, hera⟩ : ∃ era, (day + epoch) / 146097 = era := ⟨_, rfl⟩
  obtain ⟨n, hn⟩ : ∃ n, ((day + epoch) % 146097).toNat = n := ⟨_, rfl⟩
  obtain ⟨c, q, r, days, hparts, hc, hq, hr, hdays, hleap⟩ := exists_daysOfEra (n := n) (by omega)
  refine ⟨era * 400 + (100 * c + 4 * q + r : Nat), days, ?_, hdays, fun hlast => ?_, ?_⟩
  · simp only [ofDay, fromMarch, hera, hn, yearOfEra_eq hparts hc hq hr hdays hleap,
      dayOfYear_eq hparts hq hr]
  · obtain ⟨rfl, hcentury⟩ := hleap hlast
    simp only [isLeap, decide_eq_true_eq]
    omega
  · rw [daysBeforeYear_of_era era hc hq hr]
    omega

/-- The date of a day number is one of the calendar. -/
theorem valid_ofDay (day : Int) : (ofDay day).Valid := by
  obtain ⟨year, days, heq, hdays, hleap, -⟩ := exists_ofDay_eq_fromMarch day
  rw [heq]
  exact valid_fromMarch year hdays hleap

/-- The date of a day number has that number. -/
theorem dayNumber_ofDay (day : Int) : (ofDay day).dayNumber = day := by
  obtain ⟨year, days, heq, hdays, -, hday⟩ := exists_ofDay_eq_fromMarch day
  rw [heq, dayNumber_fromMarch year hdays, hday]

end Telemetry.Date
