import Telemetry.Decimal
import Telemetry.Message

/-!
# Dates and times of day

The proleptic Gregorian calendar by day numbers, and instants with leap seconds. Years are counted from
March, so that the day added in a leap year is the last one; 400 years are 146097 days.
-/
namespace Telemetry

structure Date where
  year : Int
  month : Nat
  day : Nat
  deriving DecidableEq

namespace Date

/-- The days from the first of March of the year zero to the first of January 1970. -/
def epoch : Int := 719468

/-- The date that lies so many days after the first of January 1970. -/
def ofDay (day : Int) : Date :=
  let n := day + epoch
  let dayOfEra := (n % 146097).toNat
  let yearOfEra := (dayOfEra - dayOfEra / 1460 + dayOfEra / 36524 - dayOfEra / 146096) / 365
  let dayOfYear := dayOfEra - (365 * yearOfEra + yearOfEra / 4 - yearOfEra / 100)
  let month := (5 * dayOfYear + 2) / 153
  let year := n / 146097 * 400 + yearOfEra
  { year := if month < 10 then year else year + 1
    month := if month < 10 then month + 3 else month - 9
    day := dayOfYear - (153 * month + 2) / 5 + 1 }

/-- The year with at least four digits, and with a sign outside of four digits. -/
def yearText (year : Int) : List Char :=
  let ds := Decimal.padded 4 year.natAbs
  if year < 0 then '-' :: ds else if 9999 < year then '+' :: ds else ds

def text (d : Date) : List Char :=
  yearText d.year ++ '-' :: (Decimal.padded 2 d.month ++ '-' :: Decimal.padded 2 d.day)

end Date

/-- A point in time. Nanoseconds from one second on stand for a leap second, which only the last second
of a minute can have. -/
structure Instant where
  seconds : Int
  nanos : Nat
  inRange : -8334601228800 ≤ seconds ∧ seconds ≤ 8210266876799
  nanosValid : nanos < 1000000000 ∨ nanos < 2 * 1000000000 ∧ seconds % 60 = 59
  deriving DecidableEq

namespace Instant

def date (t : Instant) : Date := .ofDay (t.seconds / 86400)

def secondOfDay (t : Instant) : Nat := (t.seconds % 86400).toNat

/-- The second of the minute, sixty for a leap second. -/
def second (t : Instant) : Nat :=
  t.secondOfDay % 60 + if t.nanos < 1000000000 then 0 else 1

/-- A point and as many digits as the nanoseconds need, in threes. -/
def fractionText (nanos : Nat) : List Char :=
  if nanos = 0 then []
  else if nanos % 1000000 = 0 then '.' :: Decimal.padded 3 (nanos / 1000000)
  else if nanos % 1000 = 0 then '.' :: Decimal.padded 6 (nanos / 1000)
  else '.' :: Decimal.padded 9 nanos

def timeText (t : Instant) : List Char :=
  Decimal.padded 2 (t.secondOfDay / 3600) ++ ':' ::
    (Decimal.padded 2 (t.secondOfDay / 60 % 60) ++ ':' ::
      (Decimal.padded 2 t.second ++ fractionText (t.nanos % 1000000000)))

/-- Date and time in universal time, before the mark of the offset. -/
def text (t : Instant) : List Char := t.date.text ++ 'T' :: t.timeText

end Instant

/-- The point in time of a stamp, if it is one. -/
def Timestamp.toInstant? (t : Timestamp) : Option Instant :=
  if h : (0 ≤ t.nanos.toInt ∧ (-8334601228800 ≤ t.seconds.toInt ∧ t.seconds.toInt ≤ 8210266876799)) ∧
      (t.nanos.toInt.toNat < 1000000000 ∨
        t.nanos.toInt.toNat < 2 * 1000000000 ∧ t.seconds.toInt % 60 = 59) then
    some ⟨t.seconds.toInt, t.nanos.toInt.toNat, h.1.2, h.2⟩
  else none

end Telemetry
