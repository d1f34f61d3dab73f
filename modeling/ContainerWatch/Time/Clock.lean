import ContainerWatch.Numeral
import ContainerWatch.Time.Date
import ContainerWatch.Time.Instant
/-!
# Instants on calendar and clock

An instant read off a calendar and a clock: date, hour, minute, second and part of the second
(`Moment`).  A leap second shows as second 60.  The printed form is
`YYYY-MM-DD HH:MM:SS[.fraction] UTC`: years from 0 to 9999 have four digits and others a sign and
four digits or more; the fraction is left out when it is zero and else has the fewest of 3, 6 and 9
digits that are exact.
-/

namespace ContainerWatch

/-- What calendar and clock show at an instant. -/
structure Moment where
  date : Date
  hour : Nat
  minute : Nat
  second : Nat
  /-- the part of the second in nanoseconds -/
  fraction : Nat
  deriving DecidableEq, Repr

namespace Moment

/-- What calendar and clock show at an instant. -/
def ofInstant (t : Instant) : Moment :=
  let secondOfDay := (t.seconds % 86400).toNat
  { date := Date.ofDays (t.seconds / 86400)
    hour := secondOfDay / 3600
    minute := secondOfDay / 60 % 60
    second := secondOfDay % 60 + t.nanos / 1000000000
    fraction := t.nanos % 1000000000 }

/-- A year: four digits, with a sign outside the years 0 to 9999. -/
def yearText (year : Int) : List Char :=
  if 0 ≤ year ∧ year ≤ 9999 then Numeral.padded 4 year.toNat
  else (if year < 0 then '-' else '+') :: Numeral.padded 4 year.natAbs

/-- A date as `YYYY-MM-DD`. -/
def dateText (d : Date) : List Char :=
  yearText d.year ++ '-' :: Numeral.padded 2 d.month ++ '-' :: Numeral.padded 2 d.day

/-- A part of a second: nothing, or a point and the fewest of 3, 6 and 9 digits that are exact. -/
def fractionText (nanos : Nat) : List Char :=
  if nanos = 0 then []
  else if nanos % 1000000 = 0 then '.' :: Numeral.padded 3 (nanos / 1000000)
  else if nanos % 1000 = 0 then '.' :: Numeral.padded 6 (nanos / 1000)
  else '.' :: Numeral.padded 9 nanos

/-- A time of day as `HH:MM:SS[.fraction]`. -/
def clockText (m : Moment) : List Char :=
  Numeral.padded 2 m.hour ++ ':' :: Numeral.padded 2 m.minute ++ ':' :: Numeral.padded 2 m.second
    ++ fractionText m.fraction

/-- A moment as date, time of day and the name of the time scale. -/
def text (m : Moment) : List Char := dateText m.date ++ ' ' :: clockText m ++ " UTC".toList

end Moment

/-- An instant as it is printed. -/
def Instant.text (t : Instant) : String := String.ofList (Moment.ofInstant t).text

/-- The whole seconds, including a leap second, show in the second of the clock. -/
theorem Moment.second_ofInstant_le (t : Instant) : (Moment.ofInstant t).second ≤ 60 := by
  have hn := t.nanos_lt
  have hleap := t.leap
  simp only [Moment.ofInstant]
  by_cases h : 1000000000 ≤ t.nanos
  · have h59 := hleap h
    omega
  · omega

end ContainerWatch
