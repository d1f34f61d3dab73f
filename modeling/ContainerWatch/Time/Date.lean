/-!
# Calendar dates

The proleptic Gregorian calendar.  A date is named by year, month and day, and counted by the days
since 1970-01-01.  Counting starts the year in March, so that the leap day is the last day of its
year, and works in eras of 400 years, which all have 146097 days.

Main statement: `Date.month_day_bounds_ofDays`, a day number always names a month from 1 to 12 and
a day of at least 1.
-/

namespace ContainerWatch

/-- A day of the calendar. -/
structure Date where
  year : Int
  month : Nat
  day : Nat
  deriving DecidableEq, Repr

namespace Date

/-- The Gregorian leap years: every fourth, but of the full centuries every fourth only. -/
def isLeapYear (year : Int) : Bool :=
  year % 4 == 0 && (year % 100 != 0 || year % 400 == 0)

/-- How many days a month has in a year. -/
def daysInMonth (year : Int) (month : Nat) : Nat :=
  match month with
  | 2 => if isLeapYear year then 29 else 28
  | 4 | 6 | 9 | 11 => 30
  | _ => 31

/-- Whether the calendar has the day. -/
def Exists (d : Date) : Prop :=
  1 ≤ d.month ∧ d.month ≤ 12 ∧ 1 ≤ d.day ∧ d.day ≤ daysInMonth d.year d.month

instance (d : Date) : Decidable d.Exists := by unfold Exists; infer_instance

/-- The days in an era of 400 years. -/
def eraDays : Int := 146097

/-- The days from the start of an era to 1970-01-01, counted over whole eras. -/
def epochShift : Int := 719468

/-- The days from 1 March to the first day of a month, months counted from March as zero. -/
def daysBeforeMonth (marchMonth : Int) : Int := (153 * marchMonth + 2) / 5

/-- The days from the start of an era to 1 March of a year of it. -/
def daysBeforeYear (yearOfEra : Int) : Int := 365 * yearOfEra + yearOfEra / 4 - yearOfEra / 100

/-- The days from 1970-01-01 to a date, negative for earlier ones. -/
def toDays (d : Date) : Int :=
  let year := if d.month ≤ 2 then d.year - 1 else d.year
  let marchMonth : Int := (d.month + 9) % 12
  let dayOfEra := daysBeforeYear (year % 400) + daysBeforeMonth marchMonth + d.day - 1
  year / 400 * eraDays + dayOfEra - epochShift

/-- The year of its era that a day of the era belongs to, years starting in March.  A century has
36524 days and its four-year groups 1461; the leap day that ends an era or a group belongs to the
year before it. -/
def yearOfEra (dayOfEra : Int) : Int :=
  let century := min (dayOfEra / 36524) 3
  let dayOfCentury := dayOfEra - 36524 * century
  let group := dayOfCentury / 1461
  let dayOfGroup := dayOfCentury - 1461 * group
  100 * century + 4 * group + min (dayOfGroup / 365) 3

/-- The date that is a number of days after 1970-01-01. -/
def ofDays (days : Int) : Date :=
  let shifted := days + epochShift
  let dayOfEra := shifted % eraDays
  let year := yearOfEra dayOfEra
  let dayOfYear := dayOfEra - daysBeforeYear year
  let marchMonth := (5 * dayOfYear + 2) / 153
  let month := if marchMonth < 10 then marchMonth + 3 else marchMonth - 9
  { year := shifted / eraDays * 400 + year + (if month ≤ 2 then 1 else 0)
    month := month.toNat
    day := (dayOfYear - daysBeforeMonth marchMonth + 1).toNat }

/-! ## Bounds -/

theorem daysInMonth_le (year : Int) (month : Nat) : daysInMonth year month ≤ 31 := by
  unfold daysInMonth
  split
  · split <;> omega
  all_goals omega

/-- The days before a year, in terms of its century, its four-year group and its place there. -/
theorem daysBeforeYear_eq {c q y : Int} (hq0 : 0 ≤ q) (hq1 : q ≤ 24) (hy0 : 0 ≤ y) (hy1 : y ≤ 3) :
    daysBeforeYear (100 * c + 4 * q + y) = 36524 * c + 1461 * q + 365 * y := by
  have h4 : (100 * c + 4 * q + y) / 4 = 25 * c + q := by omega
  have h100 : (100 * c + 4 * q + y) / 100 = c := by omega
  rw [daysBeforeYear, h4, h100]
  omega

/-- The day of the year lies between 0 and 365, years starting in March. -/
theorem dayOfYear_bounds {e : Int} (h0 : 0 ≤ e) (h1 : e < 146097) :
    0 ≤ e - daysBeforeYear (yearOfEra e) ∧ e - daysBeforeYear (yearOfEra e) ≤ 365 := by
  unfold yearOfEra
  have hc0 : 0 ≤ min (e / 36524) 3 := by omega
  have hd0 : 0 ≤ e - 36524 * min (e / 36524) 3 := by omega
  have hd1 : e - 36524 * min (e / 36524) 3 ≤ 36524 := by omega
  generalize e - 36524 * min (e / 36524) 3 = d at *
  rw [daysBeforeYear_eq (by omega) (by omega) (by omega) (by omega)]
  omega

/-- A day number names a month of the calendar and a day of at least 1. -/
theorem month_day_bounds_ofDays (days : Int) :
    1 ≤ (ofDays days).month ∧ (ofDays days).month ≤ 12 ∧ 1 ≤ (ofDays days).day := by
  have h0 : 0 ≤ (days + epochShift) % eraDays := Int.emod_nonneg _ (by decide)
  have h1 : (days + epochShift) % eraDays < 146097 := Int.emod_lt_of_pos _ (by decide)
  obtain ⟨hlo, hhi⟩ := dayOfYear_bounds h0 h1
  simp only [ofDays, daysBeforeMonth]
  generalize (days + epochShift) % eraDays -
    daysBeforeYear (yearOfEra ((days + epochShift) % eraDays)) = doy at hlo hhi ⊢
  split <;> omega

end Date

end ContainerWatch
