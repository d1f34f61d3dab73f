import ContainerWatch.Time.Date
/-!
# Day numbers and dates

A day number is recovered from the date that it names, over the whole proleptic calendar, so that no date
stands for two days, and the date is one that the calendar has.  The number of a date is found without a look
at the years and months before it, and yet it is their days all counted.

The calculation goes by eras of 400 years, which all have the same number of days, and by years that start in March, so
that the leap day comes last.  The calendar goes by years that start in January.  `toDays_eq` and `daysOfMonths_eq`
carry the one count over to the other.

Main statements: `toDays_ofDays`, `exists_ofDays`, `toDays_eq_count`.
-/

namespace ContainerWatch.Date

/-! ## Day numbers are recovered -/

/-- An era has the years from 0 to 399. -/
theorem yearOfEra_bounds {e : Int} (h0 : 0 ≤ e) (h1 : e < 146097) :
    0 ≤ yearOfEra e ∧ yearOfEra e ≤ 399 := by
  simp only [yearOfEra]
  have hc0 : 0 ≤ min (e / 36524) 3 := by omega
  have hd0 : 0 ≤ e - 36524 * min (e / 36524) 3 := by omega
  have hd1 : e - 36524 * min (e / 36524) 3 ≤ 36524 := by omega
  generalize e - 36524 * min (e / 36524) 3 = d at *
  omega

/-- A date with its month counted from January is the same day as with its month counted from March. -/
theorem toDays_eq {era year march day : Int} (hy0 : 0 ≤ year) (hy1 : year ≤ 399) (hm0 : 0 ≤ march)
    (hm1 : march ≤ 11) (hday : 0 ≤ day) {month : Int}
    (hmonth : month = if march < 10 then march + 3 else march - 9) :
    toDays ⟨era * 400 + year + (if month ≤ 2 then 1 else 0), month.toNat, day.toNat⟩ =
      era * eraDays + (daysBeforeYear year + daysBeforeMonth march + day - 1) - epochShift := by
  have hmonth0 : 0 ≤ month := by omega
  have hsmall : month.toNat ≤ 2 ↔ month ≤ 2 := by omega
  have hyear : (if month.toNat ≤ 2 then era * 400 + year + (if month ≤ 2 then 1 else 0) - 1
      else era * 400 + year + (if month ≤ 2 then 1 else 0)) = era * 400 + year := by
    split <;> split <;> omega
  have hmarch : ((month.toNat : Int) + 9) % 12 = march := by omega
  have hera : (era * 400 + year) / 400 = era := by omega
  have hofEra : (era * 400 + year) % 400 = year := by omega
  rw [toDays, hyear, hmarch, hera, hofEra, Int.toNat_of_nonneg hday]

/-- A day number is recovered from its date. -/
theorem toDays_ofDays (days : Int) : (ofDays days).toDays = days := by
  have he0 : 0 ≤ (days + epochShift) % eraDays := Int.emod_nonneg _ (by decide)
  have he1 : (days + epochShift) % eraDays < 146097 := Int.emod_lt_of_pos _ (by decide)
  have hsum := Int.mul_ediv_add_emod (days + epochShift) eraDays
  obtain ⟨hlo, hhi⟩ := dayOfYear_bounds he0 he1
  obtain ⟨hy0, hy1⟩ := yearOfEra_bounds he0 he1
  simp only [ofDays]
  generalize (days + epochShift) % eraDays = dayOfEra at *
  generalize hdoy : dayOfEra - daysBeforeYear (yearOfEra dayOfEra) = dayOfYear at *
  have hday : 0 ≤ dayOfYear - daysBeforeMonth ((5 * dayOfYear + 2) / 153) + 1 := by
    simp only [daysBeforeMonth]
    omega
  rw [toDays_eq hy0 hy1 (by omega) (by omega) hday rfl]
  simp only [eraDays] at *
  omega

/-- No date stands for two days. -/
theorem ofDays_injective {a b : Int} (h : ofDays a = ofDays b) : a = b := by
  rw [← toDays_ofDays a, h, toDays_ofDays b]

/-! ## Every day number names a day of the calendar -/

theorem isLeapYear_iff {year : Int} :
    isLeapYear year = true ↔ year % 4 = 0 ∧ (year % 100 ≠ 0 ∨ year % 400 = 0) := by
  simp [isLeapYear]

/-- The leap years of every era are the same. -/
theorem isLeapYear_era_add (era year : Int) : isLeapYear (era * 400 + year) = isLeapYear year := by
  have h4 : (era * 400 + year) % 4 = year % 4 := by omega
  have h100 : (era * 400 + year) % 100 = year % 100 := by omega
  have h400 : (era * 400 + year) % 400 = year % 400 := by omega
  rw [isLeapYear, isLeapYear, h4, h100, h400]

/-- A year that starts in March has a day 365 only when a leap day is its last one. -/
theorem isLeapYear_of_dayOfYear {e : Int} (h0 : 0 ≤ e) (h1 : e < 146097)
    (hday : e - daysBeforeYear (yearOfEra e) = 365) : isLeapYear (yearOfEra e + 1) = true := by
  rw [isLeapYear_iff]
  simp only [yearOfEra] at hday ⊢
  have hc0 : 0 ≤ min (e / 36524) 3 := by omega
  have hc3 : min (e / 36524) 3 ≤ 3 := by omega
  have hd0 : 0 ≤ e - 36524 * min (e / 36524) 3 := by omega
  have hd1 : e - 36524 * min (e / 36524) 3 ≤ 36524 := by omega
  -- only the last century of an era has a leap day in its last year
  have hd2 : min (e / 36524) 3 < 3 → e - 36524 * min (e / 36524) 3 < 36524 := by omega
  generalize min (e / 36524) 3 = century at *
  generalize hdayOfCentury : e - 36524 * century = dayOfCentury at *
  rw [daysBeforeYear_eq (by omega) (by omega) (by omega) (by omega)] at hday
  omega

/-- The months but February, which ends the year, are as long as the days before the next one say. -/
theorem daysInMonth_eq (year : Int) {march : Int} (h0 : 0 ≤ march) (h1 : march ≤ 10) :
    (daysInMonth year (if march < 10 then march + 3 else march - 9).toNat : Int) =
      daysBeforeMonth (march + 1) - daysBeforeMonth march := by
  have hcases : march = 0 ∨ march = 1 ∨ march = 2 ∨ march = 3 ∨ march = 4 ∨ march = 5 ∨ march = 6 ∨
      march = 7 ∨ march = 8 ∨ march = 9 ∨ march = 10 := by omega
  rcases hcases with rfl | rfl | rfl | rfl | rfl | rfl | rfl | rfl | rfl | rfl | rfl <;> rfl

theorem daysInMonth_february (year : Int) :
    daysInMonth year 2 = if isLeapYear year then 29 else 28 := rfl

/-- A day of a year that starts in March lies within its month. -/
theorem day_le_daysInMonth {year dayOfYear march : Int} (h0 : 0 ≤ dayOfYear) (h1 : dayOfYear ≤ 365)
    (hleap : dayOfYear = 365 → isLeapYear year = true) (hmarch : march = (5 * dayOfYear + 2) / 153) :
    (dayOfYear - daysBeforeMonth march + 1).toNat ≤
      daysInMonth year (if march < 10 then march + 3 else march - 9).toNat := by
  by_cases hfebruary : march = 11
  · have hbefore : daysBeforeMonth march = 337 := by rw [hfebruary]; rfl
    have hmonth : (if march < 10 then march + 3 else march - 9).toNat = 2 := by omega
    rw [hmonth, hbefore, daysInMonth_february]
    by_cases hlast : dayOfYear = 365
    · rw [if_pos (hleap hlast), hlast]
      decide
    · split <;> omega
  · have hlength := @daysInMonth_eq year march (by omega) (by omega)
    simp only [daysBeforeMonth] at hlength ⊢
    omega

/-- The date of a day number exists. -/
theorem exists_ofDays (days : Int) : (ofDays days).Exists := by
  obtain ⟨hmonth, hmonth', hday⟩ := month_day_bounds_ofDays days
  refine ⟨hmonth, hmonth', hday, ?_⟩
  have he0 : 0 ≤ (days + epochShift) % eraDays := Int.emod_nonneg _ (by decide)
  have he1 : (days + epochShift) % eraDays < 146097 := Int.emod_lt_of_pos _ (by decide)
  obtain ⟨hlo, hhi⟩ := dayOfYear_bounds he0 he1
  refine day_le_daysInMonth hlo hhi (fun hlast => ?_) rfl
  -- the day is in February, and so in the next year of the calendar
  have hfebruary : (if (if (5 * 365 + 2) / 153 < (10 : Int) then (5 * 365 + 2) / 153 + (3 : Int)
      else (5 * 365 + 2) / 153 - 9) ≤ 2 then (1 : Int) else 0) = 1 := rfl
  simp only [ofDays, hlast]
  rw [hfebruary, Int.add_assoc, isLeapYear_era_add]
  exact isLeapYear_of_dayOfYear he0 he1 hlast

/-! ## Counting the days -/

/-- The days from the first day of year 0 to the first day of a year, year by year. -/
def daysOfYears : Nat → Nat
  | 0 => 0
  | year + 1 => daysOfYears year + (if isLeapYear year then 366 else 365)

/-- The days of the first months of a year, month by month. -/
def daysOfMonths (year : Int) : Nat → Nat
  | 0 => 0
  | month + 1 => daysOfMonths year month + daysInMonth year (month + 1)

/-- The days from 1970-01-01 to a date from year 0 on, counted along the calendar. -/
def count (d : Date) : Int :=
  daysOfYears d.year.toNat + daysOfMonths d.year (d.month - 1) + d.day - (daysOfYears 1970 + 1)

/-- The leap days up to the end of a year, those before year 0 counted as negative. -/
def leapDays (year : Int) : Int := year / 4 - year / 100 + year / 400

/-- A leap year adds one to the leap days before it. -/
theorem leapDays_eq (year : Int) :
    leapDays year = leapDays (year - 1) + (if isLeapYear year then 1 else 0) := by
  simp only [leapDays]
  by_cases h : isLeapYear year
  · rw [if_pos h]
    rw [isLeapYear_iff] at h
    omega
  · rw [if_neg h]
    rw [isLeapYear_iff] at h
    omega

/-- The days of the years are 365 for each, and the leap days between. -/
theorem daysOfYears_eq (year : Nat) : (daysOfYears year : Int) = 365 * year + leapDays (year - 1) + 1 := by
  induction year with
  | zero => rfl
  | succ year ih =>
    have hleap := leapDays_eq year
    have hprevious : ((year + 1 : Nat) : Int) - 1 = year := by omega
    rw [daysOfYears, hprevious]
    by_cases h : isLeapYear year
    · rw [if_pos h] at hleap ⊢
      omega
    · rw [if_neg h] at hleap ⊢
      omega

/-- A year that starts in March has its months in the same order, but for the two at its end. -/
theorem daysOfMonths_eq (year : Int) {month : Nat} (h1 : 1 ≤ month) (h12 : month ≤ 12) :
    (daysOfMonths year (month - 1) : Int) = daysBeforeMonth ((month + 9) % 12) +
      (if month ≤ 2 then -306 else 59 + (if isLeapYear year then 1 else 0)) := by
  have hcases : month = 1 ∨ month = 2 ∨ month = 3 ∨ month = 4 ∨ month = 5 ∨ month = 6 ∨ month = 7 ∨
      month = 8 ∨ month = 9 ∨ month = 10 ∨ month = 11 ∨ month = 12 := by omega
  by_cases hleap : isLeapYear year
  · rcases hcases with rfl | rfl | rfl | rfl | rfl | rfl | rfl | rfl | rfl | rfl | rfl | rfl <;>
      simp [daysOfMonths, daysInMonth, daysBeforeMonth, hleap]
  · rcases hcases with rfl | rfl | rfl | rfl | rfl | rfl | rfl | rfl | rfl | rfl | rfl | rfl <;>
      simp [daysOfMonths, daysInMonth, daysBeforeMonth, hleap]

/-- The days of whole eras and the rest of an era are those of the years. -/
theorem era_add_daysBeforeYear (year : Int) :
    year / 400 * eraDays + daysBeforeYear (year % 400) = 365 * year + leapDays year := by
  simp only [eraDays, daysBeforeYear, leapDays]
  omega

/-- The number of a day is its count along the calendar.  This is what the number means; the reader computes it in
another way. -/
theorem toDays_eq_count {d : Date} (h : d.Exists) (hyear : 0 ≤ d.year) : d.toDays = d.count := by
  obtain ⟨h1, h12, -, -⟩ := h
  have hmonths := daysOfMonths_eq d.year h1 h12
  have hyears := daysOfYears_eq d.year.toNat
  have hleap := leapDays_eq d.year
  have h1970 : (daysOfYears 1970 : Int) = 719528 := daysOfYears_eq 1970
  rw [Int.toNat_of_nonneg hyear] at hyears
  simp only [toDays, count]
  by_cases hmonth : d.month ≤ 2
  · have hera := era_add_daysBeforeYear (d.year - 1)
    rw [if_pos hmonth] at hmonths ⊢
    simp only [epochShift]
    omega
  · have hera := era_add_daysBeforeYear d.year
    rw [if_neg hmonth] at hmonths ⊢
    simp only [epochShift]
    omega

end ContainerWatch.Date
