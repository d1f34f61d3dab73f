import ContainerWatch.Proofs.Time.EngineTime
import ContainerWatch.Proofs.Time.Written
/-!
# Written times are read back

What is printed for an instant is a timestamp but for its end: the name of the time scale stands where a
timestamp has `Z`.  The parts of the timestamp are those that calendar and clock show, second 60 included, and
they make the instant again.

The years are those that four digits can write.  A year outside of them is printed with a sign, which no timestamp has.

Main statement: `engineTime?_stem`, a time of the years from 0 to 9999 is read back, but for the engine's zero
time.
-/

namespace ContainerWatch

open Numeral

/-- The written time without the name of its scale. -/
def Moment.stem (m : Moment) : List Char := dateText m.date ++ ' ' :: clockText m

/-- The printed instant without the name of its time scale. -/
def Instant.stem (t : Instant) : String := String.ofList (Moment.ofInstant t).stem

theorem Instant.text_eq_stem_append (t : Instant) : t.text = t.stem ++ " UTC" := by
  rw [text, stem, Moment.text, ← Moment.stem, String.ofList_append, String.ofList_toList]

namespace Timestamp

/-! ## Printed times are spelled as the grammar says -/

theorem isNumber_padded {width n : Nat} (hwidth : 0 < width) (hn : n < Nat.pow 10 width) :
    IsNumber width n (padded width n) where
  length := length_padded hwidth hn
  isDigit _ := isDigit_of_mem_padded
  value := (natural?_eq_some_iff.1 (natural?_padded width n)).2.2

/-- The printed part of a second stands for the nanoseconds that it was printed for. -/
theorem isFraction_fractionText {f : Nat} (hf : f < 1000000000) :
    IsFraction (Moment.fractionText f) f := by
  by_cases h0 : f = 0
  · rw [h0]
    exact .absent
  · obtain ⟨width, n, hwidth, hwidth9, hvalue, htext⟩ := Moment.fractionText_of_ne_zero h0
    have hnumber := isNumber_padded hwidth (Moment.lt_pow_of_mul_lt hwidth9 (hvalue ▸ hf))
    have hne : padded width n ≠ [] := List.append_ne_nil_of_right_ne_nil _ (decimal_ne_nil n)
    have hpow : Nat.pow 10 (9 - width) * Nat.pow 10 width = 1000000000 := pow_ten_sub_mul hwidth9
    have hdigits := IsFraction.digits hne hnumber.isDigit
    rw [hnumber.value, hnumber.length, ← hpow, ← Nat.mul_assoc, Nat.mul_div_cancel _ (pow_ten_pos width),
      ← hvalue] at hdigits
    rw [htext]
    exact hdigits

/-- A printed time of the years from 0 to 9999 spells what calendar and clock show. -/
theorem spells_stem {m : Moment} (hyear : 0 ≤ m.date.year) (hyear' : m.date.year ≤ 9999)
    (h : Shown ⟨m, 0⟩) : Spells (m.stem ++ ['Z']) ⟨m, 0⟩ := by
  obtain ⟨⟨hmonth, hmonth', hday, hday'⟩, hhour, hminute, hsecond, hfraction⟩ := h
  have hdays := Date.daysInMonth_le m.date.year m.date.month
  simp only at hmonth hmonth' hday hday' hhour hminute hsecond hfraction
  have htext : m.stem ++ ['Z'] = padded 4 m.date.year.toNat ++ '-' :: (padded 2 m.date.month ++
      '-' :: (padded 2 m.date.day ++ ' ' :: (padded 2 m.hour ++ ':' :: (padded 2 m.minute ++
      ':' :: (padded 2 m.second ++ (Moment.fractionText m.fraction ++ ['Z'])))))) := by
    simp [Moment.stem, Moment.dateText, Moment.clockText, Moment.yearText, hyear, hyear']
  have hfour : m.date.year.toNat < Nat.pow 10 4 := show m.date.year.toNat < 10000 by omega
  have htwo {n : Nat} (hn : n < 100) : IsNumber 2 n (padded 2 n) := isNumber_padded (by decide) hn
  have hspells := Spells.mk (isNumber_padded (by decide) hfour) (htwo (show m.date.month < 100 by omega))
    (htwo (show m.date.day < 100 by omega)) (Or.inr (Or.inr rfl)) (htwo (show m.hour < 100 by omega))
    (htwo (show m.minute < 100 by omega)) (htwo (show m.second < 100 by omega))
    (isFraction_fractionText hfraction) (IsOffset.zulu (Or.inl rfl))
  rw [Int.toNat_of_nonneg hyear] at hspells
  rw [htext]
  exact hspells

/-! ## The instant of what is shown -/

/-- Calendar and clock show only what they can show. -/
theorem shown_ofInstant (t : Instant) : Shown ⟨Moment.ofInstant t, 0⟩ := by
  have hsecond := Moment.second_ofInstant_le t
  have hfraction := Moment.fraction_ofInstant_lt t
  refine ⟨Date.exists_ofDays _, ?_, ?_, hsecond, hfraction⟩
  · simp only [Moment.ofInstant]
    omega
  · simp only [Moment.ofInstant]
    omega

/-- Calendar and clock show a leap second as second 60 and every other second as it is. -/
theorem second_fraction_ofInstant (t : Instant) :
    (1000000000 ≤ t.nanos ∧ (Moment.ofInstant t).second = 60 ∧
      1000000000 + (Moment.ofInstant t).fraction = t.nanos) ∨
    (t.nanos < 1000000000 ∧ ((Moment.ofInstant t).second : Int) = t.seconds % 60 ∧
      (Moment.ofInstant t).fraction = t.nanos) := by
  have hnanos := t.nanos_lt
  have hleap := t.leap
  simp only [Moment.ofInstant]
  omega

theorem minutes_ofInstant (t : Instant) : minutes ⟨Moment.ofInstant t, 0⟩ = t.seconds / 60 := by
  have hdays := Date.toDays_ofDays (t.seconds / 86400)
  simp only [minutes, Moment.ofInstant, hdays]
  omega

/-- What calendar and clock show makes the instant again. -/
theorem instant?_ofInstant (t : Instant) : instant? ⟨Moment.ofInstant t, 0⟩ = some t := by
  obtain ⟨u, hu, hseconds, hnanos⟩ := exists_instant? (shown_ofInstant t)
  rw [hu]
  simp only [minutes_ofInstant] at hseconds hnanos
  have hleap := t.leap
  obtain ⟨hlong, hsixty, hfraction⟩ | ⟨hshort, hplain, hfraction⟩ := second_fraction_ofInstant t
  · have hlast := hleap hlong
    rw [hsixty] at hseconds
    rw [if_pos hsixty, hfraction] at hnanos
    exact congrArg some (Instant.ext (by omega) hnanos)
  · have hne : (Moment.ofInstant t).second ≠ 60 := by omega
    rw [if_neg hne, hfraction, Nat.zero_add] at hnanos
    exact congrArg some (Instant.ext (by omega) hnanos)

end Timestamp

/-! ## Reading back -/

/-- The year that the calendar shows at an instant. -/
def Instant.year (t : Instant) : Int := (Moment.ofInstant t).date.year

/-- A day lies in a year of its era of 400 years, or in the first year of the next one. -/
theorem Date.year_ofDays_bounds (days : Int) :
    (days + epochShift) / eraDays * 400 ≤ (ofDays days).year ∧
      (ofDays days).year ≤ (days + epochShift) / eraDays * 400 + 400 := by
  have he0 : 0 ≤ (days + epochShift) % eraDays := Int.emod_nonneg _ (by decide)
  have he1 : (days + epochShift) % eraDays < 146097 := Int.emod_lt_of_pos _ (by decide)
  obtain ⟨hy0, hy1⟩ := yearOfEra_bounds he0 he1
  simp only [ofDays]
  constructor
  · split <;> omega
  · split <;> omega

/-- The nanoseconds that fit eight bytes reach from the year 1600 to the year 2800 at most. -/
theorem Instant.year_ofNanos_bounds {n : Int} (hmin : int64Min ≤ n) (hmax : n ≤ int64Max) :
    1600 ≤ (ofNanos n).year ∧ (ofNanos n).year ≤ 2800 := by
  obtain ⟨hlow, hhigh⟩ := Date.year_ofDays_bounds ((ofNanos n).seconds / 86400)
  simp only [int64Min, int64Max] at hmin hmax
  simp only [year, Moment.ofInstant, seconds_ofNanos, Date.epochShift, Date.eraDays] at hlow hhigh ⊢
  omega

/-- A printed time is read back, but for the engine's zero time. -/
theorem engineTime?_stem {t : Instant} (h0 : 0 ≤ t.year) (h1 : t.year ≤ 9999) :
    engineTime? (t.stem ++ "Z") = if t = engineZero then none else some t := by
  have htext : (t.stem ++ "Z").toList = (Moment.ofInstant t).stem ++ ['Z'] := by
    rw [String.toList_append, Instant.stem, String.toList_ofList]
    rfl
  have hspells := Timestamp.spells_stem h0 h1 (Timestamp.shown_ofInstant t)
  rw [← htext] at hspells
  refine engineTime?_of_namedBy (Instant.ofRfc3339?_eq_some_iff.1 ?_)
  rw [Instant.ofRfc3339?, Timestamp.read?_eq_some_iff.2 hspells, Option.bind_some,
    Timestamp.instant?_ofInstant]

/-- The engine's zero time is in the year 1. -/
theorem year_engineZero : engineZero.year = 1 := by decide

example : engineZero.text = "0001-01-01 00:00:00 UTC" := by decide

end ContainerWatch
