import ContainerWatch.Container.Inspected
import ContainerWatch.Proofs.Time.Calendar
import ContainerWatch.Proofs.Time.Grammar
/-!
# The instants that the engine's texts name

A timestamp names an instant when the calendar has its day and the clock can show its time.  The instant is
the local time less the offset, with the days counted along the calendar, and second 60 is second 59 with a
full second more.  The engine's texts are read as the instants that they name, in whatever spelling, but for
one instant, which is nothing in every spelling.

An instant is named in two steps, each of which stands beside a step of the reader: the text spells a timestamp
(`Timestamp.Spells`), and the timestamp denotes the instant (`Timestamp.Denotes`).  The days are counted here along the
calendar, year by year and month by month, and not as the reader computes them.

Main statement: `engineTime?_names`.
-/

namespace ContainerWatch

namespace Timestamp

/-- The instant of a local time: days, hours, minutes and seconds less the offset. -/
structure Denotes (w : Timestamp) (t : Instant) : Prop where
  date : w.wall.date.Exists
  hour : w.wall.hour ≤ 23
  minute : w.wall.minute ≤ 59
  second : w.wall.second ≤ 60
  seconds : t.seconds = w.wall.date.count * 86400 + w.wall.hour * 3600 + w.wall.minute * 60 +
    (min w.wall.second 59 : Nat) - w.offset * 60
  /-- second 60 is kept as a full second after second 59 -/
  nanos : t.nanos = (if w.wall.second = 60 then 1000000000 else 0) + w.wall.fraction

/-- What calendar and clock can show has an instant. -/
theorem exists_instant? {w : Timestamp} (h : w.Shown) :
    ∃ t, w.instant? = some t ∧ t.seconds = w.minutes * 60 + (min w.wall.second 59 : Nat) ∧
      t.nanos = (if w.wall.second = 60 then 1000000000 else 0) + w.wall.fraction := by
  have hsecond := h.2.2.2.1
  rw [instant?, dif_pos h]
  by_cases h60 : w.wall.second = 60
  · rw [dif_pos h60, if_pos h60, h60]
    exact ⟨_, rfl, rfl, rfl⟩
  · have hmin : min w.wall.second 59 = w.wall.second := by omega
    rw [dif_neg h60, if_neg h60, hmin, Nat.zero_add]
    exact ⟨_, rfl, rfl, rfl⟩

/-- The instant of a timestamp is the one that it denotes, for the years and parts of a second that can be written. -/
theorem instant?_eq_some_iff {w : Timestamp} (hyear : 0 ≤ w.wall.date.year)
    (hfraction : w.wall.fraction < 1000000000) {t : Instant} : w.instant? = some t ↔ w.Denotes t := by
  constructor
  · intro h
    have hshown : w.Shown := (isSome_instant?_iff w).1 (by rw [h]; rfl)
    obtain ⟨u, hu, hseconds, hnanos⟩ := exists_instant? hshown
    rw [h] at hu
    cases hu
    obtain ⟨hdate, hhour, hminute, hsecond, -⟩ := hshown
    -- the reader computes the number of the day, the instant is defined by its count
    refine ⟨hdate, hhour, hminute, hsecond, ?_, hnanos⟩
    rw [hseconds, minutes, Date.toDays_eq_count hdate hyear]
    omega
  · rintro ⟨hdate, hhour, hminute, hsecond, hseconds, hnanos⟩
    obtain ⟨u, hu, huseconds, hunanos⟩ := exists_instant? ⟨hdate, hhour, hminute, hsecond, hfraction⟩
    rw [minutes, Date.toDays_eq_count hdate hyear] at huseconds
    have hut : u = t := Instant.ext (by omega) (hunanos.trans hnanos.symm)
    rw [hu, hut]

/-- A part of a second is less than a second, however many digits it is written with. -/
theorem IsFraction.lt {fs : List Char} {n : Nat} (h : IsFraction fs n) : n < 1000000000 := by
  cases h with
  | absent => decide
  | digits _ hdigits =>
    refine Nat.div_lt_of_lt_mul ?_
    exact (Nat.mul_lt_mul_right (by decide)).2 (Numeral.ofDigitChars_lt_pow hdigits)

/-- A written year is not negative, and a written part of a second is less than a second. -/
theorem Spells.bounds {s : List Char} {w : Timestamp} (h : Spells s w) :
    0 ≤ w.wall.date.year ∧ w.wall.fraction < 1000000000 := by
  cases h with
  | mk _ _ _ _ _ _ _ hfraction => exact ⟨Int.natCast_nonneg _, hfraction.lt⟩

end Timestamp

/-! ## Names of instants -/

/-- A text spells a timestamp that denotes the instant.  An instant has many names, with other offsets, marks and
zeros at the end. -/
def Instant.NamedBy (t : Instant) (s : String) : Prop :=
  ∃ w, Timestamp.Spells s.toList w ∧ w.Denotes t

/-- A text is read as the instant that it names. -/
theorem Instant.ofRfc3339?_eq_some_iff {s : String} {t : Instant} :
    ofRfc3339? s = some t ↔ t.NamedBy s := by
  rw [ofRfc3339?, Option.bind_eq_some_iff]
  constructor
  · rintro ⟨w, hread, hinstant⟩
    have hspells := Timestamp.read?_eq_some_iff.1 hread
    obtain ⟨hyear, hfraction⟩ := hspells.bounds
    exact ⟨w, hspells, (Timestamp.instant?_eq_some_iff hyear hfraction).1 hinstant⟩
  · rintro ⟨w, hspells, hdenotes⟩
    obtain ⟨hyear, hfraction⟩ := hspells.bounds
    exact ⟨w, Timestamp.read?_eq_some_iff.2 hspells,
      (Timestamp.instant?_eq_some_iff hyear hfraction).2 hdenotes⟩

/-- The name of an instant is read as the instant, and a name of the zero time as nothing. -/
theorem engineTime?_of_namedBy {s : String} {t : Instant} (h : t.NamedBy s) :
    engineTime? s = if t = engineZero then none else some t := by
  rw [engineTime?, Instant.ofRfc3339?_eq_some_iff.2 h, Option.filter_some]
  by_cases hzero : t = engineZero
  · simp [hzero]
  · simp [hzero]

theorem namedBy_of_engineTime? {s : String} {t : Instant} (h : engineTime? s = some t) :
    t.NamedBy s ∧ t ≠ engineZero := by
  obtain ⟨hread, hne⟩ := Option.filter_eq_some_iff.1 h
  exact ⟨Instant.ofRfc3339?_eq_some_iff.1 hread, of_decide_eq_true hne⟩

theorem engineTime?_eq_none_iff {s : String} :
    engineTime? s = none ↔ (∀ t : Instant, ¬ t.NamedBy s) ∨ engineZero.NamedBy s := by
  constructor
  · intro h
    by_cases hnamed : ∃ t : Instant, t.NamedBy s
    · obtain ⟨t, ht⟩ := hnamed
      rw [engineTime?_of_namedBy ht] at h
      split at h
      · rename_i hzero
        exact Or.inr (hzero ▸ ht)
      · cases h
    · exact Or.inl fun t ht => hnamed ⟨t, ht⟩
  · rintro (hnone | hzero)
    · refine Option.eq_none_iff_forall_ne_some.2 fun t h => ?_
      exact hnone t (namedBy_of_engineTime? h).1
    · rw [engineTime?_of_namedBy hzero, if_pos rfl]

/-- A text is read as the instant that it names, and as nothing when it names none or the first instant of
year 1; so how an instant is spelled does not count. -/
theorem engineTime?_names :
    (∀ (s : String) (t : Instant), engineTime? s = some t ↔ t.NamedBy s ∧ t ≠ engineZero) ∧
    (∀ s : String, engineTime? s = none ↔ (∀ t : Instant, ¬ t.NamedBy s) ∨ engineZero.NamedBy s) ∧
    (∀ (s s' : String) (t : Instant), t.NamedBy s → t.NamedBy s' → engineTime? s = engineTime? s') ∧
    engineZero.seconds = (Date.mk 1 1 1).count * 86400 ∧ engineZero.nanos = 0 := by
  refine ⟨fun s t => ⟨namedBy_of_engineTime?, ?_⟩, fun s => engineTime?_eq_none_iff, ?_, ?_, rfl⟩
  · rintro ⟨hnamed, hne⟩
    rw [engineTime?_of_namedBy hnamed, if_neg hne]
  · intro s s' t h h'
    rw [engineTime?_of_namedBy h, engineTime?_of_namedBy h']
  · rw [← Date.toDays_eq_count (by decide) (by decide)]
    rfl

/-- The zero time is nothing in other years and with digits after the ninth, a leap second is the same at
another offset, with another mark and more zeros, and the nanosecond after the zero time is an instant. -/
theorem engineTime?_spellings :
    engineTime? "0000-12-31t23:30:00.0000000009-00:30" = none ∧
      engineTime? "2024-02-29 23:59:60.25-01:00" = engineTime? "2024-03-01T00:59:60.250000000z" ∧
      (engineTime? "0001-01-01T00:00:00.000000001Z").isSome ∧
      engineTime? "2023-02-29T00:00:00Z" = none := by
  obtain ⟨hsome, hnone, hsame, -⟩ := engineTime?_names
  have hnamed {s : String} {t : Instant} (h : Instant.ofRfc3339? s = some t) : t.NamedBy s :=
    Instant.ofRfc3339?_eq_some_iff.1 h
  refine ⟨?_, ?_, ?_, ?_⟩
  · exact (hnone _).2 (Or.inr (hnamed (by decide)))
  · exact hsame _ _ ⟨1709254799, 1250000000, by decide, by decide⟩ (hnamed (by decide)) (hnamed (by decide))
  · rw [(hsome _ ⟨-62135596800, 1, by decide, by decide⟩).2 ⟨hnamed (by decide), by decide⟩]
    rfl
  · have hread : Instant.ofRfc3339? "2023-02-29T00:00:00Z" = none := by decide
    refine (hnone _).2 (Or.inl fun t ht => ?_)
    rw [← Instant.ofRfc3339?_eq_some_iff, hread] at ht
    cases ht

end ContainerWatch
