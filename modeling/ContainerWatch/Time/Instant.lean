/-!
# Instants

A point in time of Coordinated Universal Time, in seconds since 1970-01-01T00:00:00 and a part of a
second in nanoseconds.  A leap second is the last second of its minute with a part of a full second
or more; both rules are fields of the type.  A part of a full second or more in any other second is no
instant here: it would share its text with an instant of the second after it.  `ofNanos` counts
nanoseconds from the same origin and loses nothing (`toNanos_ofNanos`).
-/

namespace ContainerWatch

/-- A point in time.  Leap seconds elsewhere than at the end of a minute, which a count of seconds and
nanoseconds could also stand for, are left out. -/
structure Instant where
  /-- whole seconds since 1970-01-01T00:00:00, rounded down -/
  seconds : Int
  /-- the part of the second, a full second or more inside a leap second -/
  nanos : Nat
  nanos_lt : nanos < 2000000000
  /-- the leap seconds that the type has are those at the end of a minute -/
  leap : 1000000000 ≤ nanos → seconds % 60 = 59
  deriving DecidableEq

namespace Instant

theorem ext {s t : Instant} (hs : s.seconds = t.seconds) (hn : s.nanos = t.nanos) : s = t := by
  cases s
  cases t
  simp_all

/-- The whole second at a number of seconds from the origin. -/
def ofSeconds (seconds : Int) : Instant :=
  ⟨seconds, 0, by omega, by omega⟩

/-- The instant with the given seconds and nanoseconds, if there is one. -/
def ofParts? (seconds : Int) (nanos : Nat) : Option Instant :=
  if h : nanos < 2000000000 ∧ (1000000000 ≤ nanos → seconds % 60 = 59) then
    some ⟨seconds, nanos, h.1, h.2⟩
  else none

/-- The instant at a number of nanoseconds from the origin, outside any leap second. -/
def ofNanos (nanos : Int) : Instant :=
  ⟨nanos / 1000000000, (nanos % 1000000000).toNat, by omega, by omega⟩

/-- The nanoseconds from the origin, those of a leap second counted as they stand. -/
def toNanos (t : Instant) : Int := t.seconds * 1000000000 + t.nanos

/-- The first and the last second for which the calendar is kept. -/
def earliest : Int := -8334601228800

@[inherit_doc earliest] def latest : Int := 8210266876799

/-- The whole second at a number of seconds from the origin, if the calendar is kept for it. -/
def ofSeconds? (seconds : Int) : Option Instant :=
  if earliest ≤ seconds ∧ seconds ≤ latest then some (ofSeconds seconds) else none

/-! ## Seconds and nanoseconds -/

theorem seconds_ofNanos (n : Int) : (ofNanos n).seconds = n / 1000000000 := rfl

theorem nanos_ofNanos_lt (n : Int) : (ofNanos n).nanos < 1000000000 := by
  simp only [ofNanos]
  omega

theorem toNanos_ofNanos (n : Int) : (ofNanos n).toNanos = n := by
  simp only [ofNanos, toNanos]
  omega

theorem ofSeconds?_eq_some_iff {s : Int} {t : Instant} :
    ofSeconds? s = some t ↔ (earliest ≤ s ∧ s ≤ latest) ∧ t = ofSeconds s := by
  simp only [ofSeconds?]
  split
  · rename_i h
    exact ⟨fun e => ⟨h, (Option.some.inj e).symm⟩, fun e => by rw [e.2]⟩
  · rename_i h
    exact ⟨fun e => by simp at e, fun e => absurd e.1 h⟩

end Instant

end ContainerWatch
