import ContainerWatch.Time.Clock
/-!
# Timestamps of RFC 3339

A timestamp is a date and a time of day at a place whose clocks are ahead of Coordinated Universal
Time by an offset.  `Timestamp.read?` reads the written form: `YYYY-MM-DD`, then `T`, `t` or one
space, then `HH:MM:SS`, then perhaps a point and digits, of which those after the ninth are dropped,
then `Z`, `z` or a sign and `HH:MM`.  The digit counts are exact, digits are ASCII and nothing stands
around the timestamp.  `Timestamp.instant?` gives the instant when the day exists and the clock can
show the time, second 60 being a leap second at the end of any minute.
-/

namespace ContainerWatch

/-- A local date and time with the offset of the local clocks. -/
structure Timestamp where
  wall : Moment
  /-- how far the local clocks are ahead, in minutes -/
  offset : Int
  deriving DecidableEq, Repr

namespace Timestamp

/-! ## Reading -/

/-- A number written with exactly so many decimal digits, and what follows it. -/
def digits? (count : Nat) (s : List Char) : Option (Nat × List Char) :=
  if (s.take count).length = count then
    (Numeral.natural? (s.take count)).map fun n => (n, s.drop count)
  else none

/-- What follows a character that has to stand at the front. -/
def after? (accepted : Char → Bool) : List Char → Option (List Char)
  | [] => none
  | c :: rest => if accepted c then some rest else none

/-- The nanoseconds that a run of fraction digits stands for, those after the ninth dropped. -/
def fractionValue (digits : List Char) : Nat :=
  let kept := digits.take 9
  (Numeral.natural? kept).getD 0 * Nat.pow 10 (9 - kept.length)

/-- A point and digits if there is a point, and what follows. -/
def fraction? : List Char → Option (Nat × List Char)
  | '.' :: rest =>
    let digits := rest.takeWhile Char.isDigit
    if digits.isEmpty then none else some (fractionValue digits, rest.dropWhile Char.isDigit)
  | s => some (0, s)

/-- The sign of an offset; the minus sign may be the hyphen or the mathematical one. -/
def offsetSign? (c : Char) : Option Int :=
  if c = '+' then some 1 else if c = '-' ∨ c = '\u2212' then some (-1) else none

/-- An offset that ends the text: `Z`, or a sign, hours up to 23 and minutes up to 59. -/
def offset? : List Char → Option Int
  | [] => none
  | c :: rest =>
    if c = 'Z' ∨ c = 'z' then (if rest.isEmpty then some 0 else none)
    else do
      let sign ← offsetSign? c
      let (hours, rest) ← digits? 2 rest
      let rest ← after? (· == ':') rest
      let (minutes, rest) ← digits? 2 rest
      if rest.isEmpty && hours ≤ 23 && minutes ≤ 59 then some (sign * (hours * 60 + minutes)) else none

/-- A timestamp that is the whole text. -/
def read? (s : List Char) : Option Timestamp := do
  let (year, s) ← digits? 4 s
  let s ← after? (· == '-') s
  let (month, s) ← digits? 2 s
  let s ← after? (· == '-') s
  let (day, s) ← digits? 2 s
  let s ← after? (fun c => c == 'T' || c == 't' || c == ' ') s
  let (hour, s) ← digits? 2 s
  let s ← after? (· == ':') s
  let (minute, s) ← digits? 2 s
  let s ← after? (· == ':') s
  let (second, s) ← digits? 2 s
  let (fraction, s) ← fraction? s
  let offset ← offset? s
  some ⟨⟨⟨year, month, day⟩, hour, minute, second, fraction⟩, offset⟩

/-! ## The instant of a timestamp -/

/-- Whether calendar and clock can show the local time. -/
def Shown (t : Timestamp) : Prop :=
  t.wall.date.Exists ∧ t.wall.hour ≤ 23 ∧ t.wall.minute ≤ 59 ∧ t.wall.second ≤ 60 ∧
    t.wall.fraction < 1000000000

instance (t : Timestamp) : Decidable t.Shown := by unfold Shown; infer_instance

/-- The minutes from 1970-01-01T00:00 to the minute of a timestamp, in universal time. -/
def minutes (t : Timestamp) : Int :=
  t.wall.date.toDays * 1440 + t.wall.hour * 60 + t.wall.minute - t.offset

/-- The instant of a timestamp, if calendar and clock can show it. -/
def instant? (t : Timestamp) : Option Instant :=
  if h : t.Shown then
    if second60 : t.wall.second = 60 then
      some ⟨t.minutes * 60 + 59, 1000000000 + t.wall.fraction, by have := h.2.2.2.2; omega,
        by omega⟩
    else
      some ⟨t.minutes * 60 + t.wall.second, t.wall.fraction, by have := h.2.2.2.2; omega,
        by have := h.2.2.2.2; omega⟩
  else none

/-- A timestamp has an instant exactly when calendar and clock can show it. -/
theorem isSome_instant?_iff (t : Timestamp) : t.instant?.isSome ↔ t.Shown := by
  simp only [instant?]
  by_cases h : t.Shown
  · simp only [h, dite_true, iff_true]
    split <;> rfl
  · simp [h]

end Timestamp

/-- The instant that a text names as a timestamp. -/
def Instant.ofRfc3339? (s : String) : Option Instant :=
  (Timestamp.read? s.toList).bind Timestamp.instant?

end ContainerWatch
