import ContainerWatch.Numeral
/-!
# Lengths of time

How long something was waited for, in nanoseconds, and its exact text: a numeral in the largest of
the units `s`, `ms`, `µs` and `ns` in which it is at least 1, with as many decimals as are needed
and no zero at their end.
-/

namespace ContainerWatch

/-- A length of time. -/
structure Wait where
  nanos : Nat
  deriving DecidableEq, Repr

namespace Wait

/-- The length of seconds and nanoseconds together, if the seconds then still fit eight bytes. -/
def ofParts? (seconds nanos : Nat) : Option Wait :=
  if seconds + nanos / 1000000000 ≤ Numeral.nat64Max then some ⟨seconds * 1000000000 + nanos⟩ else none

/-- Units of time: how many digits of nanoseconds they have, and their symbol. -/
inductive Scale
  | second
  | millisecond
  | microsecond
  | nanosecond
  deriving DecidableEq, Repr

/-- How many decimal digits of nanoseconds a unit has. -/
def Scale.digits : Scale → Nat
  | second => 9
  | millisecond => 6
  | microsecond => 3
  | nanosecond => 0

/-- The symbol of a unit. -/
def Scale.symbol : Scale → List Char
  | second => ['s']
  | millisecond => ['m', 's']
  | microsecond => ['µ', 's']
  | nanosecond => ['n', 's']

/-- The largest unit in which a length is at least 1, nanoseconds for none. -/
def scale (w : Wait) : Scale :=
  if 1000000000 ≤ w.nanos then .second
  else if 1000000 ≤ w.nanos then .millisecond
  else if 1000 ≤ w.nanos then .microsecond
  else .nanosecond

/-- A text without the zeros at its end. -/
def dropZeros (s : List Char) : List Char := (s.reverse.dropWhile (· == '0')).reverse

/-- The decimals that stand for a number of units of the given decimal place: a point and digits
without a zero at their end, or nothing for zero. -/
def decimals (places n : Nat) : List Char :=
  if n = 0 then [] else '.' :: dropZeros (Numeral.padded places n)

/-- The exact numeral of a length in a unit. -/
def numeral (w : Wait) (u : Scale) : List Char :=
  let unit := Nat.pow 10 u.digits
  Numeral.decimal (w.nanos / unit) ++ decimals u.digits (w.nanos % unit)

/-- A length of time as it is printed. -/
def text (w : Wait) : List Char := w.numeral w.scale ++ w.scale.symbol

end Wait

end ContainerWatch
