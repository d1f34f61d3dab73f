import ContainerWatch.Text.Split
/-!
# Log lines

A log line has a level, the module that it comes from (its target), a message and named values.  A
threshold admits the levels up to one, or none at all.
-/

namespace ContainerWatch.Log

/-- How much a line matters, the most important level first. -/
inductive Level where
  | error
  | warn
  | info
  | debug
  | trace
  deriving DecidableEq, Repr

namespace Level

/-- The place of a level, counted from the most important one. -/
def rank : Level → Nat
  | error => 1
  | warn => 2
  | info => 3
  | debug => 4
  | trace => 5

/-- The name of a level. -/
def name : Level → String
  | error => "ERROR"
  | warn => "WARN"
  | info => "INFO"
  | debug => "DEBUG"
  | trace => "TRACE"

end Level

/-- The least important level that is still admitted, none when nothing is. -/
abbrev Threshold := Option Level

namespace Threshold

/-- Whether lines of a level pass. -/
def admits : Threshold → Level → Bool
  | none, _ => false
  | some limit, level => level.rank ≤ limit.rank

/-- The name of a threshold. -/
def name (t : Threshold) : String := (t.map Level.name).getD "OFF"

end Threshold

/-- A line of the log. -/
structure Line where
  level : Level
  /-- the module that the line comes from -/
  target : String
  message : String
  /-- named values after the message -/
  fields : List (String × String) := []
  deriving DecidableEq, Repr

/-- A line as it is written. -/
def Line.text (l : Line) : String :=
  Text.join " " ((l.level.name ++ " " ++ l.target ++ ": " ++ l.message)
    :: l.fields.map fun field => field.1 ++ "=" ++ field.2)

end ContainerWatch.Log
