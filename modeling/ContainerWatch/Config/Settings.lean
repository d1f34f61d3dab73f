import ContainerWatch.Failure.Layers
/-!
# Settings

What the program can be told in its configuration: how to reach the engine, how many events may wait
to be reported, and what is logged and where to.  Every setting has a default.
-/

namespace ContainerWatch

/-- How the engine is reached and watched. -/
structure EngineSettings where
  /-- the socket of the engine, none for the one of the surroundings -/
  socketPath : Option String := none
  timeoutSecs : Nat := 120
  /-- how many change events may wait to be reported -/
  eventBuffer : Nat := 128
  deriving DecidableEq, Repr, Inhabited

/-- What is logged and where to. -/
structure TelemetrySettings where
  /-- whether logs and traces are exported -/
  enabled : Bool := false
  logLevel : String := "info"
  /-- the modules whose lines are turned off -/
  excludedModules : List String := ["hyper", "h2"]
  serviceName : String := "dockerapi"
  otlpEndpoint : String := "http://localhost:4317"
  deriving DecidableEq, Repr, Inhabited

/-- The settings of the program. -/
structure Config where
  docker : EngineSettings := {}
  telemetry : TelemetrySettings := {}
  deriving DecidableEq, Repr, Inhabited

namespace Config

/-- Why there are no settings. -/
inductive Error where
  /-- the file cannot be read -/
  | unreadable (cause : Layers)
  /-- the file does not hold settings -/
  | malformed (cause : Layers)
  /-- the settings contradict a rule -/
  | invalid (reason : String)
  deriving DecidableEq, Repr

namespace Error

/-- The text of a failure. -/
def message : Error → String
  | unreadable cause => "Failed to open config file: " ++ cause.text
  | malformed cause => "Failed to parse YAML: " ++ cause.text
  | invalid reason => "Invalid configuration: " ++ reason

/-- The code of a failure. -/
def code : Error → String
  | unreadable _ => "F100"
  | malformed _ => "F101"
  | invalid _ => "F102"

/-- The texts of the causes, outermost first: the error of the system or of the reader, and what is behind it. -/
def sources : Error → List String
  | unreadable cause | malformed cause => cause.texts
  | invalid _ => []

end Error

/-- The rule that a buffer of events has room. -/
def emptyBuffer : Error := .invalid "docker.event_buffer must be greater than zero"

/-- Refuses settings without room for events. -/
def validate (c : Config) : Except Error Config :=
  if c.docker.eventBuffer = 0 then .error emptyBuffer else .ok c

theorem validate_eq_ok_iff {c d : Config} :
    c.validate = .ok d ↔ c.docker.eventBuffer ≠ 0 ∧ d = c := by
  by_cases h : c.docker.eventBuffer = 0
  · simp [validate, h]
  · simp [validate, h, eq_comm]

end Config

end ContainerWatch
