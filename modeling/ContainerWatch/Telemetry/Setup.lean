import ContainerWatch.Config.Settings
import ContainerWatch.Log.Filter
import ContainerWatch.Telemetry.Endpoint
/-!
# Setting up the log

The filter that the telemetry settings ask for, and the ways in which setting up the log fails.  The
directives are checked before the endpoint, and the endpoint only when export is enabled.  A log can be
set up once only.
-/

namespace ContainerWatch.Telemetry

open Log

/-- Why the log cannot be set up. -/
inductive Error where
  /-- a module cannot be turned off -/
  | directive (text : String) (fault : Directive.Fault)
  /-- logs cannot be exported to the endpoint -/
  | endpoint (address : String) (fault : Endpoint.Fault)
  /-- there is a log already -/
  | installed
  deriving DecidableEq, Repr

/-- The text of a failure. -/
def Error.message : Error → String
  | directive text _ => "Invalid log directive '" ++ text ++ "'"
  | endpoint address fault =>
    "Failed to create log exporter: invalid URI " ++ address ++ ". Reason " ++ fault.message
  | installed => "Installing tracing subscriber"

/-- The texts of the causes, outermost first. -/
def Error.sources : Error → List String
  | directive _ fault => fault.chain
  | endpoint _ _ => []
  | installed => ["a global default trace dispatcher has already been set"]

/-- The filter that a level text asks for, with some modules turned off. -/
def filter (logLevel : String) (excluded : List String) : Except Error Filter :=
  ((Filter.ofText logLevel).turnOff excluded).mapError fun e => .directive e.1 e.2

/-- Checks the endpoint when there is something to export to it. -/
def checkEndpoint (s : TelemetrySettings) : Except Error Unit :=
  if s.enabled then (Endpoint.check s.otlpEndpoint).mapError (.endpoint s.otlpEndpoint) else .ok ()

/-- Sets up the log.  A log that is there already is noticed last. -/
def setUp (s : TelemetrySettings) (present : Bool) : Except Error Filter := do
  let f ← filter s.logLevel s.excludedModules
  checkEndpoint s
  if present then .error .installed else .ok f

end ContainerWatch.Telemetry
