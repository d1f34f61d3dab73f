import ContainerWatch.Failure.Layers
import ContainerWatch.Numeral
/-!
# Failures of the engine

A request to the engine, or the reading of its stream, can fail in the engine's client, in what the client is
built on, and in the system below.  So a failure of the engine is any error, with any errors behind it.  Those that
the client makes up itself have a text of their own and nothing behind them.
-/

namespace ContainerWatch.Engine

/-- A failed request, or a failed reading of the stream. -/
structure Error where
  message : String
  /-- the texts of the errors behind it, the nearest first -/
  behind : List String := []
  deriving DecidableEq, Repr

namespace Error

/-- A failure as it is read. -/
def layers (e : Error) : Layers := ⟨e.message, e.behind⟩

/-! ## Failures of the client itself -/

/-- No answer came in time. -/
def requestTimeout : Error := ⟨"Timeout error", []⟩

/-- The engine answered with a status that is no success. -/
def server (statusCode : UInt16) (message : String) : Error :=
  ⟨"Docker responded with status code " ++ String.ofList (Numeral.decimal statusCode.toNat) ++ ": " ++ message, []⟩

/-- What came is no message. -/
def jsonData (message : String) : Error := ⟨"Failed to deserialize JSON: " ++ message, []⟩

/-- The version of the engine cannot be read. -/
def apiVersion : Error := ⟨"Failed to parse API version", []⟩

/-- The stream broke off. -/
def stream : Error := ⟨"Docker stream error", []⟩

/-- Waiting for a container ended with an exit code, which is not told. -/
def wait (_code : Int) : Error := ⟨"Docker container wait error", []⟩

/-- The address is of a kind that cannot be connected to. -/
def scheme (message : String) : Error := ⟨"URI scheme is not supported: " ++ message, []⟩

/-- There is no socket at the path. -/
def socketNotFound (path : String) : Error := ⟨"Socket not found: " ++ path, []⟩

/-- The system failed. -/
def io (message : String) : Error := ⟨message, []⟩

end Error

/-- How the engine's client says what went wrong, where neither the engine nor the system says it. -/
structure Client where
  /-- there is no answer, or none that can be read -/
  unanswered : Error := .stream
  /-- a line of the stream is no message -/
  notMessage : String → Error := .jsonData

end ContainerWatch.Engine
