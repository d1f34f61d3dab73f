import ContainerWatch.Container.Health
import ContainerWatch.Container.Port
import ContainerWatch.Container.Volume
import ContainerWatch.Failure.Transition
/-!
# Container metadata

Everything that was observed about a container at one time.  When the last operation on it failed, the
other fields are what is known at best and not its actual state.
-/

namespace ContainerWatch

/-- What was observed about a container. -/
structure Metadata where
  /-- the identifier that the engine gave to the container -/
  dockerId : String := ""
  /-- given once the container has exited, zero included -/
  exitCode : Option Int := none
  portBindings : List PortBinding := []
  /-- why the last operation failed, if it did -/
  error : Option Transition := none
  volumes : List Volume := []
  labels : Dictionary := .empty
  createdAt : Option Instant := none
  startedAt : Option Instant := none
  finishedAt : Option Instant := none
  health : Health := {}
  networkMode : String := ""
  networkSettings : Option Engine.NetworkSettings := none
  deriving DecidableEq, Inhabited

namespace Metadata

/-- What is known of a container of which only the identifier is known. -/
def ofId (id : String) : Metadata := { dockerId := id }

/-- What is known of a container after an operation that failed before anything was seen. -/
def ofError (error : Transition) : Metadata := { error := some error }

/-- Whether the fields are the container's actual state. -/
def isAuthoritative (m : Metadata) : Bool := m.error.isNone

/-- Whether the container has exited. -/
def hasExited (m : Metadata) : Bool := m.exitCode.isSome

end Metadata

end ContainerWatch
