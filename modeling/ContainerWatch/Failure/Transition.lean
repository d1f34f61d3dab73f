import ContainerWatch.Failure.Layers
import ContainerWatch.Time.Wait
/-!
# Failed transitions

Why the engine did not bring a container, or a volume of it, into the state that was asked for.  Each
reason has a code and a stable name; the message is free text.  A failure built from a cause takes the
cause's text as its message and keeps the cause, with all that is behind it.
-/

namespace ContainerWatch

/-- The reasons for which a transition fails. -/
inductive TransitionKind where
  | cannotPullContainer
  | cannotCreateContainer
  | cannotStartContainer
  | cannotStopContainer
  | cannotInspectContainer
  | cannotRemoveContainer
  | cannotListContainers
  | timeout
  | outOfMemory
  | networking
  | cannotCreateVolume
  | cannotInspectVolume
  deriving DecidableEq, Repr

namespace TransitionKind

/-- The stable name of a reason. -/
def name : TransitionKind → String
  | cannotPullContainer => "CannotPullContainerError"
  | cannotCreateContainer => "CannotCreateContainerError"
  | cannotStartContainer => "CannotStartContainerError"
  | cannotStopContainer => "CannotStopContainerError"
  | cannotInspectContainer => "CannotInspectContainerError"
  | cannotRemoveContainer => "CannotRemoveContainerError"
  | cannotListContainers => "CannotListContainersError"
  | timeout => "DockerTimeoutError"
  | outOfMemory => "OutOfMemoryError"
  | networking => "ContainerNetworkingError"
  | cannotCreateVolume => "CannotCreateVolumeError"
  | cannotInspectVolume => "CannotInspectVolumeError"

/-- The code of a reason. -/
def code : TransitionKind → String
  | cannotPullContainer => "T100"
  | cannotCreateContainer => "T101"
  | cannotStartContainer => "T102"
  | cannotStopContainer => "T103"
  | cannotInspectContainer => "T104"
  | cannotRemoveContainer => "T105"
  | cannotListContainers => "T106"
  | timeout => "T107"
  | outOfMemory => "T108"
  | networking => "T109"
  | cannotCreateVolume => "T110"
  | cannotInspectVolume => "T111"

end TransitionKind

/-- A transition that failed. -/
structure Transition where
  kind : TransitionKind
  message : String
  /-- the error that the failure was built from, if it was built from one -/
  source : Option Layers := none
  deriving DecidableEq

namespace Transition

/-- The failure with a cause, whose text is its message too. -/
def ofCause (kind : TransitionKind) (cause : Layers) : Transition := ⟨kind, cause.text, some cause⟩

/-- The text of the cause, if there is one. -/
def cause (t : Transition) : Option String := t.source.map Layers.text

/-- The message about a transition that was waited for in vain. -/
def timeoutMessage (transition : String) (waited : Wait) : String :=
  "Could not transition to " ++ transition ++ "; timed out after waiting " ++ String.ofList waited.text

/-- The failure of a transition that was waited for in vain. -/
def timedOut (transition : String) (waited : Wait) : Transition :=
  ⟨.timeout, timeoutMessage transition waited, none⟩

/-- The texts of the causes, outermost first: the cause, and what is behind it. -/
def sources (t : Transition) : List String := (t.source.map Layers.texts).getD []

end Transition

end ContainerWatch
