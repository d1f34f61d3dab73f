import ContainerWatch.Container.Metadata
import ContainerWatch.Container.Status
import ContainerWatch.Text.Split
import ContainerWatch.Time.Clock
/-!
# Change events

A change of a container's state, and the line in which it is reported.  The line is a list of
segments `Label: value` with a comma and a space between neighbours.  Status, identifier and health
always have a segment; what is absent or empty has none, while an exit code of zero has one.
-/

namespace ContainerWatch

/-- A change of a container's state. -/
structure ChangeEvent where
  status : Status := .none
  metadata : Metadata := {}
  type : EventType := .container
  deriving DecidableEq, Inhabited

namespace ChangeEvent

/-- A part of the line: what it is about, and what is said. -/
structure Segment where
  label : String
  value : String
  deriving DecidableEq, Repr

/-- A segment as it is printed. -/
def Segment.text (s : Segment) : String := s.label ++ ": " ++ s.value

/-- Items in brackets with spaces between them. -/
def bracketed (items : List String) : String := "[" ++ Text.join " " items ++ "]"

/-- The labels of a container, in the order of their keys. -/
def labelsText (labels : Dictionary) : String :=
  "map" ++ bracketed (labels.entries.map fun entry => entry.1 ++ ":" ++ entry.2)

/-- A segment for a list, none when it is empty. -/
def listSegment {α : Type} (label : String) (text : List α → String) (items : List α) : List Segment :=
  if items.isEmpty then [] else [⟨label, text items⟩]

/-- A segment for a value that may be absent. -/
def optionSegment {α : Type} (label : String) (text : α → String) (value : Option α) : List Segment :=
  (value.map fun v => ⟨label, text v⟩).toList

/-- An integer as it is printed. -/
def integerText (n : Int) : String := String.ofList (Numeral.decimalInt n)

/-- The segments of the line in their order. -/
def segments (e : ChangeEvent) : List Segment :=
  let m := e.metadata
  [⟨"Status", e.status.name⟩, ⟨"DockerID", m.dockerId⟩, ⟨"health", m.health.status.name⟩]
    ++ optionSegment "ExitCode" integerText m.exitCode
    ++ listSegment "PortBindings" (fun bs => bracketed (bs.map PortBinding.text)) m.portBindings
    ++ optionSegment "Error" Transition.message m.error
    ++ listSegment "Volumes" (fun vs => bracketed (vs.map Volume.text)) m.volumes
    ++ (if m.labels.isEmpty then [] else [⟨"Labels", labelsText m.labels⟩])
    ++ optionSegment "CreatedAt" Instant.text m.createdAt
    ++ optionSegment "StartedAt" Instant.text m.startedAt
    ++ optionSegment "FinishedAt" Instant.text m.finishedAt

/-- The line in which a change is reported. -/
def text (e : ChangeEvent) : String := Text.join ", " (e.segments.map Segment.text)

end ChangeEvent

end ContainerWatch
