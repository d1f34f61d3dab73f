import ContainerWatch.Engine.Inspection
/-!
# Volumes

A volume or a directory of the host that is mounted in a container.
-/

namespace ContainerWatch

/-- A volume or a directory of the host that is mounted in a container. -/
structure Volume where
  name : Option String := none
  source : String := ""
  destination : String := ""
  driver : Option String := none
  mode : String := ""
  readWrite : Bool := true
  deriving DecidableEq, Inhabited

namespace Volume

/-- A volume as it is printed, marked when it cannot be written. -/
def text (v : Volume) : String :=
  v.source ++ ":" ++ v.destination ++ (if v.readWrite then "" else ":ro")

/-- The volume of a mount in the engine's record.  An empty name or driver counts as none, and what
the record does not say is empty, except that a mount can be written unless the record says no. -/
def ofMount (m : Engine.Mount) : Volume where
  name := m.name.filter (· != "")
  source := m.source.getD ""
  destination := m.destination.getD ""
  driver := m.driver.filter (· != "")
  mode := m.mode.getD ""
  readWrite := m.readWrite.getD true

end Volume

end ContainerWatch
