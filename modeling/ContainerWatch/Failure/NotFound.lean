/-!
# Containers that are not found

The failure to find a container of a task by its name.
-/

namespace ContainerWatch

/-- A container that its task does not have. -/
structure NotFound where
  /-- the resource name of the task -/
  taskArn : String := ""
  containerName : String := ""
  deriving DecidableEq, Inhabited

namespace NotFound

/-- The text of the failure. -/
def message (e : NotFound) : String :=
  "Could not find container '" ++ e.containerName ++ "' in task '" ++ e.taskArn ++ "'"

/-- The code of the failure. -/
def code : String := "C100"

end NotFound

end ContainerWatch
