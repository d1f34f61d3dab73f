import ContainerWatch.Time.Instant
/-!
# Container health

The result of the most recent health check of a container.
-/

namespace ContainerWatch

/-- The verdict of a health check. -/
inductive HealthStatus where
  | unknown
  | healthy
  | unhealthy
  deriving DecidableEq, Repr

namespace HealthStatus

instance : Inhabited HealthStatus := ⟨unknown⟩

/-- The name under which a verdict is reported. -/
def name : HealthStatus → String
  | unknown => "UNKNOWN"
  | healthy => "HEALTHY"
  | unhealthy => "UNHEALTHY"

theorem name_injective {a b : HealthStatus} (h : a.name = b.name) : a = b := by
  cases a <;> cases b <;> simp_all [name]

end HealthStatus

/-- The result of the most recent health check. -/
structure Health where
  status : HealthStatus := .unknown
  /-- when the verdict was first seen -/
  since : Option Instant := none
  /-- the exit code of the check -/
  exitCode : Option Int := none
  /-- the output of the check -/
  output : Option String := none
  deriving DecidableEq, Inhabited

end ContainerWatch
