/-!
# Container status

The statuses of a container's life in their order, and what a change event is about.  A status is
terminal when the container will not run again; the terminal statuses are the two highest ones.
-/

namespace ContainerWatch

/-- The statuses of a container, in the order of its life. -/
inductive Status where
  | none
  | manifestPulled
  | pulled
  | created
  | running
  | resourcesProvisioned
  | stopped
  | zombie
  deriving DecidableEq, Repr

namespace Status

instance : Inhabited Status := ⟨none⟩

/-- The place of a status in a container's life. -/
def rank : Status → Nat
  | none => 0
  | manifestPulled => 1
  | pulled => 2
  | created => 3
  | running => 4
  | resourcesProvisioned => 5
  | stopped => 6
  | zombie => 7

instance : Ord Status := ⟨fun a b => compare a.rank b.rank⟩

instance : LE Status := ⟨fun a b => a.rank ≤ b.rank⟩

instance (a b : Status) : Decidable (a ≤ b) := inferInstanceAs (Decidable (a.rank ≤ b.rank))

instance : Max Status := ⟨fun a b => if a ≤ b then b else a⟩

/-- The name under which a status is reported. -/
def name : Status → String
  | none => "NONE"
  | manifestPulled => "MANIFEST_PULLED"
  | pulled => "PULLED"
  | created => "CREATED"
  | running => "RUNNING"
  | resourcesProvisioned => "RESOURCES_PROVISIONED"
  | stopped => "STOPPED"
  | zombie => "ZOMBIE"

/-- Whether the container will not run again. -/
def isTerminal : Status → Bool
  | stopped | zombie => true
  | _ => false

theorem name_injective {a b : Status} (h : a.name = b.name) : a = b := by
  cases a <;> cases b <;> simp_all [name]

end Status

/-- What a change event reports. -/
inductive EventType where
  /-- the status of the container changed -/
  | container
  /-- the result of the container's health check changed -/
  | health
  deriving DecidableEq, Repr

namespace EventType

instance : Inhabited EventType := ⟨container⟩

/-- The name under which a type of event is reported. -/
def name : EventType → String
  | container => "container"
  | health => "health"

end EventType

end ContainerWatch
