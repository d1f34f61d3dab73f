import ContainerWatch.Container.Metadata
import ContainerWatch.Engine.Inspection
import ContainerWatch.Time.Rfc3339
/-!
# What an inspection shows

The metadata of a container as its inspection record gives them.  Times are timestamps; the engine
writes its zero time for a time that has not come yet, which counts as absent (`engineTime?`).  The exit
code of a container counts once it no longer runs and has a time at which it finished.  Each entry of
the published ports gives its bindings on its own; an entry or binding that cannot be read gives none.

Main statement: `port_perm`, the bindings are those of the entries, each as often as it stands there.
-/

namespace ContainerWatch

/-- The engine's zero time, `0001-01-01T00:00:00Z`. -/
def engineZero : Instant := Instant.ofSeconds (-62135596800)

/-- The time in a text of the engine, none for its zero time. -/
def engineTime? (s : String) : Option Instant :=
  (Instant.ofRfc3339? s).filter fun t => decide (t ≠ engineZero)

namespace PortBinding

/-- The binding of a container port to an address and port of the host, if the host port is one. -/
def ofHost? (key : PortKey) (host : Engine.HostBinding) : Option PortBinding := do
  let text ← host.hostPort
  let hostPort ← Numeral.nat16? text.toList
  some ⟨key.port, hostPort, host.hostIp.getD "", key.protocol⟩

/-- The bindings that one entry of the published ports gives. -/
def ofEntry (entry : String × Option (List Engine.HostBinding)) : List PortBinding :=
  match PortKey.read? entry.1 with
  | some key => (entry.2.getD []).filterMap (ofHost? key)
  | none => []

/-- The bindings that the published ports give, in order. -/
def ofPortMap (ports : Engine.PortMap) : List PortBinding := sort (ports.flatMap ofEntry)

/-- The bindings are those of the entries, each as often as it stands there. -/
theorem port_perm (ports : Engine.PortMap) : (ofPortMap ports).Perm (ports.flatMap ofEntry) :=
  sort_perm _

end PortBinding

namespace HealthStatus

/-- The verdict that the engine's name for it stands for. -/
def ofName : Option Engine.HealthName → HealthStatus
  | some .healthy => healthy
  | some .unhealthy => unhealthy
  | _ => unknown

end HealthStatus

/-- The health that a record shows, with the exit code and output of the last check in its log. -/
def Health.ofRecord (r : Engine.HealthRecord) : Health :=
  let last := (r.log.getD []).getLast?
  { status := .ofName r.status
    exitCode := last.bind Engine.HealthProbe.exitCode
    output := last.bind Engine.HealthProbe.output }

namespace Metadata

/-- The failure of a container that was stopped for its use of memory. -/
def outOfMemory : Transition :=
  ⟨.outOfMemory, "OutOfMemoryError: Container killed due to memory usage", none⟩

/-- The exit code that a state shows: none while the container runs or when it never finished. -/
def exitCodeOf (state : Engine.ContainerState) : Option Int :=
  if state.running = some true ∨ (state.finishedAt.bind engineTime?).isNone then none
  else state.exitCode

/-- What an inspection record shows of a container. -/
def ofInspection (r : Engine.Inspection) : Metadata :=
  let state := r.state.getD default
  { dockerId := r.id.getD ""
    exitCode := exitCodeOf state
    portBindings := ((r.networkSettings.bind (·.ports)).map PortBinding.ofPortMap).getD []
    error := if state.outOfMemory = some true then some outOfMemory else none
    volumes := (r.mounts.getD []).map Volume.ofMount
    labels := r.labels.getD .empty
    createdAt := r.created.bind engineTime?
    startedAt := state.startedAt.bind engineTime?
    finishedAt := state.finishedAt.bind engineTime?
    health := (state.health.map Health.ofRecord).getD {}
    networkMode := r.networkMode.getD ""
    networkSettings := r.networkSettings }

/-- A record shows the actual state exactly when the container was not stopped for its memory. -/
theorem isAuthoritative_ofInspection (r : Engine.Inspection) :
    (ofInspection r).isAuthoritative ↔ (r.state.getD default).outOfMemory ≠ some true := by
  by_cases h : (r.state.getD default).outOfMemory = some true <;>
    simp [isAuthoritative, ofInspection, h]

/-- A container that has exited has a time at which it finished. -/
theorem finishedAt_isSome_of_hasExited {r : Engine.Inspection} (h : (ofInspection r).hasExited) :
    (ofInspection r).finishedAt.isSome := by
  simp only [hasExited, ofInspection, exitCodeOf] at h ⊢
  split at h
  · simp at h
  · rename_i hshown
    simpa [Option.isNone_iff_eq_none, Option.isSome_iff_ne_none] using (not_or.1 hshown).2

end Metadata

end ContainerWatch
