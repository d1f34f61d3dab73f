import ContainerWatch.Engine.Message
/-!
# Inspection records

What the engine answers when a container is inspected.  Every part may be missing.  The published
ports are kept as the list of entries in the order in which the record gives them, since a reader of
the record meets them in that order.  `Inspection.ofJson?` reads a record from a JSON object.
-/

namespace ContainerWatch.Engine

/-- The engine's own names for the state of a container. -/
inductive StateName
  | unnamed
  | created
  | running
  | paused
  | restarting
  | removing
  | exited
  | dead
  deriving DecidableEq, Repr

/-- The state with a name. -/
def StateName.ofName? : String → Option StateName
  | "" => some unnamed
  | "created" => some created
  | "running" => some running
  | "paused" => some paused
  | "restarting" => some restarting
  | "removing" => some removing
  | "exited" => some exited
  | "dead" => some dead
  | _ => none

/-- The engine's own names for the result of the health check. -/
inductive HealthName
  | unnamed
  | none
  | starting
  | healthy
  | unhealthy
  deriving DecidableEq, Repr

/-- The health with a name. -/
def HealthName.ofName? : String → Option HealthName
  | "" => some .unnamed
  | "none" => some .none
  | "starting" => some .starting
  | "healthy" => some .healthy
  | "unhealthy" => some .unhealthy
  | _ => Option.none

/-- One run of the health check. -/
structure HealthProbe where
  exitCode : Option Int
  output : Option String
  deriving DecidableEq, Repr

/-- The health of a container with the log of its checks. -/
structure HealthRecord where
  status : Option HealthName
  failingStreak : Option Int
  log : Option (List HealthProbe)
  deriving DecidableEq, Repr

/-- The state of a container. -/
structure ContainerState where
  status : Option StateName
  running : Option Bool
  paused : Option Bool
  restarting : Option Bool
  outOfMemory : Option Bool
  dead : Option Bool
  processId : Option Int
  exitCode : Option Int
  error : Option String
  startedAt : Option String
  finishedAt : Option String
  health : Option HealthRecord
  deriving DecidableEq, Inhabited

/-- An address and port of the host at which a container port is published. -/
structure HostBinding where
  hostIp : Option String
  hostPort : Option String
  deriving DecidableEq, Repr

/-- The published ports: what each container port, named by a key, is bound to. -/
abbrev PortMap := List (String × Option (List HostBinding))

/-- The network settings of a container. -/
structure NetworkSettings where
  bridge : Option String
  gateway : Option String
  ipAddress : Option String
  ports : Option PortMap
  deriving DecidableEq, Inhabited

/-- The kinds of mount. -/
inductive MountKind
  | unnamed
  | bind
  | volume
  | tmpfs
  | npipe
  | cluster
  deriving DecidableEq, Repr

/-- The kind of mount with a name. -/
def MountKind.ofName? : String → Option MountKind
  | "" => some .unnamed
  | "bind" => some .bind
  | "volume" => some .volume
  | "tmpfs" => some .tmpfs
  | "npipe" => some .npipe
  | "cluster" => some .cluster
  | _ => none

/-- A mount of a container. -/
structure Mount where
  kind : Option MountKind
  name : Option String
  source : Option String
  destination : Option String
  driver : Option String
  mode : Option String
  readWrite : Option Bool
  propagation : Option String
  deriving DecidableEq, Inhabited

/-- What the engine answers when a container is inspected. -/
structure Inspection where
  id : Option String
  created : Option String
  state : Option ContainerState
  /-- the labels of the container's configuration -/
  labels : Option Dictionary
  networkMode : Option String
  mounts : Option (List Mount)
  networkSettings : Option NetworkSettings
  deriving Inhabited

/-! ## Reading -/

open Json (optional)

/-- A run of the health check given as a JSON object. -/
def HealthProbe.ofJson? (v : Json.Value) : Option HealthProbe := do
  let members ← v.members?
  let exitCode ← optional "ExitCode" int64? members
  let output ← optional "Output" Json.Value.string? members
  some ⟨exitCode, output⟩

/-- A health record given as a JSON object. -/
def HealthRecord.ofJson? (v : Json.Value) : Option HealthRecord := do
  let members ← v.members?
  let status ← optional "Status" (ofNameIn HealthName.ofName?) members
  let failingStreak ← optional "FailingStreak" int64? members
  let log ← optional "Log" (Json.Value.list? HealthProbe.ofJson?) members
  some ⟨status, failingStreak, log⟩

/-- A container state given as a JSON object. -/
def ContainerState.ofJson? (v : Json.Value) : Option ContainerState := do
  let members ← v.members?
  let status ← optional "Status" (ofNameIn StateName.ofName?) members
  let running ← optional "Running" Json.Value.bool? members
  let paused ← optional "Paused" Json.Value.bool? members
  let restarting ← optional "Restarting" Json.Value.bool? members
  let outOfMemory ← optional "OOMKilled" Json.Value.bool? members
  let dead ← optional "Dead" Json.Value.bool? members
  let processId ← optional "Pid" int64? members
  let exitCode ← optional "ExitCode" int64? members
  let error ← optional "Error" Json.Value.string? members
  let startedAt ← optional "StartedAt" Json.Value.string? members
  let finishedAt ← optional "FinishedAt" Json.Value.string? members
  let health ← optional "Health" HealthRecord.ofJson? members
  some ⟨status, running, paused, restarting, outOfMemory, dead, processId, exitCode, error, startedAt,
    finishedAt, health⟩

/-- A host binding given as a JSON object. -/
def HostBinding.ofJson? (v : Json.Value) : Option HostBinding := do
  let members ← v.members?
  let hostIp ← optional "HostIp" Json.Value.string? members
  let hostPort ← optional "HostPort" Json.Value.string? members
  some ⟨hostIp, hostPort⟩

/-- The bindings of one container port: a list, or null for none. -/
def hostBindings? : Json.Value → Option (Option (List HostBinding))
  | .null => some none
  | v => (v.list? HostBinding.ofJson?).map some

/-- Published ports given as a JSON object. -/
def portMap? (v : Json.Value) : Option PortMap := do
  let members ← v.members?
  members.mapM fun m => (hostBindings? m.2).map fun bindings => (m.1, bindings)

/-- Network settings given as a JSON object. -/
def NetworkSettings.ofJson? (v : Json.Value) : Option NetworkSettings := do
  let members ← v.members?
  let bridge ← optional "Bridge" Json.Value.string? members
  let gateway ← optional "Gateway" Json.Value.string? members
  let ipAddress ← optional "IPAddress" Json.Value.string? members
  let ports ← optional "Ports" portMap? members
  some ⟨bridge, gateway, ipAddress, ports⟩

/-- A mount given as a JSON object. -/
def Mount.ofJson? (v : Json.Value) : Option Mount := do
  let members ← v.members?
  let kind ← optional "Type" (ofNameIn MountKind.ofName?) members
  let name ← optional "Name" Json.Value.string? members
  let source ← optional "Source" Json.Value.string? members
  let destination ← optional "Destination" Json.Value.string? members
  let driver ← optional "Driver" Json.Value.string? members
  let mode ← optional "Mode" Json.Value.string? members
  let readWrite ← optional "RW" Json.Value.bool? members
  let propagation ← optional "Propagation" Json.Value.string? members
  some ⟨kind, name, source, destination, driver, mode, readWrite, propagation⟩

/-- The one member of a nested JSON object that counts. -/
def nested? {α : Type} (name : String) (decode : Json.Value → Option α) (v : Json.Value) :
    Option (Option α) :=
  v.members?.bind fun members => optional name decode members

/-- An inspection record given as a JSON object. -/
def Inspection.ofJson? (v : Json.Value) : Option Inspection := do
  let members ← v.members?
  let id ← optional "Id" Json.Value.string? members
  let created ← optional "Created" Json.Value.string? members
  let state ← optional "State" ContainerState.ofJson? members
  let labels ← optional "Config" (nested? "Labels" dictionary?) members
  let networkMode ← optional "HostConfig" (nested? "NetworkMode" Json.Value.string?) members
  let mounts ← optional "Mounts" (Json.Value.list? Mount.ofJson?) members
  let networkSettings ← optional "NetworkSettings" NetworkSettings.ofJson? members
  some ⟨id, created, state, labels.join, networkMode.join, mounts, networkSettings⟩

end ContainerWatch.Engine
