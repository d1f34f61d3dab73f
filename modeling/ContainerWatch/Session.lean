import ContainerWatch.Config.Load
import ContainerWatch.Engine.Reply
import ContainerWatch.Failure.Chain
import ContainerWatch.Telemetry.Setup
import ContainerWatch.Watcher.Machine
/-!
# Sessions

A run of the whole program: it loads the settings, sets up the log, connects to the engine, and reports
every change of a container's state until the engine's stream ends.  A session ends early where one of
the first three fails; it never ends early once the watcher runs, since failures of the stream are logged
by the watcher.

Main statement: `level_report`, a change that the watcher sends is reported as information and not as a
warning.
-/

namespace ContainerWatch

/-- What answers at the path of a socket. -/
inductive Peer where
  | missing
  /-- there is something at the path, but it does not answer -/
  | silent
  | engine (reply : Engine.Reply)
  deriving DecidableEq

/-- What a session finds around it. -/
structure Host where
  files : FileTree
  /-- the path of the settings, if the surroundings give it -/
  settingsPath : Option String := none
  /-- the address of the engine unless the settings give one -/
  engineAddress : String
  /-- what answers at every path -/
  peer : String → Peer
  /-- what is said of a file that does not hold settings -/
  complaint : Config.Complaint := Config.untold
  /-- how the engine's client says what went wrong -/
  client : Engine.Client := {}

/-- Why a session ends before the watcher runs. -/
inductive Session.Failure where
  | config (e : Config.Error)
  | telemetry (e : Telemetry.Error)
  /-- the engine cannot be connected to; the first text says what was tried -/
  | connection (attempt : String) (e : Engine.Error)
  deriving DecidableEq, Repr

/-- The text of a failure and those of its causes. -/
def Session.Failure.chain : Session.Failure → List String
  | config e => (ContainerWatch.Failure.config e).chain
  | telemetry e => e.message :: e.sources
  | connection attempt e => (e.layers.wrap attempt).texts

/-- How a session ends. -/
inductive Session.Outcome where
  | finished
  | failed (e : Session.Failure)
  /-- there is no channel with the room that the settings ask for -/
  | noChannel
  deriving DecidableEq, Repr

/-- What a session leaves behind. -/
structure Session where
  /-- the lines of the session itself, before they are filtered -/
  lines : List Log.Line := []
  /-- the lines of the watcher, before they are filtered -/
  watcherLines : List Log.Line := []
  /-- which lines are kept -/
  filter : Log.Filter := ⟨[]⟩
  /-- the first line of the request that the engine got -/
  request : Option String := none
  outcome : Session.Outcome
  deriving DecidableEq

/-! ## Reports -/

/-- The name under which a session writes. -/
def Session.target : String := "dockerapi"

/-- The name under which the connection to the engine writes. -/
def Session.connectionTarget : String := "dockerapi::repositories::docker_event_source"

/-- The line in which a change is reported, a warning unless it is what was really observed. -/
def ChangeEvent.report (e : ChangeEvent) : Log.Line :=
  ⟨if e.metadata.isAuthoritative then .info else .warn, Session.target, e.text,
    [("event_type", e.type.name)]⟩

/-- A change that the watcher sends is reported as information. -/
theorem ChangeEvent.level_report {r : Reading} {e : ChangeEvent} (h : r.change? = some e) :
    e.report.level = .info := by
  cases r with
  | failure f => simp [Reading.change?] at h
  | message m =>
    have ha := Announcement.isAuthoritative_of_ofMessage? (m := m) h
    simp [ChangeEvent.report, ha]

/-! ## The connection to the engine -/

/-- The beginning of an address that is the path of a socket. -/
def socketScheme : List Char := "unix://".toList

/-- The path of the socket at an address. -/
def socketPath (address : String) : String :=
  String.ofList (Text.dropFirst socketScheme address.toList)

/-- The address of the engine for a session. -/
def EngineSettings.address (s : EngineSettings) (h : Host) : String :=
  s.socketPath.getD h.engineAddress

/-- The line that announces the connection. -/
def EngineSettings.connecting (s : EngineSettings) : Log.Line :=
  match s.socketPath with
  | some path => ⟨.info, Session.connectionTarget, "Connecting to Docker engine", [("socket", path)]⟩
  | none =>
    ⟨.info, Session.connectionTarget, "Connecting to Docker engine using local defaults", []⟩

/-- What is tried, as a failure of the connection says it. -/
def EngineSettings.attempt (s : EngineSettings) : String :=
  match s.socketPath with
  | some path => "Connecting to Docker socket '" ++ path ++ "'"
  | none => "Connecting to Docker with local defaults"

/-- Whether no time is left to wait for the engine.  The settings limit the wait only where they say how
the engine is reached. -/
def EngineSettings.givesUp (s : EngineSettings) : Bool :=
  s.socketPath.isSome && s.timeoutSecs == 0

/-- What a request to a peer gives the client to read, and the line of the request that arrives. -/
def EngineSettings.ask (s : EngineSettings) (c : Engine.Client) (p : Peer) : List Reading × Option String :=
  if s.givesUp then ([.failure .requestTimeout], none)
  else match p with
    | .engine reply => (reply.readings c, some Engine.requestLine)
    | .silent | .missing => ([.failure c.unanswered], none)

/-! ## Running -/

namespace Session

/-- The line that announces the watcher. -/
def watching : Log.Line := ⟨.info, target, "Watching container events", []⟩

/-- A session that fails after some lines. -/
def failing (filter : Log.Filter) (lines : List Log.Line) (e : Failure) : Session :=
  { lines, filter, outcome := .failed e }

/-- The session from the first reading of the stream on. -/
def watch (filter : Log.Filter) (lines : List Log.Line) (capacity : Nat) (readings : List Reading)
    (request : Option String) : Session :=
  match Watcher.new? capacity with
  | none => { lines, filter, request, outcome := .noChannel }
  | some w =>
    let (last, events) := { w with upcoming := readings, ended := true }.drain
    { lines := lines ++ watching :: events.map ChangeEvent.report
      watcherLines := last.notices.map Notice.line
      filter
      request
      outcome := .finished }

/-- The session once its log is set up. -/
def connect (h : Host) (s : EngineSettings) (filter : Log.Filter) : Session :=
  let path := socketPath (s.address h)
  match h.peer path with
  | .missing => failing filter [s.connecting] (.connection s.attempt (.socketNotFound path))
  | peer =>
    let (readings, request) := s.ask h.client peer
    watch filter [s.connecting] s.eventBuffer readings request

/-- A run of the whole program. -/
def run (h : Host) : Session :=
  match Config.load h.files h.settingsPath h.complaint with
  | .error e => failing ⟨[]⟩ [] (.config e)
  | .ok c =>
    match Telemetry.setUp c.telemetry false with
    | .error e => failing ⟨[]⟩ [] (.telemetry e)
    | .ok filter => connect h c.docker filter

/-- The lines of the session itself that are kept. -/
def mainLog (s : Session) : List Log.Line := s.filter.select s.lines

/-- The lines of the watcher that are kept. -/
def watcherLog (s : Session) : List Log.Line := s.filter.select s.watcherLines

end Session

end ContainerWatch
