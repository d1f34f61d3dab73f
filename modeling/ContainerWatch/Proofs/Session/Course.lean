import ContainerWatch.Proofs.Config.Room
import ContainerWatch.Session
/-!
# The course of a session

A session loads its settings, sets up its log, finds something at the path of the engine and opens a channel,
in this order.  Each of these can end it, the last one because settings may ask for more room than any channel
has.

Settings are checked when they are loaded, but only for having some room at all.  So the greatest room that can be
asked for, a number of eight bytes, is far beyond the room of any channel, and a session that asks for too much fails
where no failure is expected (`outcome_exampleHost_huge`).

Main statement: `Session.noChannel_iff`, when a session with loaded settings ends for want of a channel.
-/

namespace ContainerWatch

/-- There is a channel for any room that channels have. -/
theorem Channel.open?_eq_some {α : Type} {capacity : Nat} (h1 : 1 ≤ capacity)
    (hmax : capacity ≤ maxCapacity) : (open? capacity : Option (Channel α)) = some { capacity } :=
  if_pos ⟨h1, hmax⟩

theorem Channel.open?_eq_none {α : Type} {capacity : Nat} (hmax : maxCapacity < capacity) :
    (open? capacity : Option (Channel α)) = none := by
  refine if_neg fun h => ?_
  exact absurd h.2 (Nat.not_le.2 hmax)

/-- A watcher begins with nothing read and nothing sent. -/
theorem Watcher.new?_eq_some {capacity : Nat} (h1 : 1 ≤ capacity) (hmax : capacity ≤ Channel.maxCapacity) :
    new? capacity = some { channel := { capacity } } := by
  rw [new?, Channel.open?_eq_some h1 hmax, Option.map_some]

/-- There is a watcher for some room exactly when a channel has so much. -/
theorem Watcher.new?_eq_none_iff {capacity : Nat} (h1 : 1 ≤ capacity) :
    new? capacity = none ↔ Channel.maxCapacity < capacity := by
  constructor
  · intro hnone
    refine Nat.lt_of_not_le fun hmax => ?_
    rw [new?_eq_some h1 hmax] at hnone
    cases hnone
  · intro hmax
    rw [new?, Channel.open?_eq_none hmax, Option.map_none]

/-- A result that has a value is this value. -/
theorem eq_ok_of_toOption {ε α : Type} {x : Except ε α} {a : α} (h : x.toOption = some a) : x = .ok a := by
  cases x with
  | error e => cases h
  | ok b => rw [Option.some.inj h]

namespace Session

/-! ## One step after another -/

/-- The path at which a session looks for the engine. -/
def enginePath (h : Host) (s : EngineSettings) : String := socketPath (s.address h)

/-- A session with settings and a log goes on to the engine. -/
theorem run_of_setUp_eq_ok {h : Host} {c : Config} {filter : Log.Filter}
    (hload : Config.load h.files h.settingsPath h.complaint = .ok c)
    (hsetUp : Telemetry.setUp c.telemetry false = .ok filter) : run h = connect h c.docker filter := by
  simp only [run, hload, hsetUp]

theorem run_of_setUp_eq_error {h : Host} {c : Config} {e : Telemetry.Error}
    (hload : Config.load h.files h.settingsPath h.complaint = .ok c)
    (hsetUp : Telemetry.setUp c.telemetry false = .error e) : run h = failing ⟨[]⟩ [] (.telemetry e) := by
  simp only [run, hload, hsetUp]

theorem connect_of_missing {h : Host} {s : EngineSettings} (filter : Log.Filter)
    (hpeer : h.peer (enginePath h s) = .missing) :
    connect h s filter =
      failing filter [s.connecting] (.connection s.attempt (.socketNotFound (enginePath h s))) := by
  rw [enginePath] at hpeer ⊢
  simp only [connect, hpeer]

/-- A session that finds something at the path of the engine watches what it gives to read. -/
theorem connect_of_ne_missing {h : Host} {s : EngineSettings} (filter : Log.Filter)
    (hpeer : h.peer (enginePath h s) ≠ .missing) :
    connect h s filter = watch filter [s.connecting] s.eventBuffer (s.ask h.client (h.peer (enginePath h s))).1
      (s.ask h.client (h.peer (enginePath h s))).2 := by
  rw [enginePath] at hpeer ⊢
  simp only [connect]

/-- A session that watches ends for want of a channel exactly when there is none for the room. -/
theorem outcome_watch_eq_noChannel_iff (filter : Log.Filter) (lines : List Log.Line) (capacity : Nat)
    (readings : List Reading) (request : Option String) :
    (watch filter lines capacity readings request).outcome = .noChannel ↔ Watcher.new? capacity = none := by
  unfold watch
  split
  · rename_i hnone
    exact ⟨fun _ => hnone, fun _ => rfl⟩
  · rename_i w hsome
    rw [hsome]
    exact ⟨nofun, nofun⟩

/-! ## Room -/

/-- Loaded settings ask for some room, but they may ask for more than any channel has, and with them every session
that gets so far ends there.  It gets so far when the log can be set up and something is at the path of the engine. -/
theorem noChannel_iff {h : Host} {c : Config} (hload : Config.load h.files h.settingsPath h.complaint = .ok c) :
    1 ≤ c.docker.eventBuffer ∧ c.docker.eventBuffer ≤ Numeral.nat64Max ∧
    ((Watcher.new? c.docker.eventBuffer).isSome ↔ c.docker.eventBuffer ≤ Nat.pow 2 61 - 1) ∧
    ((run h).outcome = .noChannel ↔
      Nat.pow 2 61 - 1 < c.docker.eventBuffer ∧ (∃ filter, Telemetry.setUp c.telemetry false = .ok filter) ∧
        h.peer (enginePath h c.docker) ≠ .missing) := by
  obtain ⟨h1, hmax⟩ := Config.eventBuffer_bounds_of_load hload
  have hnone : Watcher.new? c.docker.eventBuffer = none ↔ Nat.pow 2 61 - 1 < c.docker.eventBuffer :=
    Watcher.new?_eq_none_iff h1
  refine ⟨h1, hmax, ?_, ?_⟩
  · rw [Option.isSome_iff_ne_none, ne_eq, hnone, Nat.not_lt]
  · cases hsetUp : Telemetry.setUp c.telemetry false with
    | error e =>
      rw [run_of_setUp_eq_error hload hsetUp]
      exact ⟨nofun, fun ⟨_, ⟨_, hfilter⟩, _⟩ => nomatch hfilter⟩
    | ok filter =>
      rw [run_of_setUp_eq_ok hload hsetUp]
      by_cases hpeer : h.peer (enginePath h c.docker) = .missing
      · rw [connect_of_missing filter hpeer]
        exact ⟨nofun, fun ⟨_, _, hne⟩ => absurd hpeer hne⟩
      · rw [connect_of_ne_missing filter hpeer, outcome_watch_eq_noChannel_iff, hnone]
        exact ⟨fun hroom => ⟨hroom, ⟨filter, rfl⟩, hpeer⟩, fun hroom => hroom.1⟩

/-- A host with a file of settings and an engine that has nothing to say. -/
def exampleHost (settings : String) : Host where
  files := fun _ => .file settings.toUTF8
  engineAddress := "unix:///var/run/docker.sock"
  peer := fun _ => .engine ⟨200, ""⟩

/-- Settings that ask for the room of one change more than any channel has are loaded. -/
theorem load_exampleHost_huge :
    Config.load (exampleHost "docker:\n  event_buffer: 2305843009213693952\n").files none =
      .ok { docker := { eventBuffer := 2305843009213693952 } } :=
  eq_ok_of_toOption (by decide +kernel)

/-- A session with the greatest room that there is has its channel. -/
theorem outcome_exampleHost_greatest :
    (run (exampleHost "docker:\n  event_buffer: 2305843009213693951\n")).outcome ≠ .noChannel := by
  have hload : Config.load (exampleHost "docker:\n  event_buffer: 2305843009213693951\n").files none =
      .ok { docker := { eventBuffer := 2305843009213693951 } } := eq_ok_of_toOption (by decide +kernel)
  obtain ⟨-, -, -, hrun⟩ := noChannel_iff hload
  intro hnone
  exact absurd (hrun.1 hnone).1 (by decide)

/-- Not all loaded settings ask for room that a channel has, and a session with such settings has none. -/
theorem outcome_exampleHost_huge :
    ¬ (∀ (h : Host) (c : Config), Config.load h.files h.settingsPath h.complaint = .ok c →
        1 ≤ c.docker.eventBuffer ∧ c.docker.eventBuffer ≤ Nat.pow 2 61 - 1) ∧
      (run (exampleHost "docker:\n  event_buffer: 2305843009213693952\n")).outcome = .noChannel := by
  refine ⟨fun hall => ?_, by decide +kernel⟩
  have hroom := hall (exampleHost _) _ load_exampleHost_huge
  exact absurd hroom.2 (by decide)

end Session

end ContainerWatch
