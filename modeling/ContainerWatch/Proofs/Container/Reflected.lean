import ContainerWatch.Proofs.Container.Published
import ContainerWatch.Proofs.Time.EngineTime
import Mathlib.Data.List.Forall2
/-!
# What a record says about a container

The metadata of a container reflect its inspection record: each field is read off the part of the record that is
for it, and what is not in the record is empty, none or as by default.  Three fields take more than their own part.
The exit code counts only with a time at which the container finished, and not while it runs; the failure is there
exactly when the container was stopped for its memory; and the two results of the health check are those of one
entry of its log, the last one.  All of this together leaves no choice: what reflects a record is what is read off
it (`Metadata.reflects_iff_eq`).

The relation `Reflects` is stated for volumes, for the health and for the metadata, each time field by field and
without the function that reads.  Each time two lemmas follow: what is read reflects the record (`ofMount_reflects`,
`ofRecord_reflects`, `ofInspection_reflects`), and nothing else does (`reflects_iff_eq`).

Main statement: `Metadata.reflected`.
-/

namespace ContainerWatch

/-! ## Volumes -/

/-- A volume is the one of a mount.  The engine leaves a name or a driver out or writes an empty one, which is the
same. -/
structure Volume.Reflects (v : Volume) (mount : Engine.Mount) : Prop where
  /-- an empty name is none -/
  name : ∀ name, v.name = some name ↔ mount.name = some name ∧ name ≠ ""
  source : v.source = mount.source.getD ""
  destination : v.destination = mount.destination.getD ""
  /-- an empty driver is none -/
  driver : ∀ driver, v.driver = some driver ↔ mount.driver = some driver ∧ driver ≠ ""
  mode : v.mode = mount.mode.getD ""
  /-- a volume can be written unless the record says no -/
  readWrite : v.readWrite ↔ mount.readWrite ≠ some false

theorem Volume.ofMount_reflects (mount : Engine.Mount) : (ofMount mount).Reflects mount where
  name name := by rw [ofMount, Option.filter_eq_some_iff, bne_iff_ne]
  source := rfl
  destination := rfl
  driver driver := by rw [ofMount, Option.filter_eq_some_iff, bne_iff_ne]
  mode := rfl
  readWrite := by
    have hflag : ∀ flag : Option Bool, flag.getD true ↔ flag ≠ some false
      | none => by decide
      | some true => by decide
      | some false => by decide
    exact hflag mount.readWrite

/-- Nothing else reflects a mount, since each field is settled. -/
theorem Volume.reflects_iff_eq {v : Volume} {mount : Engine.Mount} : v.Reflects mount ↔ v = ofMount mount := by
  constructor
  · intro h
    have h' := ofMount_reflects mount
    have hname : v.name = (ofMount mount).name := Option.ext fun name => (h.name name).trans (h'.name name).symm
    have hdriver : v.driver = (ofMount mount).driver :=
      Option.ext fun driver => (h.driver driver).trans (h'.driver driver).symm
    have hwrite : v.readWrite = (ofMount mount).readWrite :=
      Bool.eq_iff_iff.2 (h.readWrite.trans h'.readWrite.symm)
    cases v
    exact Volume.mk.injEq .. ▸ ⟨hname, h.source, h.destination, hdriver, h.mode, hwrite⟩
  · rintro rfl
    exact ofMount_reflects mount

/-- The volumes of mounts are theirs one by one. -/
theorem Volume.forall₂_reflects_iff {vs : List Volume} {mounts : List Engine.Mount} :
    List.Forall₂ Reflects vs mounts ↔ vs = mounts.map ofMount := by
  have hsame : Reflects = fun v mount => v = ofMount mount :=
    funext fun _ => funext fun _ => propext reflects_iff_eq
  rw [hsame, ← List.forall₂_map_right_iff, List.forall₂_eq_eq_eq]

/-! ## Health -/

theorem HealthStatus.ofName_eq_healthy_iff {name : Option Engine.HealthName} :
    ofName name = healthy ↔ name = some .healthy := by
  cases name with
  | none => decide
  | some name => cases name <;> decide

/-- Of the names of a verdict one is unhealthy.  A check that has not come to an end, and no check at all, are
neither. -/
theorem HealthStatus.ofName_eq_unhealthy_iff {name : Option Engine.HealthName} :
    ofName name = unhealthy ↔ name = some .unhealthy := by
  cases name with
  | none => decide
  | some name => cases name <;> decide

/-- A verdict is known by whether it is one of the two that are no unknown ones. -/
theorem HealthStatus.eq_of_iff {a b : HealthStatus} (hhealthy : a = healthy ↔ b = healthy)
    (hunhealthy : a = unhealthy ↔ b = unhealthy) : a = b := by
  cases a with
  | healthy => exact (hhealthy.1 rfl).symm
  | unhealthy => exact (hunhealthy.1 rfl).symm
  | unknown =>
    cases b with
    | healthy => exact hhealthy.2 rfl
    | unhealthy => exact hunhealthy.2 rfl
    | unknown => rfl

/-- The health is the one of a health record.  The result is that of the last check as it stands in the log: an
earlier entry does not fill what the last one lacks. -/
structure Health.Reflects (h : Health) (record : Engine.HealthRecord) : Prop where
  healthy : h.status = .healthy ↔ record.status = some .healthy
  unhealthy : h.status = .unhealthy ↔ record.status = some .unhealthy
  /-- a record does not say since when -/
  since : h.since = none
  /-- the last entry of the log counts alone, whatever it lacks -/
  last : ∀ before probe, record.log = some (before ++ [probe]) →
    h.exitCode = probe.exitCode ∧ h.output = probe.output
  /-- without an entry there is no result -/
  unlogged : record.log.getD [] = [] → h.exitCode = none ∧ h.output = none

theorem Health.ofRecord_reflects (record : Engine.HealthRecord) : (ofRecord record).Reflects record where
  healthy := HealthStatus.ofName_eq_healthy_iff
  unhealthy := HealthStatus.ofName_eq_unhealthy_iff
  since := rfl
  last before probe hlog := by
    rw [ofRecord, hlog, Option.getD_some, List.getLast?_concat]
    exact ⟨rfl, rfl⟩
  unlogged hlog := by
    rw [ofRecord, hlog]
    exact ⟨rfl, rfl⟩

/-- Nothing else reflects a health record.  The log is empty or ends in an entry, and either way the result is
settled. -/
theorem Health.reflects_iff_eq {h : Health} {record : Engine.HealthRecord} :
    h.Reflects record ↔ h = ofRecord record := by
  constructor
  · intro hh
    have hr := ofRecord_reflects record
    have hstatus : h.status = (ofRecord record).status :=
      HealthStatus.eq_of_iff (hh.healthy.trans hr.healthy.symm) (hh.unhealthy.trans hr.unhealthy.symm)
    -- the result comes from the last entry of the log, if there is one
    have hresult : h.exitCode = (ofRecord record).exitCode ∧ h.output = (ofRecord record).output := by
      rcases hlog : record.log.getD [] with _ | ⟨first, rest⟩
      · obtain ⟨hcode, houtput⟩ := hh.unlogged hlog
        obtain ⟨hcode', houtput'⟩ := hr.unlogged hlog
        exact ⟨hcode.trans hcode'.symm, houtput.trans houtput'.symm⟩
      · have hsome : record.log = some (first :: rest) := by
          cases hrecord : record.log with
          | none =>
            rw [hrecord] at hlog
            cases hlog
          | some log => rw [← hlog, hrecord, Option.getD_some]
        rw [← List.dropLast_append_getLast (List.cons_ne_nil first rest)] at hsome
        obtain ⟨hcode, houtput⟩ := hh.last _ _ hsome
        obtain ⟨hcode', houtput'⟩ := hr.last _ _ hsome
        exact ⟨hcode.trans hcode'.symm, houtput.trans houtput'.symm⟩
    cases h
    exact Health.mk.injEq .. ▸ ⟨hstatus, hh.since, hresult⟩
  · rintro rfl
    exact ofRecord_reflects record

namespace Metadata

/-! ## Metadata -/

/-- The metadata are those of an inspection record. -/
structure Reflects (m : Metadata) (r : Engine.Inspection) : Prop where
  dockerId : m.dockerId = r.id.getD ""
  /-- an exit code counts only when the container does not run and finished at some time -/
  exitCode : ∀ code, m.exitCode = some code ↔ r.state.bind (·.exitCode) = some code ∧
    r.state.bind (·.running) ≠ some true ∧
    ∃ text, r.state.bind (·.finishedAt) = some text ∧ ∃ t : Instant, t.NamedBy text ∧ t ≠ engineZero
  portBindings : m.portBindings = PortBinding.ofPortMap r.ports
  error : m.error =
    if r.state.bind (·.outOfMemory) = some true then
      some ⟨.outOfMemory, "OutOfMemoryError: Container killed due to memory usage", none⟩
    else none
  volumes : List.Forall₂ Volume.Reflects m.volumes (r.mounts.getD [])
  labels : ∀ key, m.labels.get? key = r.labels.bind (·.get? key)
  createdAt : m.createdAt = r.created.bind engineTime?
  startedAt : m.startedAt = (r.state.bind (·.startedAt)).bind engineTime?
  finishedAt : m.finishedAt = (r.state.bind (·.finishedAt)).bind engineTime?
  health : ∀ record, r.state.bind (·.health) = some record → m.health.Reflects record
  unchecked : r.state.bind (·.health) = none → m.health = {}
  networkMode : m.networkMode = r.networkMode.getD ""
  networkSettings : m.networkSettings = r.networkSettings

/-- A part of the state is none in a record without a state. -/
theorem getD_state {α : Type} (state : Option Engine.ContainerState) (part : Engine.ContainerState → Option α)
    (hpart : part default = none) : part (state.getD default) = state.bind part := by
  cases state with
  | none => exact hpart
  | some state => rfl

/-- The exit code is shown of a container that does not run and has a time at which it finished.  The engine writes an
exit code and the zero time for a container that never finished, so neither alone would do. -/
theorem exitCodeOf_eq_some_iff {state : Engine.ContainerState} {code : Int} :
    exitCodeOf state = some code ↔ state.exitCode = some code ∧ state.running ≠ some true ∧
      ∃ text, state.finishedAt = some text ∧ ∃ t : Instant, t.NamedBy text ∧ t ≠ engineZero := by
  -- a text gives a time when it names one that is not the zero time, in any spelling
  have htime (text : String) :
      (∃ t, engineTime? text = some t) ↔ ∃ t : Instant, t.NamedBy text ∧ t ≠ engineZero := by
    refine exists_congr fun t => ⟨namedBy_of_engineTime?, ?_⟩
    rintro ⟨hnamed, hne⟩
    rw [engineTime?_of_namedBy hnamed, if_neg hne]
  have hfinished : (state.finishedAt.bind engineTime?).isNone = false ↔
      ∃ text, state.finishedAt = some text ∧ ∃ t : Instant, t.NamedBy text ∧ t ≠ engineZero := by
    simp only [← htime]
    rw [Option.isNone_eq_false_iff, Option.isSome_iff_exists]
    simp only [Option.bind_eq_some_iff]
    constructor
    · rintro ⟨t, text, h, ht⟩
      exact ⟨text, h, t, ht⟩
    · rintro ⟨text, h, t, ht⟩
      exact ⟨t, text, h, ht⟩
  rw [exitCodeOf, ← hfinished]
  split
  · rename_i hnone
    refine iff_of_false (Option.some_ne_none code).symm ?_
    rintro ⟨-, hrunning, hsome⟩
    obtain hrun | hunfinished := hnone
    · exact hrunning hrun
    · rw [hsome] at hunfinished
      cases hunfinished
  · rename_i hshown
    obtain ⟨hrunning, hunfinished⟩ := not_or.1 hshown
    exact ⟨fun h => ⟨h, hrunning, Bool.eq_false_iff.2 hunfinished⟩, And.left⟩

/-- What is read off a record reflects it.  A record without a state is read as one whose state says nothing. -/
theorem ofInspection_reflects (r : Engine.Inspection) : (ofInspection r).Reflects r where
  dockerId := rfl
  exitCode code := by
    rw [← getD_state r.state _ rfl, ← getD_state r.state _ rfl, ← getD_state r.state _ rfl]
    exact exitCodeOf_eq_some_iff
  portBindings := portBindings_eq_ofPortMap r
  error := by
    rw [← getD_state r.state _ rfl]
    rfl
  volumes := Volume.forall₂_reflects_iff.2 rfl
  labels key := by
    rw [ofInspection]
    cases r.labels with
    | none => rfl
    | some labels => rfl
  createdAt := rfl
  startedAt := by
    rw [← getD_state r.state _ rfl]
    rfl
  finishedAt := by
    rw [← getD_state r.state _ rfl]
    rfl
  health record hrecord := by
    rw [← getD_state r.state _ rfl] at hrecord
    rw [Health.reflects_iff_eq, ofInspection, hrecord]
    rfl
  unchecked hnone := by
    rw [← getD_state r.state _ rfl] at hnone
    rw [ofInspection, hnone]
    rfl
  networkMode := rfl
  networkSettings := rfl

/-- What reflects a record is what is read off it.  Each field is settled on its own: optional ones by their members,
labels by their keys, and the others by an equation. -/
theorem reflects_iff_eq {m : Metadata} {r : Engine.Inspection} : m.Reflects r ↔ m = ofInspection r := by
  constructor
  · intro h
    have h' := ofInspection_reflects r
    have hcode : m.exitCode = (ofInspection r).exitCode :=
      Option.ext fun code => (h.exitCode code).trans (h'.exitCode code).symm
    have hvolumes : m.volumes = (ofInspection r).volumes := Volume.forall₂_reflects_iff.1 h.volumes
    have hlabels : m.labels = (ofInspection r).labels :=
      Dictionary.ext_get? fun key => (h.labels key).trans (h'.labels key).symm
    have hhealth : m.health = (ofInspection r).health := by
      cases hrecord : r.state.bind (·.health) with
      | none => exact (h.unchecked hrecord).trans (h'.unchecked hrecord).symm
      | some record =>
        rw [Health.reflects_iff_eq.1 (h.health record hrecord), Health.reflects_iff_eq.1 (h'.health record hrecord)]
    have hstarted := h.startedAt.trans h'.startedAt.symm
    have hfinished := h.finishedAt.trans h'.finishedAt.symm
    have hports := h.portBindings.trans h'.portBindings.symm
    have herror := h.error.trans h'.error.symm
    cases m
    exact Metadata.mk.injEq .. ▸ ⟨h.dockerId, hcode, hports, herror, hvolumes, hlabels, h.createdAt, hstarted,
      hfinished, hhealth, h.networkMode, h.networkSettings⟩
  · rintro rfl
    exact ofInspection_reflects r

/-- The metadata are the actual state unless the record says that the container was stopped for its memory. -/
theorem isAuthoritative_iff (r : Engine.Inspection) :
    (ofInspection r).isAuthoritative ↔ r.state.bind (·.outOfMemory) ≠ some true := by
  rw [isAuthoritative_ofInspection, ← getD_state r.state _ rfl]

/-- The metadata that reflect a record are those that are read off it, and no others do.  So a container that has
exited has a time at which it finished, the metadata are the actual state unless the container was stopped for its
memory, and the text of a time decides its own field and, at the end, the exit code, whether it can be read or
not. -/
theorem reflected (r : Engine.Inspection) :
    (∀ m : Metadata, m.Reflects r ↔ m = ofInspection r) ∧
    ((ofInspection r).hasExited → (ofInspection r).finishedAt.isSome) ∧
    ((ofInspection r).isAuthoritative ↔ r.state.bind (·.outOfMemory) ≠ some true) ∧
    (∀ created, ofInspection { r with created } =
      { ofInspection r with createdAt := created.bind engineTime? }) ∧
    (∀ state, r.state = some state → ∀ startedAt, ofInspection { r with state := some { state with startedAt } } =
      { ofInspection r with startedAt := startedAt.bind engineTime? }) ∧
    (∀ state, r.state = some state → ∀ finishedAt,
      ofInspection { r with state := some { state with finishedAt } } =
        { ofInspection r with
          finishedAt := finishedAt.bind engineTime?
          exitCode := (ofInspection { r with state := some { state with finishedAt } }).exitCode }) := by
  refine ⟨fun m => reflects_iff_eq, finishedAt_isSome_of_hasExited, isAuthoritative_iff r, fun created => rfl,
    fun state hstate startedAt => ?_, fun state hstate finishedAt => ?_⟩
  · rw [ofInspection, ofInspection, hstate]
    rfl
  · rw [ofInspection, ofInspection, hstate]
    rfl

/-- The state of a container that was stopped for its memory and had been checked twice, with a text for the time
at which it finished. -/
def stoppedState (finishedAt : String) : Engine.ContainerState :=
  { (default : Engine.ContainerState) with
    outOfMemory := some true
    exitCode := some 137
    startedAt := some "soon"
    finishedAt := some finishedAt
    health := some ⟨some .starting, none, some [⟨some 1, some "refused"⟩, ⟨none, some "reset"⟩]⟩ }

/-- A record of this container with a mount that has an empty name. -/
def stoppedRecord (finishedAt : String) : Engine.Inspection :=
  { (default : Engine.Inspection) with
    state := some (stoppedState finishedAt)
    mounts := some [⟨none, some "", some "/data", some "/srv", none, none, some false, none⟩] }

/-- The exit code goes with the time at which the container finished, in whatever spelling the zero time stands there,
and the rest stays; the last check has no exit code, so there is none, and the mount has no name. -/
theorem reflected_stoppedRecord :
    (ofInspection (stoppedRecord "2024-01-01T00:10:00Z")).exitCode = some 137 ∧
      (ofInspection (stoppedRecord "2024-01-01T00:10:00Z")).finishedAt.isSome ∧
      ¬ (ofInspection (stoppedRecord "2024-01-01T00:10:00Z")).isAuthoritative ∧
      (ofInspection (stoppedRecord "2024-01-01T00:10:00Z")).health.exitCode = none ∧
      (∃ v, (ofInspection (stoppedRecord "2024-01-01T00:10:00Z")).volumes = [v] ∧ v.name ≠ some "") ∧
      ofInspection (stoppedRecord "0000-12-31T23:00:00-01:00") =
        { ofInspection (stoppedRecord "2024-01-01T00:10:00Z") with finishedAt := none, exitCode := none } := by
  have htime : Instant.ofRfc3339? "2024-01-01T00:10:00Z" = some (Instant.ofSeconds 1704067800) := by decide
  have hzero : engineTime? "0000-12-31T23:00:00-01:00" = none := by decide
  obtain ⟨hreflects, hexited, hauthoritative, -, -, hfinish⟩ := reflected (stoppedRecord "2024-01-01T00:10:00Z")
  have hrecord := (hreflects _).2 rfl
  have hcode := (hrecord.exitCode 137).2 ⟨rfl, nofun, _, rfl, _, Instant.ofRfc3339?_eq_some_iff.1 htime, by decide⟩
  have hlast := (hrecord.health _ rfl).last [⟨some 1, some "refused"⟩] ⟨none, some "reset"⟩ rfl
  obtain ⟨v, vs, hv, hvs, hvolumes⟩ := List.forall₂_cons_right_iff.1 hrecord.volumes
  cases hvs
  refine ⟨hcode, hexited (by rw [hasExited, hcode]; rfl), mt hauthoritative.1 (by decide), hlast.1,
    ⟨v, hvolumes, fun hname => ((hv.name "").1 hname).2 rfl⟩, ?_⟩
  have hnone : (ofInspection (stoppedRecord "0000-12-31T23:00:00-01:00")).exitCode = none := by decide
  have hsame : ofInspection (stoppedRecord "0000-12-31T23:00:00-01:00") =
      { ofInspection (stoppedRecord "2024-01-01T00:10:00Z") with
        finishedAt := engineTime? "0000-12-31T23:00:00-01:00"
        exitCode := (ofInspection (stoppedRecord "0000-12-31T23:00:00-01:00")).exitCode } :=
    hfinish _ rfl (some "0000-12-31T23:00:00-01:00")
  rw [hnone, hzero] at hsame
  exact hsame

end Metadata

end ContainerWatch
