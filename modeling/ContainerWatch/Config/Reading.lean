import ContainerWatch.Config.Settings
import ContainerWatch.Yaml.Core
import ContainerWatch.Yaml.Tree
/-!
# Reading settings

Settings are written as a document of nested mappings.  Every setting may be left out and then has its
default.  What is not a setting is skipped, but a setting that is given twice, or not as its type asks,
spoils the whole document.

Main statement: what is given under a name counts as it is read, in whatever order it stands (`setting?_congr`).
-/

namespace ContainerWatch

/-- The values that entries give under a name. -/
def valuesAt (name : String) (entries : List (String × Yaml.Node)) : List Yaml.Node :=
  (entries.filter fun entry => entry.1 == name).map (·.2)

/-- The setting that entries give under a name, or the default.  A name may stand once at most. -/
def setting? {α : Type} (name : String) (decode : Yaml.Node → Option α) (default : α)
    (entries : List (String × Yaml.Node)) : Option α :=
  match valuesAt name entries with
  | [] => some default
  | [n] => decode n
  | _ => none

/-- How the engine is reached and watched, as entries say. -/
def EngineSettings.ofEntries? (d : Yaml.Document) (entries : List (String × Yaml.Node)) :
    Option EngineSettings := do
  let standard : EngineSettings := {}
  let socketPath ← setting? "socket_path" d.optionalText? standard.socketPath entries
  let timeoutSecs ← setting? "timeout_secs" d.nat64? standard.timeoutSecs entries
  let eventBuffer ← setting? "event_buffer" d.nat64? standard.eventBuffer entries
  some { socketPath, timeoutSecs, eventBuffer }

/-- What is logged and where to, as entries say. -/
def TelemetrySettings.ofEntries? (d : Yaml.Document) (entries : List (String × Yaml.Node)) :
    Option TelemetrySettings := do
  let standard : TelemetrySettings := {}
  let enabled ← setting? "enabled" d.bool? standard.enabled entries
  let logLevel ← setting? "log_level" d.text? standard.logLevel entries
  let excludedModules ← setting? "excluded_modules" d.texts? standard.excludedModules entries
  let serviceName ← setting? "service_name" d.text? standard.serviceName entries
  let otlpEndpoint ← setting? "otlp_endpoint" d.text? standard.otlpEndpoint entries
  some { enabled, logLevel, excludedModules, serviceName, otlpEndpoint }

namespace Config

/-- The settings that entries give. -/
def ofEntries? (d : Yaml.Document) (entries : List (String × Yaml.Node)) : Option Config := do
  let docker ← setting? "docker"
    (fun n => (d.entries? n).bind (EngineSettings.ofEntries? d)) {} entries
  let telemetry ← setting? "telemetry"
    (fun n => (d.entries? n).bind (TelemetrySettings.ofEntries? d)) {} entries
  some { docker, telemetry }

/-- The settings in a document.  A document without a node leaves everything at its default. -/
def ofDocument? (d : Yaml.Document) : Option Config :=
  match d.root with
  | none => some {}
  | some n => (d.entries? n).bind (ofEntries? d)

/-- What is said of a text that does not hold settings, with all that is behind it. -/
abbrev Complaint := String → Layers

/-- A complaint that does not say what is wrong. -/
def untold : Complaint := fun _ => ⟨"...", []⟩

/-- The settings in a text. -/
def ofText (text : String) (complaint : Complaint) : Except Error Config :=
  match (Yaml.Document.read? text).bind ofDocument? with
  | none => .error (.malformed (complaint text))
  | some c => c.validate

end Config

/-! ## Settings one by one -/

/-- What is given under a name counts as it is read, in whatever order it stands. -/
theorem setting?_congr {α : Type} {name : String} {decode decode' : Yaml.Node → Option α} (default : α)
    {entries others : List (String × Yaml.Node)}
    (h : ((valuesAt name entries).map decode).Perm ((valuesAt name others).map decode')) :
    setting? name decode default entries = setting? name decode' default others := by
  simp only [setting?]
  cases he : valuesAt name entries with
  | nil =>
    rw [he] at h
    rw [List.map_eq_nil_iff.1 (List.nil_perm.1 h)]
  | cons n rest =>
    cases rest with
    | nil =>
      rw [he] at h
      obtain ⟨m, hm, hdecode⟩ := List.map_eq_singleton_iff.1 (List.singleton_perm.1 h).symm
      rw [hm]
      exact hdecode.symm
    | cons m rest =>
      have hlen := h.length_eq
      rw [he] at hlen
      match ho : valuesAt name others with
      | [] => simp [ho] at hlen
      | [_] => simp [ho] at hlen
      | _ :: _ :: _ => rfl

end ContainerWatch
