import ContainerWatch.Proofs.Config.Situations
import ContainerWatch.Proofs.Yaml.Scalars
/-!
# Settings override defaults one by one

A document gives settings under their names in two parts.  What a setting holds is said twice: the library reads it
(`Config.Key.read?`), and a relation lists the scalars and sequences that stand for each of its values
(`Config.Key.Means`), and the two are shown to agree.

Whether a setting is given, and what it then holds, is settled by the nodes at its own two names alone
(`Config.Key.lookup?`), and a configuration is read exactly when each setting is (`Config.ofEntries?_eq_some_iff`).  So
no setting depends on another one, on the order of the keys or on keys that are no settings, and one setting that
cannot be read leaves no configuration at all.

The eight settings are told apart by an index (`Config.Key`), each with the name of its part, its own name, the type of
its values and what stands for them.  A statement about a setting is then about all of them, and a configuration is the
same as a value for each index (`Config.held`, `Config.ext_held`).

Main statement: `Config.overrides`.
-/

namespace ContainerWatch

open Yaml (Node Document Scalar)

/-! ## One name -/

section Name

variable {α : Type} {name : String} {decode : Node → Option α} {default v : α} {entries : List (String × Node)}

/-- What entries give under a name are the nodes of the entries with this name. -/
theorem mem_valuesAt_iff {n : Node} : n ∈ valuesAt name entries ↔ (name, n) ∈ entries := by
  simp only [valuesAt, List.mem_map, List.mem_filter, beq_iff_eq]
  constructor
  · rintro ⟨⟨_, _⟩, ⟨hmem, rfl⟩, rfl⟩
    exact hmem
  · intro hmem
    exact ⟨_, ⟨hmem, rfl⟩, rfl⟩

/-- Under a name stand as many nodes as there are keys with this name. -/
theorem length_valuesAt : (valuesAt name entries).length = (entries.map Prod.fst).count name := by
  rw [valuesAt, List.length_map, List.count, List.countP_map, List.countP_eq_length_filter]
  rfl

/-- A setting is read when its name stands once at most, as what stands there, or as by default. -/
theorem setting?_eq_some_iff : setting? name decode default entries = some v ↔
    (entries.map Prod.fst).count name ≤ 1 ∧ (∀ n, (name, n) ∈ entries → decode n = some v) ∧
      ((∀ n, (name, n) ∉ entries) → v = default) := by
  simp only [← length_valuesAt, ← mem_valuesAt_iff, setting?]
  cases valuesAt name entries with
  | nil => simp [eq_comm]
  | cons n rest =>
    cases rest with
    | nil =>
      simp only [List.length_singleton, Nat.le_refl, List.mem_singleton, forall_eq, true_and]
      exact ⟨fun h => ⟨h, False.elim⟩, And.left⟩
    | cons m rest => simp

/-- A setting is not read when its name stands twice or something stands there that cannot be read. -/
theorem setting?_eq_none_iff : setting? name decode default entries = none ↔
    2 ≤ (entries.map Prod.fst).count name ∨ ∃ n, (name, n) ∈ entries ∧ decode n = none := by
  simp only [← length_valuesAt, ← mem_valuesAt_iff, setting?]
  cases valuesAt name entries with
  | nil => simp
  | cons n rest =>
    cases rest with
    | nil => simp
    | cons m rest => simp

/-- A record whose parts are read one by one is read under a name when each of its parts is.  The name of the record
is the same for all of them, so a name that stands twice spoils every part. -/
theorem setting?_record_iff {γ ι : Type} [Nonempty ι] {β : ι → Type} (part : (i : ι) → γ → β i) {d : Document}
    {read : List (String × Node) → Option γ} {readPart : (i : ι) → List (String × Node) → Option (β i)}
    (hread : ∀ sub e, read sub = some e ↔ ∀ i, readPart i sub = some (part i e))
    (hext : ∀ e e' : γ, (∀ i, part i e = part i e') → e = e') {default e : γ} :
    setting? name (fun n => (d.entries? n).bind read) default entries = some e ↔
      ∀ i, setting? name (fun n => (d.entries? n).bind (readPart i)) (part i default) entries =
        some (part i e) := by
  simp only [setting?]
  cases valuesAt name entries with
  | nil =>
    simp only [Option.some.injEq]
    exact ⟨fun h i => congrArg (part i) h, hext default e⟩
  | cons n rest =>
    cases rest with
    | nil =>
      dsimp only
      cases d.entries? n with
      | none => simp
      | some sub => exact hread sub e
    | cons m rest => simp

end Name

/-! ## Settings -/

namespace EngineSettings

/-- The settings of how the engine is reached and watched. -/
inductive Key where
  | socketPath
  | timeoutSecs
  | eventBuffer

/-- The name of a setting. -/
def Key.name : Key → String
  | socketPath => "socket_path"
  | timeoutSecs => "timeout_secs"
  | eventBuffer => "event_buffer"

/-- What a setting is. -/
def Key.Value : Key → Type
  | socketPath => Option String
  | timeoutSecs | eventBuffer => Nat

/-- The value of a setting as it is read off a node. -/
def Key.read? (d : Document) : (k : Key) → Node → Option k.Value
  | socketPath => d.optionalText?
  | timeoutSecs | eventBuffer => d.nat64?

/-- A node stands for a value of a setting: for a path that may be absent, or for a number of eight bytes. -/
def Key.Means (d : Document) : (k : Key) → Node → k.Value → Prop
  | socketPath => fun n path => ∃ s, d.IsScalar n s ∧ s.IsOptionalText path
  | timeoutSecs | eventBuffer => fun n number => ∃ s, d.IsScalar n s ∧ s.IsNumber number

/-- Each setting of the engine is read as what stands for its values. -/
theorem Key.read?_eq_some_iff_means {d : Document} {k : Key} {n : Node} {v : k.Value} :
    k.read? d n = some v ↔ k.Means d n v := by
  cases k with
  | socketPath => exact Document.optionalText?_eq_some_iff
  | timeoutSecs => exact Document.nat64?_eq_some_iff
  | eventBuffer => exact Document.nat64?_eq_some_iff

/-- The value of a setting. -/
def held (s : EngineSettings) : (k : Key) → k.Value
  | .socketPath => s.socketPath
  | .timeoutSecs => s.timeoutSecs
  | .eventBuffer => s.eventBuffer

theorem ext_held {s t : EngineSettings} (h : ∀ k, s.held k = t.held k) : s = t := by
  cases s
  cases t
  exact EngineSettings.mk.injEq .. ▸ ⟨h .socketPath, h .timeoutSecs, h .eventBuffer⟩

/-- The settings of the engine are read when each of them is, on its own. -/
theorem ofEntries?_eq_some_iff {d : Document} {entries : List (String × Node)} {s : EngineSettings} :
    ofEntries? d entries = some s ↔
      ∀ k : Key, setting? k.name (k.read? d) (held {} k) entries = some (s.held k) := by
  simp only [ofEntries?, bind, Option.bind_eq_some_iff, Option.some.injEq]
  constructor
  · rintro ⟨socketPath, hsocket, timeoutSecs, htimeout, eventBuffer, hbuffer, rfl⟩ k
    cases k with
    | socketPath => exact hsocket
    | timeoutSecs => exact htimeout
    | eventBuffer => exact hbuffer
  · intro h
    exact ⟨_, h .socketPath, _, h .timeoutSecs, _, h .eventBuffer, rfl⟩

end EngineSettings

namespace TelemetrySettings

/-- The settings of what is logged and where to. -/
inductive Key where
  | enabled
  | logLevel
  | excludedModules
  | serviceName
  | otlpEndpoint

/-- The name of a setting. -/
def Key.name : Key → String
  | enabled => "enabled"
  | logLevel => "log_level"
  | excludedModules => "excluded_modules"
  | serviceName => "service_name"
  | otlpEndpoint => "otlp_endpoint"

/-- What a setting is. -/
def Key.Value : Key → Type
  | enabled => Bool
  | logLevel | serviceName | otlpEndpoint => String
  | excludedModules => List String

/-- The value of a setting as it is read off a node. -/
def Key.read? (d : Document) : (k : Key) → Node → Option k.Value
  | enabled => d.bool?
  | logLevel | serviceName | otlpEndpoint => d.text?
  | excludedModules => d.texts?

/-- A node stands for a value of a setting: for a truth value, for the text of a scalar, or for a list of texts. -/
def Key.Means (d : Document) : (k : Key) → Node → k.Value → Prop
  | enabled => fun n b => ∃ s, d.IsScalar n s ∧ s.IsTruth b
  | logLevel | serviceName | otlpEndpoint => fun n text => ∃ s, d.IsScalar n s ∧ s.text = text
  | excludedModules => fun n texts => d.AreTexts n texts

/-- Each setting of the log is read as what stands for its values. -/
theorem Key.read?_eq_some_iff_means {d : Document} {k : Key} {n : Node} {v : k.Value} :
    k.read? d n = some v ↔ k.Means d n v := by
  cases k with
  | enabled => exact Document.bool?_eq_some_iff
  | logLevel => exact Document.text?_eq_some_iff
  | serviceName => exact Document.text?_eq_some_iff
  | otlpEndpoint => exact Document.text?_eq_some_iff
  | excludedModules => exact Document.texts?_eq_some_iff

/-- The value of a setting. -/
def held (s : TelemetrySettings) : (k : Key) → k.Value
  | .enabled => s.enabled
  | .logLevel => s.logLevel
  | .excludedModules => s.excludedModules
  | .serviceName => s.serviceName
  | .otlpEndpoint => s.otlpEndpoint

theorem ext_held {s t : TelemetrySettings} (h : ∀ k, s.held k = t.held k) : s = t := by
  cases s
  cases t
  exact TelemetrySettings.mk.injEq .. ▸
    ⟨h .enabled, h .logLevel, h .excludedModules, h .serviceName, h .otlpEndpoint⟩

theorem ofEntries?_eq_some_iff {d : Document} {entries : List (String × Node)} {s : TelemetrySettings} :
    ofEntries? d entries = some s ↔
      ∀ k : Key, setting? k.name (k.read? d) (held {} k) entries = some (s.held k) := by
  simp only [ofEntries?, bind, Option.bind_eq_some_iff, Option.some.injEq]
  constructor
  · rintro ⟨enabled, henabled, logLevel, hlevel, excluded, hexcluded, serviceName, hservice, otlpEndpoint, hotlp,
      rfl⟩ k
    cases k with
    | enabled => exact henabled
    | logLevel => exact hlevel
    | excludedModules => exact hexcluded
    | serviceName => exact hservice
    | otlpEndpoint => exact hotlp
  · intro h
    exact ⟨_, h .enabled, _, h .logLevel, _, h .excludedModules, _, h .serviceName, _, h .otlpEndpoint, rfl⟩

end TelemetrySettings

/-- The settings of the program, each in its part of a document. -/
inductive Config.Key where
  | docker (k : EngineSettings.Key)
  | telemetry (k : TelemetrySettings.Key)

namespace Config.Key

/-- The name of the part in which a setting is given. -/
def part : Key → String
  | docker _ => "docker"
  | telemetry _ => "telemetry"

/-- The name of a setting in its part. -/
def name : Key → String
  | docker k => k.name
  | telemetry k => k.name

/-- What a setting is. -/
def Value : Key → Type
  | docker k => k.Value
  | telemetry k => k.Value

/-- The value of a setting as it is read off a node. -/
def read? (d : Document) : (s : Key) → Node → Option s.Value
  | docker k => k.read? d
  | telemetry k => k.read? d

/-- A node stands for a value of a setting. -/
def Means (d : Document) : (s : Key) → Node → s.Value → Prop
  | docker k => k.Means d
  | telemetry k => k.Means d

/-- A setting is read off the nodes that stand for a value of it, as this value. -/
theorem read?_eq_some_iff {d : Document} {s : Key} {n : Node} {v : s.Value} :
    s.read? d n = some v ↔ s.Means d n v := by
  cases s with
  | docker k => exact EngineSettings.Key.read?_eq_some_iff_means
  | telemetry k => exact TelemetrySettings.Key.read?_eq_some_iff_means

/-- A setting is not read off a node that stands for no value of it. -/
theorem read?_eq_none_iff {d : Document} {s : Key} {n : Node} : s.read? d n = none ↔ ∀ v, ¬ s.Means d n v := by
  simp only [Option.eq_none_iff_forall_ne_some, ne_eq, read?_eq_some_iff]

end Config.Key

/-- The value of a setting. -/
def Config.held (c : Config) : (s : Key) → s.Value
  | .docker k => c.docker.held k
  | .telemetry k => c.telemetry.held k

theorem Config.ext_held {c e : Config} (h : ∀ s, c.held s = e.held s) : c = e := by
  have hdocker : c.docker = e.docker := EngineSettings.ext_held fun k => h (.docker k)
  have htelemetry : c.telemetry = e.telemetry := TelemetrySettings.ext_held fun k => h (.telemetry k)
  cases c
  exact Config.mk.injEq .. ▸ ⟨hdocker, htelemetry⟩

namespace Config.Key

/-- The value of one setting, read on its own: under its name in what stands under the name of its part.  Nothing of
the other settings is read for it. -/
def lookup? (d : Document) (entries : List (String × Node)) (s : Key) : Option s.Value :=
  setting? s.part (fun n => (d.entries? n).bind (setting? s.name (s.read? d) (Config.held {} s)))
    (Config.held {} s) entries

end Config.Key

/-- The configuration with given values of its settings. -/
def Config.ofHeld (v : (s : Key) → s.Value) : Config where
  docker := ⟨v (.docker .socketPath), v (.docker .timeoutSecs), v (.docker .eventBuffer)⟩
  telemetry := ⟨v (.telemetry .enabled), v (.telemetry .logLevel), v (.telemetry .excludedModules),
    v (.telemetry .serviceName), v (.telemetry .otlpEndpoint)⟩

theorem Config.held_ofHeld (v : (s : Key) → s.Value) (s : Key) : (ofHeld v).held s = v s := by
  cases s with
  | docker k => cases k <;> rfl
  | telemetry k => cases k <;> rfl

/-- A configuration is read when each of its settings is.  The two parts are records of settings, so this is the lemma
about records twice. -/
theorem Config.ofEntries?_eq_some_iff {d : Document} {entries : List (String × Node)} {c : Config} :
    ofEntries? d entries = some c ↔ ∀ s : Key, s.lookup? d entries = some (c.held s) := by
  have : Nonempty EngineSettings.Key := ⟨.socketPath⟩
  have : Nonempty TelemetrySettings.Key := ⟨.enabled⟩
  have hdocker (e : EngineSettings) : setting? "docker"
      (fun n => (d.entries? n).bind (EngineSettings.ofEntries? d)) {} entries = some e ↔
        ∀ k, Key.lookup? d entries (.docker k) = some (e.held k) :=
    setting?_record_iff (fun k s => EngineSettings.held s k)
      (fun _ _ => EngineSettings.ofEntries?_eq_some_iff) fun _ _ => EngineSettings.ext_held
  have htelemetry (e : TelemetrySettings) : setting? "telemetry"
      (fun n => (d.entries? n).bind (TelemetrySettings.ofEntries? d)) {} entries = some e ↔
        ∀ k, Key.lookup? d entries (.telemetry k) = some (e.held k) :=
    setting?_record_iff (fun k s => TelemetrySettings.held s k)
      (fun _ _ => TelemetrySettings.ofEntries?_eq_some_iff) fun _ _ => TelemetrySettings.ext_held
  simp only [ofEntries?, bind, Option.bind_eq_some_iff, Option.some.injEq, hdocker, htelemetry]
  constructor
  · rintro ⟨docker, hd, telemetry, ht, rfl⟩ s
    cases s with
    | docker k => exact hd k
    | telemetry k => exact ht k
  · intro h
    exact ⟨c.docker, fun k => h (.docker k), c.telemetry, fun k => h (.telemetry k), rfl⟩

/-! ## What a document gives for a setting -/

namespace Config.Key

variable {d : Document} {entries : List (String × Node)} {s : Key}

/-- A document gives a node for a setting: under its name, in a mapping under the name of its part. -/
def Given (d : Document) (entries : List (String × Node)) (s : Key) (n : Node) : Prop :=
  ∃ m sub, (s.part, m) ∈ entries ∧ d.HasEntries m sub ∧ (s.name, n) ∈ sub

/-- What spoils a setting: its part or the setting is given twice, or is not what its type asks. -/
inductive Spoiled (d : Document) (entries : List (String × Node)) (s : Key) : Prop
  | partTwice (h : 2 ≤ (entries.map Prod.fst).count s.part)
  | partIllTyped {m : Node} (hm : (s.part, m) ∈ entries) (h : ∀ sub, ¬ d.HasEntries m sub)
  | twice {m : Node} {sub : List (String × Node)} (hm : (s.part, m) ∈ entries) (hsub : d.HasEntries m sub)
      (h : 2 ≤ (sub.map Prod.fst).count s.name)
  | illTyped {n : Node} (hn : Given d entries s n) (h : ∀ v, ¬ s.Means d n v)

/-- The nodes that a document gives for a setting. -/
def nodes (d : Document) (entries : List (String × Node)) (s : Key) : List Node :=
  (valuesAt s.part entries).flatMap fun m => valuesAt s.name ((d.entries? m).getD [])

/-- What is given for a setting are its nodes, of which there may be any number. -/
theorem given_iff_mem_nodes {n : Node} : Given d entries s n ↔ n ∈ s.nodes d entries := by
  simp only [nodes, List.mem_flatMap, mem_valuesAt_iff, Given, ← Document.entries?_eq_some_iff]
  constructor
  · rintro ⟨m, sub, hm, hsub, hn⟩
    exact ⟨m, hm, by rw [hsub]; exact hn⟩
  · rintro ⟨m, hm, hn⟩
    cases hsub : d.entries? m with
    | none =>
      rw [hsub] at hn
      cases hn
    | some sub =>
      rw [hsub] at hn
      exact ⟨m, sub, hm, hsub, hn⟩

/-- Without a node nothing is given. -/
theorem not_given_of_nodes_eq_nil (h : s.nodes d entries = []) (n : Node) : ¬ Given d entries s n := by
  rw [given_iff_mem_nodes, h]
  exact List.not_mem_nil

/-- A setting with a single node is the value that is read off the node, when it is what its nodes stand for. -/
theorem eq_of_nodes_eq_singleton {n : Node} {v w : s.Value}
    (hv : ∀ m, Given d entries s m → ∀ u, s.Means d m u ↔ u = v) (hnodes : s.nodes d entries = [n])
    (hread : s.read? d n = some w) : v = w := by
  have hgiven : Given d entries s n := by
    rw [given_iff_mem_nodes, hnodes]
    exact List.mem_singleton_self n
  exact ((hv n hgiven w).1 (read?_eq_some_iff.1 hread)).symm

/-- A setting cannot be read where something spoils it, and nowhere else.  What spoils it lies in the entries of the
document or, under the name of its part, in those of the part. -/
theorem lookup?_eq_none_iff : s.lookup? d entries = none ↔ Spoiled d entries s := by
  rw [lookup?, setting?_eq_none_iff]
  simp only [Option.bind_eq_none_iff, setting?_eq_none_iff, Document.entries?_eq_some_iff, read?_eq_none_iff]
  constructor
  · rintro (htwice | ⟨m, hm, hread⟩)
    · exact .partTwice htwice
    · by_cases hentries : ∃ sub, d.HasEntries m sub
      · obtain ⟨sub, hsub⟩ := hentries
        obtain htwice | ⟨n, hn, hill⟩ := hread sub hsub
        · exact .twice hm hsub htwice
        · exact .illTyped ⟨m, sub, hm, hsub, hn⟩ hill
      · exact .partIllTyped hm (not_exists.1 hentries)
  · -- a node has one list of entries, so what one list of them spoils is spoiled
    have hsame {m : Node} {sub sub' : List (String × Node)} (h : d.HasEntries m sub) (h' : d.HasEntries m sub') :
        sub = sub' := by
      rw [← Document.entries?_eq_some_iff] at h h'
      exact Option.some.inj (h.symm.trans h')
    rintro (htwice | ⟨hm, hnone⟩ | ⟨hm, hsub, htwice⟩ | ⟨⟨m, sub, hm, hsub, hn⟩, hill⟩)
    · exact Or.inl htwice
    · exact Or.inr ⟨_, hm, fun sub hsub => absurd hsub (hnone sub)⟩
    · exact Or.inr ⟨_, hm, fun sub' hsub' => Or.inl (hsame hsub hsub' ▸ htwice)⟩
    · exact Or.inr ⟨_, hm, fun sub' hsub' => Or.inr ⟨_, hsame hsub hsub' ▸ hn, hill⟩⟩

/-- A setting that is read is what is given for it, and as by default when nothing is.  That the part is missing, or
is there without the setting, makes no difference. -/
theorem eq_of_lookup? {v : s.Value} (h : s.lookup? d entries = some v) :
    (∀ n, Given d entries s n → ∀ w, s.Means d n w ↔ w = v) ∧
      ((∀ n, ¬ Given d entries s n) → v = Config.held {} s) := by
  obtain ⟨-, hgiven, habsent⟩ := setting?_eq_some_iff.1 h
  constructor
  · rintro n ⟨m, sub, hm, hsub, hn⟩ w
    have hpart := hgiven m hm
    rw [Document.entries?_eq_some_iff.2 hsub, Option.bind_some] at hpart
    rw [← read?_eq_some_iff, (setting?_eq_some_iff.1 hpart).2.1 n hn, Option.some.injEq, eq_comm]
  · intro hnone
    by_cases hpart : ∃ m, (s.part, m) ∈ entries
    · obtain ⟨m, hm⟩ := hpart
      obtain ⟨sub, hsub, hlookup⟩ := Option.bind_eq_some_iff.1 (hgiven m hm)
      exact (setting?_eq_some_iff.1 hlookup).2.2 fun n hn =>
        hnone n ⟨m, sub, hm, Document.entries?_eq_some_iff.1 hsub, hn⟩
    · exact habsent fun m hm => hpart ⟨m, hm⟩

end Config.Key

/-! ## Documents that give the same -/

namespace Yaml.Document

/-- The items of a sequence. -/
def items? (d : Document) (n : Node) : Option (List Node) :=
  match d.resolve? n with
  | some (.sequence items) => some items
  | _ => none

/-- What can be seen of a node where no mapping is asked for: the scalar that it is, or the scalars among the items of
the sequence that it is.  Two nodes with one content are the same to every setting. -/
def content (d : Document) (n : Node) : Option Scalar × Option (List (Option Scalar)) :=
  (d.scalar? n, (d.items? n).map (·.map d.scalar?))

/-- A list of texts is read off the content of a node. -/
theorem texts?_eq (d : Document) (n : Node) :
    d.texts? n = match (d.content n).2 with
      | some scalars => scalars.mapM (·.map Scalar.text)
      | none => (d.content n).1.bind fun s => if s.isEmpty then some [] else none := by
  simp only [texts?, content, items?, scalar?]
  cases d.resolve? n with
  | none => rfl
  | some node =>
    cases node with
    | sequence items => exact List.mapM_map.symm
    | _ => rfl

end Yaml.Document

namespace Config.Key

/-- A setting is read off the content of a node. -/
theorem read?_congr {d d' : Document} {n n' : Node} (h : d.content n = d'.content n') (s : Key) :
    s.read? d n = s.read? d' n' := by
  have hscalar : d.scalar? n = d'.scalar? n' := congrArg Prod.fst h
  have htext : d.text? n = d'.text? n' := congrArg (Option.map Scalar.text) hscalar
  have hnat : d.nat64? n = d'.nat64? n' := congrArg (Option.bind · Scalar.nat64?) hscalar
  cases s with
  | docker k =>
    cases k with
    | socketPath => exact congrArg (Option.bind · Scalar.optionalText?) hscalar
    | timeoutSecs => exact hnat
    | eventBuffer => exact hnat
  | telemetry k =>
    cases k with
    | enabled => exact congrArg (Option.bind · Scalar.bool?) hscalar
    | logLevel => exact htext
    | serviceName => exact htext
    | otlpEndpoint => exact htext
    | excludedModules =>
      show d.texts? n = d'.texts? n'
      rw [Document.texts?_eq, Document.texts?_eq, h]

/-- Two lists of nodes are the same but for their order and for what a relation does not tell apart. -/
def Reordered (R : Node → Node → Prop) (ns ns' : List Node) : Prop :=
  ∃ ms, ns.Perm ms ∧ List.Forall₂ R ms ns'

theorem Reordered.map_perm {α : Type} {R : Node → Node → Prop} {f g : Node → α} {ns ns' : List Node}
    (h : Reordered R ns ns') (hR : ∀ n n', R n n' → f n = g n') : (ns.map f).Perm (ns'.map g) := by
  obtain ⟨ms, hperm, hforall⟩ := h
  have hsame : List.Forall₂ (· = ·) (ms.map f) (ns'.map g) :=
    List.forall₂_map_left_iff.2 (List.forall₂_map_right_iff.2 (hforall.imp hR))
  rw [List.forall₂_eq_eq_eq] at hsame
  rw [← hsame]
  exact hperm.map f

/-- Two documents give the same for a setting, but for the order of their keys and for all keys but its own. -/
def SameGiven (d : Document) (entries : List (String × Node)) (d' : Document) (entries' : List (String × Node))
    (s : Key) : Prop :=
  Reordered (fun m m' => ∃ sub sub', d.HasEntries m sub ∧ d'.HasEntries m' sub' ∧
    Reordered (fun n n' => d.content n = d'.content n') (valuesAt s.name sub) (valuesAt s.name sub'))
    (valuesAt s.part entries) (valuesAt s.part entries')

/-- Documents that give the same for a setting are read alike for it. -/
theorem lookup?_congr {d d' : Document} {entries entries' : List (String × Node)} {s : Key}
    (h : SameGiven d entries d' entries' s) : s.lookup? d entries = s.lookup? d' entries' := by
  refine setting?_congr _ (h.map_perm fun m m' hm => ?_)
  obtain ⟨sub, sub', hsub, hsub', hsame⟩ := hm
  rw [Document.entries?_eq_some_iff.2 hsub, Document.entries?_eq_some_iff.2 hsub', Option.bind_some,
    Option.bind_some]
  exact setting?_congr _ (hsame.map_perm fun n n' hn => read?_congr hn s)

end Config.Key

namespace Config

open Key (Given Spoiled SameGiven)

/-! ## Files of settings -/

/-- The file at a path holds a document whose root has the given entries. -/
def Holds (files : FileTree) (path : String) (d : Document) (entries : List (String × Node)) : Prop :=
  ∃ text root, files path = .file text.toUTF8 ∧ Document.read? text = some d ∧ d.root = some root ∧
    d.HasEntries root entries

variable {files : FileTree} {path : String} {d d' : Document} {entries entries' : List (String × Node)}

/-- What is loaded from a file of entries are the settings that they give, if these have room for events. -/
theorem fromFile_of_holds (complaint : Complaint) (h : Holds files path d entries) :
    ∃ text, files path = .file text.toUTF8 ∧ fromFile files path complaint = match ofEntries? d entries with
      | none => .error (.malformed (complaint text))
      | some c => c.validate := by
  obtain ⟨text, root, hfile, hread, hroot, hentries⟩ := h
  refine ⟨text, hfile, ?_⟩
  have htext : (files path).text = .ok text := Entry.text_eq_ok_iff.2 hfile
  have hdocument : ofDocument? d = ofEntries? d entries := by
    simp only [ofDocument?, hroot, Document.entries?_eq_some_iff.2 hentries, Option.bind_some]
  rw [fromFile, ofEntry, htext]
  cases hsettings : ofEntries? d entries with
  | none => simp only [ofText, hread, Option.bind_some, hdocument, hsettings]
  | some c => simp only [ofText, hread, Option.bind_some, hdocument, hsettings]

/-- Settings that can all be read make up a configuration, with the values that are read. -/
theorem exists_ofEntries?_eq_some (h : ∀ s, ¬ Spoiled d entries s) : ∃ c, ofEntries? d entries = some c := by
  have hread (s : Key) : ∃ v, s.lookup? d entries = some v :=
    Option.ne_none_iff_exists'.1 (mt Key.lookup?_eq_none_iff.1 (h s))
  refine ⟨ofHeld fun s => (hread s).choose, ofEntries?_eq_some_iff.2 fun s => ?_⟩
  rw [held_ofHeld]
  exact (hread s).choose_spec

/-- One setting that cannot be read leaves no configuration. -/
theorem ofEntries?_eq_none {s : Key} (h : Spoiled d entries s) : ofEntries? d entries = none := by
  refine Option.eq_none_iff_forall_ne_some.2 fun c hc => ?_
  have hnone := Key.lookup?_eq_none_iff.2 h
  rw [ofEntries?_eq_some_iff.1 hc s] at hnone
  cases hnone

/-- Entries that give the same settings are read alike. -/
theorem ofEntries?_congr (h : ∀ s, SameGiven d entries d' entries' s) :
    ofEntries? d' entries' = ofEntries? d entries := by
  refine Option.ext fun c => ?_
  simp only [ofEntries?_eq_some_iff, fun s => Key.lookup?_congr (h s)]

/-- Every setting that a file gives counts as it is given, and every other one as by default; a setting that is
given twice, or not as its type asks, spoils the whole file; and files that give the same, whatever the order of the
keys and whatever else they hold, are read alike. -/
theorem overrides (complaint : Complaint) (h : Holds files path d entries) :
    ((∀ s, ¬ Spoiled d entries s) →
      (∀ n, Given d entries (.docker .eventBuffer) n → ¬ Key.Means d (.docker .eventBuffer) n (0 : Nat)) →
      ∃ c, fromFile files path complaint = .ok c) ∧
    -- a setting that is given has the one value that is meant
    (∀ c, fromFile files path complaint = .ok c → ∀ s,
      (∀ n, Given d entries s n → ∀ v, s.Means d n v ↔ v = c.held s) ∧
        ((∀ n, ¬ Given d entries s n) → c.held s = Config.held {} s)) ∧
    (∀ s, Spoiled d entries s → ∃ text, files path = .file text.toUTF8 ∧
      fromFile files path complaint = .error (.malformed (complaint text)) ∧
        (Error.malformed (complaint text)).code = "F101") ∧
    -- negative and fractional numbers, and those that eight bytes do not hold, are not what a number asks for
    (∀ k, k = .timeoutSecs ∨ k = .eventBuffer → ∀ n s, Given d entries (.docker k) n → d.IsScalar n s →
      ('-' ∈ s.text.toList ∨ '.' ∈ s.text.toList ∨
        ∃ v, Scalar.Counts s.text.toList v ∧ Nat.pow 2 64 ≤ v) → Spoiled d entries (.docker k)) ∧
    (∀ files' path' d' entries', Holds files' path' d' entries' → (∀ s, SameGiven d entries d' entries' s) →
      (fromFile files' path' complaint).mapError Error.code =
        (fromFile files path complaint).mapError Error.code) := by
  obtain ⟨text, htext, hfile⟩ := fromFile_of_holds complaint h
  -- what is loaded was read, since checking changes nothing
  have hloaded (c : Config) (hc : fromFile files path complaint = .ok c) : ofEntries? d entries = some c := by
    rw [hfile] at hc
    split at hc
    · cases hc
    · rename_i hsome
      rw [hsome, (validate_eq_ok_iff.1 hc).2]
  refine ⟨fun hgood hroom => ?_, fun c hc s => ?_, fun s hs => ⟨text, htext, ?_, rfl⟩, ?_,
    fun files' path' d' entries' h' hsame => ?_⟩
  · obtain ⟨c, hc⟩ := exists_ofEntries?_eq_some hgood
    obtain ⟨hgiven, habsent⟩ := Key.eq_of_lookup? (ofEntries?_eq_some_iff.1 hc (.docker .eventBuffer))
    refine ⟨c, ?_⟩
    rw [hfile, hc]
    refine validate_eq_ok_iff.2 ⟨fun hzero => ?_, rfl⟩
    -- no room is not the default, so it would have been given
    by_cases hany : ∃ n, Given d entries (.docker .eventBuffer) n
    · obtain ⟨n, hn⟩ := hany
      exact hroom n hn ((hgiven n hn _).2 hzero.symm)
    · have hdefault : c.docker.eventBuffer = 128 := habsent (not_exists.1 hany)
      omega
  · exact Key.eq_of_lookup? (ofEntries?_eq_some_iff.1 (hloaded c hc) s)
  · rw [hfile, ofEntries?_eq_none hs]
  · intro k hk n s hn hscalar hnumber
    refine .illTyped hn ?_
    have hnone (v : Nat) : ¬ ∃ t, d.IsScalar n t ∧ t.IsNumber v := by
      rintro ⟨t, ht, hnumber'⟩
      obtain rfl : s = t := Option.some.inj
        ((Document.scalar?_eq_some_iff.2 hscalar).symm.trans (Document.scalar?_eq_some_iff.2 ht))
      exact Scalar.not_isNumber hnumber hnumber'
    obtain rfl | rfl := hk
    · exact hnone
    · exact hnone
  · obtain ⟨text', -, hfile'⟩ := fromFile_of_holds complaint h'
    rw [hfile', ofEntries?_congr hsame, hfile]
    cases ofEntries? d entries with
    | none => rfl
    | some c => rfl

/-- What a file of settings holds, by the tokens of its text. -/
theorem holds_of_tokens {text : String} {root : Node} (tokens : List Yaml.Token)
    (hfile : files path = .file text.toUTF8) (htokens : Yaml.Token.ofText? text = some tokens)
    (hdocument : Document.ofTokens? tokens = some d) (hroot : d.root = some root)
    (hentries : d.entries? root = some entries) : Holds files path d entries := by
  refine ⟨text, root, hfile, ?_, hroot, Document.entries?_eq_some_iff.1 hentries⟩
  rw [Document.read?, htokens]
  exact hdocument

/-- Two files with the same settings, in the other order and with a key that is no setting, one in which nothing is
given, and one with a negative number. -/
def overridingFiles : FileTree
  | "config.yaml" => .file ("telemetry:\n  log_level: warn\n  enabled: true\n" ++
      "docker:\n  socket_path: /run/engine.sock\n  event_buffer: 16\n").toUTF8
  | "turned.yaml" => .file ("docker:\n  event_buffer: 16\n  color: red\n  socket_path: /run/engine.sock\n" ++
      "telemetry:\n  enabled: true\n  log_level: warn\n").toUTF8
  | "empty.yaml" => .file "docker:\n".toUTF8
  | "negative.yaml" => .file "docker:\n  timeout_secs: -1\ntelemetry:\n  log_level: warn\n".toUTF8
  | _ => .nothing

/-- A plain scalar. -/
def plain (text : String) : Node := .scalar ⟨.plain, none, text⟩

/-- A part of a document, from names to plain scalars. -/
def partNode (pairs : List (String × String)) : Node :=
  .mapping (pairs.map fun (name, value) => (plain name, plain value))

/-- A document that is one mapping, without anchors. -/
def documentOf (entries : List (String × Node)) : Document :=
  ⟨some (.mapping (entries.map fun (name, n) => (plain name, n))), []⟩

/-- The tokens of a mapping that is written line by line. -/
def mappingTokens (entries : List (String × List Yaml.Token)) : List Yaml.Token :=
  .blockMappingStart :: (entries.flatMap fun (name, value) => [.key, .scalar .plain name, .value] ++ value) ++
    [.blockEnd]

/-- The tokens of a part of a document. -/
def partTokens (pairs : List (String × String)) : List Yaml.Token :=
  mappingTokens (pairs.map fun (name, value) => (name, [.scalar .plain value]))

/-- What `config.yaml` holds. -/
def configEntries : List (String × Node) :=
  [("telemetry", partNode [("log_level", "warn"), ("enabled", "true")]),
    ("docker", partNode [("socket_path", "/run/engine.sock"), ("event_buffer", "16")])]

/-- What `turned.yaml` holds. -/
def turnedEntries : List (String × Node) :=
  [("docker", partNode [("event_buffer", "16"), ("color", "red"), ("socket_path", "/run/engine.sock")]),
    ("telemetry", partNode [("enabled", "true"), ("log_level", "warn")])]

/-- What `empty.yaml` holds. -/
def emptyEntries : List (String × Node) := [("docker", plain "")]

/-- What `negative.yaml` holds. -/
def negativeEntries : List (String × Node) :=
  [("docker", partNode [("timeout_secs", "-1")]), ("telemetry", partNode [("log_level", "warn")])]

theorem holds_config : Holds overridingFiles "config.yaml" (documentOf configEntries) configEntries :=
  holds_of_tokens (mappingTokens
    [("telemetry", partTokens [("log_level", "warn"), ("enabled", "true")]),
      ("docker", partTokens [("socket_path", "/run/engine.sock"), ("event_buffer", "16")])])
    rfl (by decide +kernel) rfl rfl rfl

theorem holds_turned : Holds overridingFiles "turned.yaml" (documentOf turnedEntries) turnedEntries :=
  holds_of_tokens (mappingTokens
    [("docker", partTokens [("event_buffer", "16"), ("color", "red"), ("socket_path", "/run/engine.sock")]),
      ("telemetry", partTokens [("enabled", "true"), ("log_level", "warn")])])
    rfl (by decide +kernel) rfl rfl rfl

theorem holds_empty : Holds overridingFiles "empty.yaml" (documentOf emptyEntries) emptyEntries :=
  holds_of_tokens (mappingTokens [("docker", [])]) rfl (by decide +kernel) rfl rfl rfl

theorem holds_negative : Holds overridingFiles "negative.yaml" (documentOf negativeEntries) negativeEntries :=
  holds_of_tokens (mappingTokens
    [("docker", partTokens [("timeout_secs", "-1")]), ("telemetry", partTokens [("log_level", "warn")])])
    rfl (by decide +kernel) rfl rfl rfl

theorem not_spoiled_config (s : Key) : ¬ Spoiled (documentOf configEntries) configEntries s := by
  rw [← Key.lookup?_eq_none_iff]
  rcases s with (_ | _ | _) | (_ | _ | _ | _ | _) <;> nofun

theorem not_spoiled_empty (s : Key) : ¬ Spoiled (documentOf emptyEntries) emptyEntries s := by
  rw [← Key.lookup?_eq_none_iff]
  rcases s with (_ | _ | _) | (_ | _ | _ | _ | _) <;> nofun

theorem sameGiven_config_turned (s : Key) :
    SameGiven (documentOf configEntries) configEntries (documentOf turnedEntries) turnedEntries s := by
  refine ⟨_, .refl _, ?_⟩
  have hentries {d : Document} {n : Node} {sub : List (String × Node)} (h : d.entries? n = some sub) :
      d.HasEntries n sub := Document.entries?_eq_some_iff.1 h
  rcases s with (_ | _ | _) | (_ | _ | _ | _ | _)
  case docker.socketPath | docker.eventBuffer | telemetry.enabled | telemetry.logLevel =>
    exact .cons ⟨_, _, hentries rfl, hentries rfl, _, .refl _, .cons rfl .nil⟩ .nil
  all_goals exact .cons ⟨_, _, hentries rfl, hentries rfl, _, .refl _, .nil⟩ .nil

/-- The settings that are given count, the others are as by default, the order and the other key make no difference,
and the negative number leaves nothing of the good setting beside it. -/
theorem overrides_overridingFiles :
    fromFile overridingFiles "config.yaml" =
        .ok ⟨⟨some "/run/engine.sock", 120, 16⟩,
          ⟨true, "warn", ["hyper", "h2"], "dockerapi", "http://localhost:4317"⟩⟩ ∧
      (fromFile overridingFiles "turned.yaml").mapError Error.code =
        (fromFile overridingFiles "config.yaml").mapError Error.code ∧
      fromFile overridingFiles "empty.yaml" =
        .ok ⟨⟨none, 120, 128⟩, ⟨false, "info", ["hyper", "h2"], "dockerapi", "http://localhost:4317"⟩⟩ ∧
      ∃ x, fromFile overridingFiles "negative.yaml" = .error x ∧ x.code = "F101" := by
  obtain ⟨hload, hheld, -, -, hsame⟩ := overrides untold holds_config
  obtain ⟨hloadEmpty, hheldEmpty, -, -, -⟩ := overrides untold holds_empty
  obtain ⟨-, -, hspoiled, hnegative, -⟩ := overrides untold holds_negative
  refine ⟨?_, hsame _ _ _ _ holds_turned sameGiven_config_turned, ?_, ?_⟩
  · have hroom (n : Node) (hn : Given (documentOf configEntries) configEntries (.docker .eventBuffer) n) :
        ¬ Key.Means (documentOf configEntries) (.docker .eventBuffer) n (0 : Nat) := by
      obtain rfl : n = plain "16" := List.mem_singleton.1 (Key.given_iff_mem_nodes.1 hn)
      exact fun hzero => absurd (Key.read?_eq_some_iff.2 hzero) nofun
    obtain ⟨c, hc⟩ := hload not_spoiled_config hroom
    rw [hc]
    refine congrArg _ (Config.ext_held fun s => ?_)
    -- a setting with a node holds what the node stands for, and one without is as by default
    obtain ⟨hgiven, habsent⟩ := hheld c hc s
    rcases s with (_ | _ | _) | (_ | _ | _ | _ | _)
    case docker.socketPath | docker.eventBuffer | telemetry.enabled | telemetry.logLevel =>
      exact Key.eq_of_nodes_eq_singleton hgiven rfl rfl
    all_goals exact habsent (Key.not_given_of_nodes_eq_nil rfl)
  · have hnone (s : Key) : ∀ n, ¬ Given (documentOf emptyEntries) emptyEntries s n := by
      rcases s with (_ | _ | _) | (_ | _ | _ | _ | _)
      all_goals exact Key.not_given_of_nodes_eq_nil rfl
    obtain ⟨c, hc⟩ := hloadEmpty not_spoiled_empty fun n hn => absurd hn (hnone _ n)
    rw [hc]
    exact congrArg _ (Config.ext_held fun s => (hheldEmpty c hc s).2 (hnone s))
  · have hminus : Given (documentOf negativeEntries) negativeEntries (.docker .timeoutSecs) (plain "-1") :=
      Key.given_iff_mem_nodes.2 (List.mem_singleton_self _)
    have hspoils := hnegative .timeoutSecs (Or.inl rfl) _ _ hminus (.itself nofun) (Or.inl (by decide))
    obtain ⟨_, -, hload, hcode⟩ := hspoiled _ hspoils
    exact ⟨_, hload, hcode⟩

end Config

end ContainerWatch
