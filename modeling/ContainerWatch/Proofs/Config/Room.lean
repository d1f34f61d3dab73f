import ContainerWatch.Config.Load
/-!
# How much room settings ask for

A number in a document fits eight bytes, and settings without room are refused.  So whatever way settings are
found, the room that they ask for lies between one and the greatest number of eight bytes.

The upper bound goes up through the readers, one lemma for each: a scalar, a node, the entries of a section, the
entries of a document.  The lower bound comes from the check at the end (`Config.ofText_eq_ok_iff`).

Main statement: `Config.eventBuffer_bounds_of_load`.
-/

namespace ContainerWatch

/-- A setting that is read is the default or what a node says.  What is shown of both is shown of the setting. -/
theorem setting?_cases {α : Type} {name : String} {decode : Yaml.Node → Option α} {default v : α}
    {entries : List (String × Yaml.Node)} (h : setting? name decode default entries = some v) :
    v = default ∨ ∃ n, decode n = some v := by
  unfold setting? at h
  split at h
  · exact Or.inl (Option.some.inj h).symm
  · exact Or.inr ⟨_, h⟩
  · cases h

/-- A scalar is read as a number only where eight bytes hold it. -/
theorem Yaml.Scalar.nat64?_le {s : Scalar} {n : Nat} (h : s.nat64? = some n) : n ≤ Numeral.nat64Max := by
  unfold nat64? at h
  split at h
  · exact unsigned?_le h
  · cases h

theorem Yaml.Document.nat64?_le {d : Document} {node : Node} {n : Nat} (h : d.nat64? node = some n) :
    n ≤ Numeral.nat64Max := by
  obtain ⟨s, _, hs⟩ := Option.bind_eq_some_iff.1 h
  exact Scalar.nat64?_le hs

theorem EngineSettings.eventBuffer_default_le : ({} : EngineSettings).eventBuffer ≤ Numeral.nat64Max := by
  decide

/-- The room in a section of the engine is a number of eight bytes. -/
theorem EngineSettings.eventBuffer_le_of_ofEntries? {d : Yaml.Document}
    {entries : List (String × Yaml.Node)} {s : EngineSettings} (h : ofEntries? d entries = some s) :
    s.eventBuffer ≤ Numeral.nat64Max := by
  simp only [ofEntries?, bind, Option.bind_eq_some_iff, Option.some.injEq] at h
  obtain ⟨_, _, _, _, eventBuffer, hbuffer, rfl⟩ := h
  obtain rfl | ⟨node, hnode⟩ := setting?_cases hbuffer
  · exact eventBuffer_default_le
  · exact Yaml.Document.nat64?_le hnode

namespace Config

/-- So it is in the entries of a document, where the section may be left out. -/
theorem eventBuffer_le_of_ofEntries? {d : Yaml.Document} {entries : List (String × Yaml.Node)} {c : Config}
    (h : ofEntries? d entries = some c) : c.docker.eventBuffer ≤ Numeral.nat64Max := by
  simp only [ofEntries?, bind, Option.bind_eq_some_iff, Option.some.injEq] at h
  obtain ⟨docker, hdocker, _, _, rfl⟩ := h
  obtain rfl | ⟨node, hnode⟩ := setting?_cases hdocker
  · exact EngineSettings.eventBuffer_default_le
  · obtain ⟨_, _, hentries⟩ := Option.bind_eq_some_iff.1 hnode
    exact EngineSettings.eventBuffer_le_of_ofEntries? hentries

theorem eventBuffer_le_of_ofDocument? {d : Yaml.Document} {c : Config} (h : ofDocument? d = some c) :
    c.docker.eventBuffer ≤ Numeral.nat64Max := by
  unfold ofDocument? at h
  split at h
  · cases h
    decide
  · obtain ⟨_, _, hentries⟩ := Option.bind_eq_some_iff.1 h
    exact eventBuffer_le_of_ofEntries? hentries

/-- The settings in a text are those of a document with room for events.  What is said about a text that is no
document of settings does not matter here. -/
theorem ofText_eq_ok_iff {text : String} {complaint : Complaint} {c : Config} :
    ofText text complaint = .ok c ↔
      (∃ d, Yaml.Document.read? text = some d ∧ ofDocument? d = some c) ∧ c.docker.eventBuffer ≠ 0 := by
  rw [← Option.bind_eq_some_iff, ofText]
  constructor
  · intro h
    split at h
    · cases h
    · rename_i hdocument
      obtain ⟨hne, rfl⟩ := validate_eq_ok_iff.1 h
      exact ⟨hdocument, hne⟩
  · rintro ⟨hdocument, hne⟩
    rw [hdocument]
    exact validate_eq_ok_iff.2 ⟨hne, rfl⟩

/-- Settings are the defaults, or those in the text of a file. -/
theorem load_cases {files : FileTree} {given : Option String} {complaint : Complaint} {c : Config}
    (h : load files given complaint = .ok c) : c = {} ∨ ∃ text, ofText text complaint = .ok c := by
  unfold load at h
  simp only [fromFile, ofEntry] at h
  split at h
  · cases h
    exact Or.inl rfl
  · split at h
    · cases h
    · exact Or.inr ⟨_, h⟩
  · split at h
    · cases h
    · exact Or.inr ⟨_, h⟩

/-- Settings ask for some room, and for no more than eight bytes can say. -/
theorem eventBuffer_bounds_of_load {files : FileTree} {given : Option String} {complaint : Complaint} {c : Config}
    (h : load files given complaint = .ok c) : 1 ≤ c.docker.eventBuffer ∧ c.docker.eventBuffer ≤ Numeral.nat64Max := by
  obtain rfl | ⟨text, htext⟩ := load_cases h
  · decide
  · obtain ⟨⟨d, _, hd⟩, hne⟩ := ofText_eq_ok_iff.1 htext
    exact ⟨Nat.one_le_iff_ne_zero.2 hne, eventBuffer_le_of_ofDocument? hd⟩

end Config

end ContainerWatch
