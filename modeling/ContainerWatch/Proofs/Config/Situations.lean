import ContainerWatch.Failure.Chain
import ContainerWatch.Proofs.Config.Room
/-!
# Every situation at the path of the settings

A path has nothing, a directory or a file with any bytes.  What loading gives in each situation is settled by
the first of these questions that is answered with no: whether there is a text, whether the text is a document
of settings, and whether the settings have room for events.  The defaults stand in for a file where there is
nothing at the path, and nowhere else.

Every question is an equivalence between what is loaded and what is there, so the situations exclude each other and
leave none out.  Which texts are documents of settings is the question of one predicate (`Config.Describes`); what a
document says about each setting is the subject of `ContainerWatch.Proofs.Config.Overrides`.

Main statements: `Classified`, what is loaded from a path, and `Config.load_situations`.
-/

namespace ContainerWatch

/-! ## The text of an entry -/

theorem Entry.text_eq_ok_iff {e : Entry} {text : String} : e.text = .ok text ↔ e = .file text.toUTF8 := by
  cases e with
  | nothing => exact ⟨nofun, nofun⟩
  | directory => exact ⟨nofun, nofun⟩
  | file content =>
    rw [Entry.text, String.fromUTF8?, Entry.file.injEq]
    by_cases hvalid : content.IsValidUTF8
    · rw [dif_pos hvalid]
      exact ⟨fun h => congrArg String.toUTF8 (Except.ok.inj h),
        fun h => congrArg Except.ok (String.toByteArray_inj.1 h)⟩
    · rw [dif_neg hvalid]
      refine ⟨nofun, fun h => absurd ?_ hvalid⟩
      rw [h]
      exact text.isValidUTF8

/-- There is no text where there is no file, or a file that is not encoded as texts are. -/
theorem Entry.exists_text_eq_error_iff {e : Entry} :
    (∃ cause, e.text = .error cause) ↔
      e = .nothing ∨ e = .directory ∨ ∃ content, e = .file content ∧ ¬ content.IsValidUTF8 := by
  cases e with
  | nothing => exact ⟨fun _ => Or.inl rfl, fun _ => ⟨_, rfl⟩⟩
  | directory => exact ⟨fun _ => Or.inr (Or.inl rfl), fun _ => ⟨_, rfl⟩⟩
  | file content =>
    simp only [Entry.text, String.fromUTF8?, reduceCtorEq, false_or, Entry.file.injEq]
    by_cases hvalid : content.IsValidUTF8
    · rw [dif_pos hvalid]
      exact ⟨nofun, fun ⟨_, heq, hbad⟩ => absurd (heq ▸ hvalid) hbad⟩
    · rw [dif_neg hvalid]
      exact ⟨fun _ => ⟨content, rfl, hvalid⟩, fun _ => ⟨_, rfl⟩⟩

namespace Config

/-! ## The settings in a text -/

/-- A text is a document of settings. -/
def Describes (text : String) (c : Config) : Prop :=
  ∃ d, Yaml.Document.read? text = some d ∧ ofDocument? d = some c

/-- A text gives no settings when it is no document of settings, or one without room for events. -/
theorem ofText_eq_error_iff {text : String} {complaint : Complaint} {x : Error} :
    ofText text complaint = .error x ↔
      ((∀ c, ¬ Describes text c) ∧ x = .malformed (complaint text)) ∨
        ∃ c, Describes text c ∧ c.docker.eventBuffer = 0 ∧ x = emptyBuffer := by
  simp only [Describes, ← Option.bind_eq_some_iff, ofText]
  cases hread : (Yaml.Document.read? text).bind ofDocument? with
  | none => simp [eq_comm]
  | some c =>
    by_cases hroom : c.docker.eventBuffer = 0
    · simp [validate, hroom, eq_comm]
    · simp [validate, hroom]

/-! ## The settings at a path -/

/-- An entry gives settings when it is a file with a text that describes them, with room for events. -/
theorem ofEntry_eq_ok_iff {e : Entry} {complaint : Complaint} {c : Config} :
    ofEntry e complaint = .ok c ↔
      ∃ text, e = .file text.toUTF8 ∧ Describes text c ∧ c.docker.eventBuffer ≠ 0 := by
  simp only [← Entry.text_eq_ok_iff, ofEntry]
  cases htext : e.text with
  | error cause => simp
  | ok text => simp only [ofText_eq_ok_iff, Except.ok.injEq, exists_eq_left', Describes]

/-- An entry gives no settings for one of three reasons, which come in this order. -/
theorem ofEntry_eq_error_iff {e : Entry} {complaint : Complaint} {x : Error} :
    ofEntry e complaint = .error x ↔
      (∃ cause, e.text = .error cause ∧ x = .unreadable cause) ∨
        (∃ text, e = .file text.toUTF8 ∧ (∀ c, ¬ Describes text c) ∧ x = .malformed (complaint text)) ∨
        ∃ text c, e = .file text.toUTF8 ∧ Describes text c ∧ c.docker.eventBuffer = 0 ∧ x = emptyBuffer := by
  simp only [← Entry.text_eq_ok_iff, ofEntry]
  cases htext : e.text with
  | error cause => simp [eq_comm]
  | ok text => simp [ofText_eq_error_iff]

/-- What is loaded from an entry, in every situation.  The failures are told apart by their codes, since these are
what is reported. -/
structure Classified (e : Entry) (r : Except Error Config) : Prop where
  unreadable : (∃ x, r = .error x ∧ x.code = "F100") ↔
    e = .nothing ∨ e = .directory ∨ ∃ content, e = .file content ∧ ¬ content.IsValidUTF8
  malformed : (∃ x, r = .error x ∧ x.code = "F101") ↔
    ∃ text, e = .file text.toUTF8 ∧ ∀ c, ¬ Describes text c
  invalid : (∃ x, r = .error x ∧ x.code = "F102") ↔
    ∃ text c, e = .file text.toUTF8 ∧ Describes text c ∧ c.docker.eventBuffer = 0
  loaded : ∀ c, r = .ok c ↔
    ∃ text, e = .file text.toUTF8 ∧ Describes text c ∧ c.docker.eventBuffer ≠ 0

/-- Each situation is told from the others by what is loaded. -/
theorem classified_ofEntry (e : Entry) (complaint : Complaint) : Classified e (ofEntry e complaint) where
  unreadable := by
    rw [← Entry.exists_text_eq_error_iff]
    constructor
    · rintro ⟨x, h, hcode⟩
      obtain ⟨cause, htext, -⟩ | ⟨_, _, _, rfl⟩ | ⟨_, _, _, _, _, rfl⟩ := ofEntry_eq_error_iff.1 h
      · exact ⟨cause, htext⟩
      · simp [Error.code] at hcode
      · exact absurd hcode (by decide)
    · rintro ⟨cause, htext⟩
      exact ⟨_, ofEntry_eq_error_iff.2 (Or.inl ⟨cause, htext, rfl⟩), rfl⟩
  malformed := by
    constructor
    · rintro ⟨x, h, hcode⟩
      obtain ⟨_, _, rfl⟩ | ⟨text, he, hnone, -⟩ | ⟨_, _, _, _, _, rfl⟩ := ofEntry_eq_error_iff.1 h
      · simp [Error.code] at hcode
      · exact ⟨text, he, hnone⟩
      · exact absurd hcode (by decide)
    · rintro ⟨text, he, hnone⟩
      exact ⟨_, ofEntry_eq_error_iff.2 (Or.inr (Or.inl ⟨text, he, hnone, rfl⟩)), rfl⟩
  invalid := by
    constructor
    · rintro ⟨x, h, hcode⟩
      obtain ⟨_, _, rfl⟩ | ⟨_, _, _, rfl⟩ | ⟨text, c, he, hc, hroom, -⟩ := ofEntry_eq_error_iff.1 h
      · simp [Error.code] at hcode
      · simp [Error.code] at hcode
      · exact ⟨text, c, he, hc, hroom⟩
    · rintro ⟨text, c, he, hc, hroom⟩
      exact ⟨_, ofEntry_eq_error_iff.2 (Or.inr (Or.inr ⟨text, c, he, hc, hroom, rfl⟩)), rfl⟩
  loaded _ := ofEntry_eq_ok_iff

/-! ## The settings of the program -/

/-- Where the settings are: at the path that the surroundings give, if they do. -/
def path (given : Option String) : String := given.getD "config.yaml"

theorem load_of_nothing {files : FileTree} {given : Option String} (complaint : Complaint)
    (h : files (path given) = .nothing) : load files given complaint = .ok {} := by
  rw [path] at h
  simp only [load, defaultPath, h]

/-- Where something is at the path, it is loaded as a file, whatever it is. -/
theorem load_of_ne_nothing {files : FileTree} {given : Option String} (complaint : Complaint)
    (h : files (path given) ≠ .nothing) : load files given complaint = fromFile files (path given) complaint := by
  rw [path] at h ⊢
  unfold load
  simp only [defaultPath]
  split
  · rename_i hnothing
    exact absurd hnothing h
  · rfl
  · rfl

/-- The defaults stand in for a file where nothing is, and nowhere else. -/
theorem load_eq_fromFile_iff {files : FileTree} {given : Option String} {complaint : Complaint} :
    load files given complaint = fromFile files (path given) complaint ↔ files (path given) ≠ .nothing := by
  refine ⟨fun h hnothing => ?_, load_of_ne_nothing complaint⟩
  -- a file that is not there has no settings, not even the defaults
  rw [load_of_nothing complaint hnothing, fromFile, hnothing] at h
  cases h

/-- A file is loaded as what it says, defaults are loaded exactly where nothing is, a failure keeps its code and
text among all failures, and settings have room for events whichever way they were found. -/
theorem load_situations (files : FileTree) (given : Option String) (complaint : Complaint) :
    (∀ p, Classified (files p) (fromFile files p complaint)) ∧
    (files (path given) = .nothing → load files given complaint = .ok {}) ∧
    (load files given complaint = fromFile files (path given) complaint ↔ files (path given) ≠ .nothing) ∧
    (∀ x, load files given complaint = .error x → fromFile files (path given) complaint = .error x ∧
      (Failure.config x).code = x.code ∧ (Failure.config x).message = x.message) ∧
    (∀ c, (load files given complaint = .ok c ∨ ∃ p, fromFile files p complaint = .ok c) →
      1 ≤ c.docker.eventBuffer) := by
  refine ⟨fun p => classified_ofEntry (files p) complaint, load_of_nothing complaint, load_eq_fromFile_iff, ?_, ?_⟩
  · intro x h
    refine ⟨?_, rfl, rfl⟩
    by_cases hnothing : files (path given) = .nothing
    · rw [load_of_nothing complaint hnothing] at h
      cases h
    · rw [← load_of_ne_nothing complaint hnothing, h]
  · rintro c (h | ⟨p, h⟩)
    · exact (eventBuffer_bounds_of_load h).1
    · obtain ⟨_, _, _, hroom⟩ := ofEntry_eq_ok_iff.1 h
      exact Nat.one_le_iff_ne_zero.2 hroom

/-- Files with a byte that no text has, with a text that is no document of settings, with settings that have no
room, and with settings that have some. -/
def exampleFiles : FileTree
  | "bytes.yaml" => .file ⟨#[0xff]⟩
  | "text.yaml" => .file "docker: [".toUTF8
  | "good.yaml" => .file "docker:\n  event_buffer: 7\ntelemetry:\n  enabled: true\n".toUTF8
  | "config.yaml" => .file "docker:\n  event_buffer: 0\n".toUTF8
  | "settings" => .directory
  | _ => .nothing

/-- Each situation has its code, good settings are loaded as they stand, and only a path with nothing gives the
defaults. -/
theorem load_exampleFiles :
    (∃ x, load exampleFiles (some "bytes.yaml") = .error x ∧ x.code = "F100") ∧
      (∃ x, load exampleFiles (some "settings") = .error x ∧ x.code = "F100") ∧
      (∃ x, load exampleFiles (some "text.yaml") = .error x ∧ x.code = "F101") ∧
      (∃ x, load exampleFiles none = .error x ∧ x.code = "F102") ∧
      load exampleFiles (some "good.yaml") = .ok { docker := { eventBuffer := 7 }, telemetry := { enabled := true } } ∧
      load exampleFiles (some "absent.yaml") = .ok {} ∧
      ∃ x, fromFile exampleFiles "absent.yaml" = .error x ∧ x.code = "F100" := by
  have hload (given : Option String) (h : exampleFiles (path given) ≠ .nothing) :=
    (load_situations exampleFiles given untold).2.2.1.2 h
  have hclass (p : String) := (load_situations exampleFiles none untold).1 p
  -- what is in each file is found by running the reader, and what is loaded follows
  have hbytes : ¬ (⟨#[0xff]⟩ : ByteArray).IsValidUTF8 := by decide +kernel
  have hdocument : ∀ c, ¬ Describes "docker: [" c := by
    have hnone : (Yaml.Document.read? "docker: [").bind ofDocument? = none := by decide +kernel
    intro c hc
    rw [Describes, ← Option.bind_eq_some_iff, hnone] at hc
    cases hc
  have hroom : Describes "docker:\n  event_buffer: 0\n" { docker := { eventBuffer := 0 } } := by
    rw [Describes, ← Option.bind_eq_some_iff]
    decide +kernel
  have hgood : Describes "docker:\n  event_buffer: 7\ntelemetry:\n  enabled: true\n"
      { docker := { eventBuffer := 7 }, telemetry := { enabled := true } } := by
    rw [Describes, ← Option.bind_eq_some_iff]
    decide +kernel
  refine ⟨?_, ?_, ?_, ?_, ?_, ?_, ?_⟩
  · rw [hload (some "bytes.yaml") nofun]
    exact (hclass "bytes.yaml").unreadable.2 (Or.inr (Or.inr ⟨_, rfl, hbytes⟩))
  · rw [hload (some "settings") nofun]
    exact (hclass "settings").unreadable.2 (Or.inr (Or.inl rfl))
  · rw [hload (some "text.yaml") nofun]
    exact (hclass "text.yaml").malformed.2 ⟨_, rfl, hdocument⟩
  · rw [hload none nofun]
    exact (hclass "config.yaml").invalid.2 ⟨_, _, rfl, hroom, rfl⟩
  · rw [hload (some "good.yaml") nofun]
    exact ((hclass "good.yaml").loaded _).2 ⟨_, rfl, hgood, by decide⟩
  · exact (load_situations exampleFiles (some "absent.yaml") untold).2.1 rfl
  · exact (hclass "absent.yaml").unreadable.2 (Or.inl rfl)

end Config

end ContainerWatch
