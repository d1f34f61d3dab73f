import ContainerWatch.Proofs.Container.Line
/-!
# The line read by position

The free texts of an event may hold anything, also what looks like a segment of the line or like a whole
line.  Where two events share them, the rest of the line can still be read from left to right: a status, a
verdict, a number and a time hold no comma, so each ends where the next segment begins, and a segment that may
be left out is known by its label, which no segment after it has.

Reading goes from left to right over what is left of the line (`following`).  Each step takes one segment off both
lines and says what was in it: `value_eq_of_following` for a segment that is always there, `option_eq_of_following`
for one that may be left out.  A free text is no step; it is the same in both lines, so it cancels.

Main statement: `text_eq_text_iff_of_sameTexts`, events with the same free texts have the same line exactly
when they agree in status, verdict, exit code and times.
-/

namespace ContainerWatch.ChangeEvent

open Text

variable {ss ts : List Segment}

/-! ## Segments that follow others -/

/-- Segments as they are printed after others, each after a comma and a space. -/
def following : List Segment → List Char
  | [] => []
  | s :: rest => ',' :: ' ' :: (s.text.toList ++ following rest)

/-- A line is its first segment and the segments that follow, but for the comma and the space in front. -/
theorem following_cons_eq_join (s : Segment) (ss : List Segment) :
    following (s :: ss) = ',' :: ' ' :: (join ", " ((s :: ss).map Segment.text)).toList := by
  induction ss generalizing s with
  | nil => simp [following]
  | cons t ss ih =>
    rw [following, ih t]
    exact congrArg (',' :: ' ' :: ·) (toList_join_cons_cons ", " s.text t.text (ss.map Segment.text)).symm

theorem following_append (ss ts : List Segment) :
    following (ss ++ ts) = following ss ++ following ts := by
  induction ss with
  | nil => rfl
  | cons s ss ih => simp [following, ih]

/-- A text without a comma ends where the segments after it begin.  With none after it, it ends with the line. -/
theorem eq_of_append_following {v w : String} (hv : FreeOf ',' v) (hw : FreeOf ',' w)
    (h : v.toList ++ following ss = w.toList ++ following ts) : v = w ∧ following ss = following ts := by
  cases ss with
  | nil =>
    cases ts with
    | nil => exact ⟨String.toList_injective (List.append_cancel_right h), rfl⟩
    | cons t ts => exact absurd (h.symm.trans (List.append_nil v.toList)) (append_cons_ne hv)
  | cons s ss =>
    cases ts with
    | nil => exact absurd (h.trans (List.append_nil w.toList)) (append_cons_ne hw)
    | cons t ts =>
      obtain ⟨hvw, hrest⟩ := eq_of_append_cons hv hw h
      exact ⟨String.toList_injective hvw, congrArg (',' :: ·) hrest⟩

/-- The label of the next segment is found, and what stands after it: a name has no colon, so it ends at the first
one. -/
theorem label_eq_of_following {s t : Segment} (hs : IsName s.label) (ht : IsName t.label)
    (h : following (s :: ss) = following (t :: ts)) :
    s.label = t.label ∧ s.value.toList ++ following ss = t.value.toList ++ following ts := by
  simp only [following, Segment.toList_text, List.append_assoc, List.cons_append, List.cons.injEq,
    true_and] at h
  obtain ⟨hlabel, hrest⟩ := eq_of_append_cons hs.colon ht.colon h
  exact ⟨String.toList_injective hlabel, (List.cons.inj hrest).2⟩

/-- The value of the next segment is found when it holds no comma, and what stands after it. -/
theorem value_eq_of_following {label v w : String} (hlabel : IsName label) (hv : FreeOf ',' v)
    (hw : FreeOf ',' w) (h : following (⟨label, v⟩ :: ss) = following (⟨label, w⟩ :: ts)) :
    v = w ∧ following ss = following ts :=
  eq_of_append_following hv hw (label_eq_of_following hlabel hlabel h).2

/-! ## Segments that may be left out -/

/-- Segments whose labels can be told from a given one.  Their values may hold anything, the label included. -/
def Unlike (label : String) (ss : List Segment) : Prop := ∀ s ∈ ss, IsName s.label ∧ s.label ≠ label

theorem unlike_nil (label : String) : Unlike label [] := nofun

theorem Unlike.append {label : String} (hs : Unlike label ss) (ht : Unlike label ts) :
    Unlike label (ss ++ ts) :=
  fun s h => (List.mem_append.1 h).elim (hs s) (ht s)

theorem unlike_optionSegment {α : Type} {label other : String} {text : α → String} (v : Option α)
    (h : IsName other ∧ other ≠ label) : Unlike label (optionSegment other text v) := by
  intro s hs
  cases v with
  | none => cases hs
  | some a =>
    rw [List.mem_singleton.1 hs]
    exact h

theorem unlike_itemsSegment {α : Type} {label other before : String} {item : α → String}
    (items : List α) (h : IsName other ∧ other ≠ label) :
    Unlike label (itemsSegment other before item items) := by
  intro s hs
  unfold itemsSegment listSegment at hs
  split at hs
  · cases hs
  · rw [List.mem_singleton.1 hs]
    exact h

/-- A segment is missed among segments that are unlike it.  This is what tells that a value was left out. -/
theorem following_ne_of_unlike {s : Segment} (hs : IsName s.label) (hts : Unlike s.label ts) :
    following (s :: ss) ≠ following ts := by
  intro h
  cases ts with
  | nil => cases h
  | cons t ts =>
    obtain ⟨hname, hne⟩ := hts t List.mem_cons_self
    exact hne (label_eq_of_following hs hname h).1.symm

/-- Whether there is a value is found, and the value, and what stands after it. -/
theorem option_eq_of_following {α : Type} {label : String} {text : α → String} (hlabel : IsName label)
    (hfree : ∀ a, FreeOf ',' (text a)) (hinj : ∀ a b, text a = text b → a = b) {v w : Option α}
    (hss : Unlike label ss) (hts : Unlike label ts)
    (h : following (optionSegment label text v ++ ss) = following (optionSegment label text w ++ ts)) :
    v = w ∧ following ss = following ts := by
  cases v with
  | none =>
    cases w with
    | none => exact ⟨rfl, h⟩
    | some b => exact absurd h.symm (following_ne_of_unlike hlabel hss)
  | some a =>
    cases w with
    | none => exact absurd h (following_ne_of_unlike hlabel hts)
    | some b =>
      obtain ⟨htext, hrest⟩ := value_eq_of_following hlabel (hfree a) (hfree b) h
      exact ⟨congrArg some (hinj a b htext), hrest⟩

/-! ## The parts of a line -/

namespace Shown

variable {s t : Shown}

/-- The segments between the exit code and the times, which hold free texts. -/
def freeSegments (s : Shown) : List Segment :=
  itemsSegment "PortBindings" "" PortBinding.text s.portBindings
    ++ optionSegment "Error" id s.error
    ++ itemsSegment "Volumes" "" Volume.Shown.text s.volumes
    ++ itemsSegment "Labels" "map" labelText s.labels.entries

/-- The segments of the times. -/
def timeSegments (s : Shown) : List Segment :=
  optionSegment "CreatedAt" Instant.text s.createdAt ++
    (optionSegment "StartedAt" Instant.text s.startedAt ++
      optionSegment "FinishedAt" Instant.text s.finishedAt)

/-- A line in three parts: what is always there with the exit code, what holds free texts, and the times. -/
theorem segments_eq_parts (s : Shown) :
    s.segments = ⟨"Status", s.status.name⟩ :: ⟨"DockerID", s.dockerId⟩ :: ⟨"health", s.health.name⟩ ::
      (optionSegment "ExitCode" integerText s.exitCode ++ (s.freeSegments ++ s.timeSegments)) := by
  simp [segments, freeSegments, timeSegments]

/-- No segment after the exit code has its label. -/
theorem unlike_exitCode (s : Shown) : Unlike "ExitCode" (s.freeSegments ++ s.timeSegments) := by
  refine Unlike.append ?_ ?_
  · exact (((unlike_itemsSegment _ (by decide)).append (unlike_optionSegment _ (by decide))).append
      (unlike_itemsSegment _ (by decide))).append (unlike_itemsSegment _ (by decide))
  · exact (unlike_optionSegment _ (by decide)).append
      ((unlike_optionSegment _ (by decide)).append (unlike_optionSegment _ (by decide)))

/-- The times are found when nothing but they is left of the line. -/
theorem times_eq_of_following (h : following s.timeSegments = following t.timeSegments) :
    s.createdAt = t.createdAt ∧ s.startedAt = t.startedAt ∧ s.finishedAt = t.finishedAt := by
  have hfree (i : Instant) : FreeOf ',' i.text := i.freeOf_comma_text
  have hinj (i j : Instant) : i.text = j.text → i = j := Instant.text_injective
  have hunlike (u : Shown) : Unlike "CreatedAt" (optionSegment "StartedAt" Instant.text u.startedAt ++
      optionSegment "FinishedAt" Instant.text u.finishedAt) :=
    (unlike_optionSegment _ (by decide)).append (unlike_optionSegment _ (by decide))
  obtain ⟨hcreated, h⟩ := option_eq_of_following (by decide) hfree hinj (hunlike s) (hunlike t) h
  obtain ⟨hstarted, h⟩ := option_eq_of_following (by decide) hfree hinj
    (unlike_optionSegment _ (by decide)) (unlike_optionSegment _ (by decide)) h
  rw [← List.append_nil (optionSegment _ _ s.finishedAt),
    ← List.append_nil (optionSegment _ _ t.finishedAt)] at h
  obtain ⟨hfinished, -⟩ := option_eq_of_following (by decide) hfree hinj (unlike_nil _) (unlike_nil _) h
  exact ⟨hcreated, hstarted, hfinished⟩

/-- Between the same free texts everything else is found, from left to right.  The order of the steps is the order of
the line. -/
theorem eq_of_following (hid : s.dockerId = t.dockerId) (hfree : s.freeSegments = t.freeSegments)
    (h : following s.segments = following t.segments) :
    s.status = t.status ∧ s.health = t.health ∧ s.exitCode = t.exitCode ∧
      s.createdAt = t.createdAt ∧ s.startedAt = t.startedAt ∧ s.finishedAt = t.finishedAt := by
  rw [segments_eq_parts, segments_eq_parts] at h
  obtain ⟨hname, h⟩ := value_eq_of_following (by decide) s.status.freeOf_comma_name
    t.status.freeOf_comma_name h
  -- the identifier may hold commas, but it is the same in both
  rw [hid] at h
  have hlabel : IsName "DockerID" := by decide
  obtain ⟨-, h⟩ := label_eq_of_following hlabel hlabel h
  obtain ⟨hverdict, h⟩ := value_eq_of_following (by decide) s.health.freeOf_comma_name
    t.health.freeOf_comma_name (List.append_cancel_left h)
  obtain ⟨hcode, h⟩ := option_eq_of_following (by decide) freeOf_comma_integerText
    (fun _ _ => integerText_injective) (unlike_exitCode s) (unlike_exitCode t) h
  rw [following_append, following_append, hfree] at h
  exact ⟨Status.name_injective hname, HealthStatus.name_injective hverdict, hcode,
    times_eq_of_following (List.append_cancel_left h)⟩

end Shown

/-! ## Events with the same free texts -/

/-- Two events that have the same identifier, ports, failure, volumes and labels.  Nothing is asked of these texts:
they may hold commas, colons and whole segments. -/
structure SameTexts (e f : ChangeEvent) : Prop where
  dockerId : e.metadata.dockerId = f.metadata.dockerId
  portBindings : e.metadata.portBindings = f.metadata.portBindings
  /-- the same failure in words, or none in both -/
  error : e.metadata.error.map Transition.message = f.metadata.error.map Transition.message
  volumes : e.metadata.volumes = f.metadata.volumes
  labels : e.metadata.labels = f.metadata.labels

variable {e f : ChangeEvent}

/-- Events with the same free texts have the same segments in the middle of the line. -/
theorem SameTexts.freeSegments_eq (h : SameTexts e f) :
    e.shown.freeSegments = f.shown.freeSegments := by
  simp only [Shown.freeSegments, shown, h.portBindings, h.error, h.volumes, h.labels]

theorem following_segments_eq (h : e.text = f.text) :
    following e.shown.segments = following f.shown.segments := by
  rw [text_eq_join_segments, text_eq_join_segments, Shown.segments_eq_parts, Shown.segments_eq_parts] at h
  rw [Shown.segments_eq_parts, Shown.segments_eq_parts, following_cons_eq_join, following_cons_eq_join, h]

/-- Events with the same free texts, whatever these hold, have the same line exactly when they agree in
status, verdict, exit code and times. -/
theorem text_eq_text_iff_of_sameTexts (h : SameTexts e f) :
    e.text = f.text ↔
      e.status = f.status ∧ e.metadata.health.status = f.metadata.health.status ∧
      e.metadata.exitCode = f.metadata.exitCode ∧ e.metadata.createdAt = f.metadata.createdAt ∧
      e.metadata.startedAt = f.metadata.startedAt ∧ e.metadata.finishedAt = f.metadata.finishedAt := by
  constructor
  · intro htext
    exact Shown.eq_of_following h.dockerId h.freeSegments_eq (following_segments_eq htext)
  · rintro ⟨hstatus, hhealth, hcode, hcreated, hstarted, hfinished⟩
    have hshown : e.shown = f.shown := by
      simp only [shown, hstatus, hhealth, hcode, hcreated, hstarted, hfinished, h.dockerId,
        h.portBindings, h.error, h.volumes, h.labels]
    rw [text_eq_join_segments, text_eq_join_segments, hshown]

/-- A container whose identifier, failure and label imitate segments of the line. -/
def imitation (exitCode : Option Int) (startedAt finishedAt : Option Instant) : ChangeEvent where
  status := .stopped
  metadata :=
    { dockerId := "abc, health: UNKNOWN, ExitCode: 0"
      exitCode
      error := some ⟨.timeout, "late, ExitCode: 0, FinishedAt: 1970-01-01 00:00:00 UTC", none⟩
      labels := Dictionary.empty.insert ", FinishedAt" " 1970-01-01 00:00:00 UTC"
      startedAt
      finishedAt }

/-- No exit code, no time, the same time under another label and a time one nanosecond later all make another
line. -/
theorem text_imitation_ne :
    (imitation none none none).text ≠ (imitation (some 0) none none).text ∧
      (imitation none none none).text ≠ (imitation none none (some (.ofNanos 0))).text ∧
      (imitation none (some (.ofNanos 0)) none).text ≠ (imitation none none (some (.ofNanos 0))).text ∧
      (imitation none none (some (.ofNanos 0))).text ≠ (imitation none none (some (.ofNanos 1))).text := by
  have hiff (c d : Option Int) (s t u v : Option Instant) :=
    text_eq_text_iff_of_sameTexts (e := imitation c s t) (f := imitation d u v) ⟨rfl, rfl, rfl, rfl, rfl⟩
  simp only [ne_eq, hiff]
  decide

end ContainerWatch.ChangeEvent
