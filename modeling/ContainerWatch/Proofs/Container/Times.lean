import ContainerWatch.Proofs.Container.Announced
import ContainerWatch.Proofs.Text.Separation
import ContainerWatch.Proofs.Time.ReadBack
/-!
# Times in the line

The line of a change tells the times of creation, start and finish that are known, each in a segment of its
own.  A message that announces a change gives one of them at most: the time of the message, in nanoseconds
where it has them.

A time is printed with the name of the time scale at its end, which the engine's times do not have; they end in `Z`
instead.  Apart from that the two forms are the same (`Instant.stem`), so a printed time can be given to the reader of
the engine's times.  It takes its zero time for no time at all, which is the one exception.

Main statement: `ChangeEvent.times_read_back`, every time in a line is read back by the reader of the engine's
times, when the name of the time scale is put as `Z`.
-/

namespace ContainerWatch

open Text

/-- The times that are known, under the labels that the line has for them and in its order. -/
def Metadata.times (m : Metadata) : List (String × Instant) :=
  (m.createdAt.map ("CreatedAt", ·)).toList ++ (m.startedAt.map ("StartedAt", ·)).toList ++
    (m.finishedAt.map ("FinishedAt", ·)).toList

theorem Metadata.mem_times_iff {m : Metadata} {label : String} {t : Instant} :
    (label, t) ∈ m.times ↔
      (label = "CreatedAt" ∧ m.createdAt = some t) ∨ (label = "StartedAt" ∧ m.startedAt = some t) ∨
        (label = "FinishedAt" ∧ m.finishedAt = some t) := by
  simp only [times, List.mem_append, Option.mem_toList, Option.map_eq_some_iff, Prod.mk.injEq,
    or_assoc]
  constructor
  · rintro (⟨_, h, rfl, rfl⟩ | ⟨_, h, rfl, rfl⟩ | ⟨_, h, rfl, rfl⟩)
    · exact Or.inl ⟨rfl, h⟩
    · exact Or.inr (Or.inl ⟨rfl, h⟩)
    · exact Or.inr (Or.inr ⟨rfl, h⟩)
  · rintro (⟨rfl, h⟩ | ⟨rfl, h⟩ | ⟨rfl, h⟩)
    · exact Or.inl ⟨t, h, rfl, rfl⟩
    · exact Or.inr (Or.inl ⟨t, h, rfl, rfl⟩)
    · exact Or.inr (Or.inr ⟨t, h, rfl, rfl⟩)

namespace ChangeEvent

/-! ## Where the times stand -/

/-- Every time has a segment. -/
theorem mem_segments_of_mem_times {e : ChangeEvent} {label : String} {t : Instant}
    (h : (label, t) ∈ e.metadata.times) : ⟨label, t.text⟩ ∈ e.segments := by
  obtain ⟨rfl, htime⟩ | ⟨rfl, htime⟩ | ⟨rfl, htime⟩ := Metadata.mem_times_iff.1 h
  · simp [segments, optionSegment, htime]
  · simp [segments, optionSegment, htime]
  · simp [segments, optionSegment, htime]

/-- A segment stands in the line up to its end or the next separator. -/
theorem exists_text_eq_of_mem_segments {e : ChangeEvent} {s : Segment} (h : s ∈ e.segments) :
    ∃ before after, e.text = before ++ s.text ++ after ∧ (after = "" ∨ ∃ rest, after = ", " ++ rest) := by
  obtain ⟨before, after, hsegments⟩ := List.append_of_mem h
  rw [text, hsegments, List.map_append, List.map_cons]
  exact exists_join_append_cons _ _ _ _

/-- The line tells a time under a label: its text, the name of the time scale, and then the end of the line or
the next separator. -/
def Tells (e : ChangeEvent) (label body : String) : Prop :=
  ∃ before after, e.text = before ++ (label ++ ": " ++ (body ++ " UTC")) ++ after ∧
    (after = "" ∨ ∃ rest, after = ", " ++ rest)

theorem tells_of_mem_times {e : ChangeEvent} {label : String} {t : Instant}
    (h : (label, t) ∈ e.metadata.times) : e.Tells label t.stem := by
  have htext := exists_text_eq_of_mem_segments (mem_segments_of_mem_times h)
  rw [Segment.text, Instant.text_eq_stem_append] at htext
  exact htext

/-! ## The time of a message -/

/-- The nanoseconds of a message count, whatever its seconds are. -/
theorem occurredAt?_of_timeNano {m : Engine.Message} {n : Int} (h : m.timeNano = some n) :
    Announcement.occurredAt? m = some (Instant.ofNanos n) := by
  rw [Announcement.occurredAt?, h]

/-- The time of a health check is not in the line, and every other change has one time. -/
theorem times_metadata {status : Status} {type : EventType} {action : String}
    (h : Announcement.changeOf? action = some (status, type)) (dockerId : String) (attributes : Dictionary)
    (at? : Option Instant) :
    (type = .health ∧
      (Announcement.metadata dockerId action attributes status type at?).times = []) ∨
    (type = .container ∧ ∃ label,
      (Announcement.metadata dockerId action attributes status type at?).times =
        (at?.map (label, ·)).toList) := by
  cases type with
  | health => exact Or.inl ⟨rfl, rfl⟩
  | container =>
    refine Or.inr ⟨rfl, ?_⟩
    obtain rfl | rfl | rfl := Announcement.status_of_changeOf? h
    · exact ⟨"CreatedAt", by simp [Announcement.metadata, Metadata.times]⟩
    · exact ⟨"StartedAt", by simp [Announcement.metadata, Metadata.times]⟩
    · exact ⟨"FinishedAt", by simp [Announcement.metadata, Metadata.times]⟩

/-- A change that a message with nanoseconds announces has their instant as its only time, unless it is about
health. -/
theorem times_of_ofMessage? {m : Engine.Message} {e : ChangeEvent} {n : Int} (h : ofMessage? m = some e)
    (hn : m.timeNano = some n) :
    (e.type = .health ∧ e.metadata.times = []) ∨
      (e.type = .container ∧ ∃ label, e.metadata.times = [(label, Instant.ofNanos n)]) := by
  obtain ⟨actor, dockerId, action, status, type, _, _, _, _, hchange, rfl⟩ := ofMessage?_eq_some_iff.1 h
  have htimes := times_metadata hchange dockerId m.attributes (Announcement.occurredAt? m)
  rw [occurredAt?_of_timeNano hn] at htimes ⊢
  exact htimes

/-! ## Reading back -/

/-- Every time in a line is read back, but for the engine's zero time, and the time of a message as the
nanoseconds that it says. -/
theorem times_read_back :
    (∀ (e : ChangeEvent) (label : String) (t : Instant), (label, t) ∈ e.metadata.times →
      0 ≤ t.year → t.year ≤ 9999 →
      ∃ body, t.text = body ++ " UTC" ∧ e.Tells label body ∧
        engineTime? (body ++ "Z") = if t = engineZero then none else some t) ∧
    (∀ (m : Engine.Message) (e : ChangeEvent) (n : Int), ofMessage? m = some e → m.timeNano = some n →
      Numeral.int64Min ≤ n → n ≤ Numeral.int64Max →
      (e.type = .health ∧ e.metadata.times = []) ∨
      (e.type = .container ∧ ∃ label t body, e.metadata.times = [(label, t)] ∧ e.Tells label body ∧
        engineTime? (body ++ "Z") = some t ∧ t.nanos < 1000000000 ∧ t.toNanos = n)) := by
  refine ⟨fun e label t htime h0 h1 => ?_, fun m e n hannounced hn hmin hmax => ?_⟩
  · exact ⟨t.stem, t.text_eq_stem_append, tells_of_mem_times htime, engineTime?_stem h0 h1⟩
  · refine (times_of_ofMessage? hannounced hn).imp_right fun ⟨htype, label, htimes⟩ => ⟨htype, ?_⟩
    have htime : (label, Instant.ofNanos n) ∈ e.metadata.times := htimes ▸ List.mem_singleton_self _
    refine ⟨label, Instant.ofNanos n, (Instant.ofNanos n).stem, htimes, tells_of_mem_times htime, ?_,
      Instant.nanos_ofNanos_lt n, Instant.toNanos_ofNanos n⟩
    obtain ⟨hlow, hhigh⟩ := Instant.year_ofNanos_bounds hmin hmax
    -- nanoseconds of eight bytes do not go back to the year of the zero time
    have hne : Instant.ofNanos n ≠ engineZero := by
      intro h
      rw [h, year_engineZero] at hlow
      exact absurd hlow (by decide)
    rw [engineTime?_stem (by omega) (by omega), if_neg hne]

/-- The leap second at the end of 2016, a nanosecond after its beginning. -/
def leapExample : Instant := ⟨1483228799, 1000000001, by decide, by decide⟩

/-- A container created at the engine's zero time and started in a leap second. -/
def timesExample : ChangeEvent where
  status := .running
  metadata := { dockerId := "abc", createdAt := some engineZero, startedAt := some leapExample }

/-- A message that the container `abc` died a nanosecond before 1970. -/
def diedExample : Engine.Message :=
  ⟨some .container, some "die", some ⟨some "abc", none⟩, none, some 0, some (-1)⟩

/-- The leap second is read back, the engine's zero time is not, and the nanosecond before 1970 is. -/
theorem times_timesExample_read_back :
    (∃ body, leapExample.text = body ++ " UTC" ∧ timesExample.Tells "StartedAt" body ∧
      engineTime? (body ++ "Z") = some leapExample) ∧
    (∃ body, engineZero.text = body ++ " UTC" ∧ timesExample.Tells "CreatedAt" body ∧
      engineTime? (body ++ "Z") = none) ∧
    (∃ e, ofMessage? diedExample = some e ∧ ∃ label t body, e.metadata.times = [(label, t)] ∧
      e.Tells label body ∧ engineTime? (body ++ "Z") = some t ∧ t.toNanos = -1) := by
  obtain ⟨hline, hmessage⟩ := times_read_back
  refine ⟨?_, ?_, _, rfl, ?_⟩
  · exact hline timesExample "StartedAt" leapExample (by decide) (by decide) (by decide)
  · exact hline timesExample "CreatedAt" engineZero (by decide) (by decide) (by decide)
  · obtain ⟨htype, -⟩ | ⟨-, label, t, body, htimes, htells, hread, -, hnanos⟩ :=
      hmessage diedExample _ (-1) rfl rfl (by decide) (by decide)
    · cases htype
    · exact ⟨label, t, body, htimes, htells, hread, hnanos⟩

end ChangeEvent

end ContainerWatch
