import ContainerWatch.Proofs.Container.Recognised
import ContainerWatch.Watcher.Notice
/-!
# The lines of a reading

What a reading puts into the log goes by what the message is: a failure, a change, something else that happened to
a container, or anything else, which is passed over in silence (`Reading.Logs`).  The relation says the lines in full,
with their levels and their fields, and says of a message only what it names and what its action denotes; the code
comes to the same four cases through what the message amounts to (`Engine.Message.announcement`), so each value of
that is pinned by a condition on the message first.

Main statement: `Reading.logs_iff`, the watcher logs exactly these lines.
-/

namespace ContainerWatch

/-! ## Lines -/

/-- A message is about a container and says which one and what happened to it. -/
structure Engine.Message.Names (m : Engine.Message) (dockerId action : String) : Prop where
  kind : m.kind = some .container
  id : m.actor.bind Engine.Actor.id = some dockerId
  action : m.action = some action

/-- The lines that a reading puts into the log. -/
inductive Reading.Logs : Reading → List Log.Line → Prop
  /-- a failure is a warning with its text -/
  | failure (e : Engine.Error) : Logs (.failure e)
      [⟨.warn, Notice.watcherTarget, "Failed to read container event", [("error", e.message)]⟩]
  /-- a change is announced, whatever becomes of it -/
  | change {m : Engine.Message} {e : ChangeEvent} (h : ChangeEvent.ofMessage? m = some e) : Logs (.message m)
      [⟨.debug, Notice.watcherTarget, "Translated container event",
        [("docker_id", e.metadata.dockerId), ("status", e.status.name)]⟩]
  /-- what happened to a container and is no change of its state is passed over with a line -/
  | ignored {m : Engine.Message} {dockerId action : String} (hnames : m.Names dockerId action)
      (hdenotes : ∀ status type, ¬ Announcement.Denotes action status type) : Logs (.message m)
      [⟨.debug, Notice.announcementTarget, "Ignoring container event",
        [("action", action), ("docker_id", dockerId)]⟩]
  /-- all else is passed over in silence -/
  | silent {m : Engine.Message} (h : ∀ dockerId action, ¬ m.Names dockerId action) : Logs (.message m) []

/-- The lines of a reading. -/
def Reading.lines (r : Reading) : List Log.Line := r.notice?.toList.map Notice.line

namespace Announcement

/-- The container and the action of a message are found when the message names them.  The whole actor is found with
them, which the names alone do not tell, hence the existential. -/
theorem subject?_eq_some_iff_names {m : Engine.Message} {dockerId action : String} :
    (∃ actor, subject? m = some (actor, dockerId, action)) ↔ m.Names dockerId action := by
  simp only [subject?_eq_some_iff]
  constructor
  · rintro ⟨actor, hkind, hactor, hid, haction⟩
    exact ⟨hkind, Option.bind_eq_some_iff.2 ⟨actor, hactor, hid⟩, haction⟩
  · rintro ⟨hkind, hid, haction⟩
    obtain ⟨actor, hactor, hid⟩ := Option.bind_eq_some_iff.1 hid
    exact ⟨actor, hkind, hactor, hid, haction⟩

/-- They are not found when there is something that the message does not say. -/
theorem subject?_eq_none_iff {m : Engine.Message} :
    subject? m = none ↔ ∀ dockerId action, ¬ m.Names dockerId action := by
  simp only [← subject?_eq_some_iff_names, Option.eq_none_iff_forall_ne_some, not_exists]
  constructor
  · exact fun h dockerId action actor => h (actor, dockerId, action)
  · exact fun h ⟨actor, dockerId, action⟩ => h dockerId action actor

/-- An action that is no change denotes none. -/
theorem changeOf?_eq_none_iff {action : String} :
    changeOf? action = none ↔ ∀ status type, ¬ Denotes action status type := by
  simp only [← changeOf?_eq_some_iff, Option.eq_none_iff_forall_ne_some, Prod.forall]

/-- A message amounts to a change when it announces one. -/
theorem announcement_eq_change_iff {m : Engine.Message} {e : ChangeEvent} :
    m.announcement = .change e ↔ ChangeEvent.ofMessage? m = some e := by
  rw [ChangeEvent.ofMessage?]
  cases m.announcement with
  | change event => rw [event?, change.injEq, Option.some.injEq]
  | unrecognised action dockerId | unrelated =>
    constructor
    · intro h
      cases h
    · intro h
      cases h

/-- A message that names a container and an action amounts to nothing known when the action denotes no change. -/
theorem announcement_eq_unrecognised_iff {m : Engine.Message} {dockerId action : String} :
    m.announcement = .unrecognised action dockerId ↔
      m.Names dockerId action ∧ ∀ status type, ¬ Denotes action status type := by
  rw [← subject?_eq_some_iff_names, ← changeOf?_eq_none_iff, Engine.Message.announcement]
  constructor
  · intro h
    split at h
    · cases h
    · rename_i actor id act hsubject
      split at h
      · rename_i hchange
        cases h
        exact ⟨⟨actor, hsubject⟩, hchange⟩
      · cases h
  · rintro ⟨⟨actor, hsubject⟩, hchange⟩
    simp only [hsubject, hchange]

/-- A message that does not name a container and an action is not about one. -/
theorem announcement_eq_unrelated_iff {m : Engine.Message} :
    m.announcement = .unrelated ↔ ∀ dockerId action, ¬ m.Names dockerId action := by
  rw [← subject?_eq_none_iff, Engine.Message.announcement]
  constructor
  · intro h
    split at h
    · assumption
    · split at h
      · cases h
      · cases h
  · intro hsubject
    rw [hsubject]

end Announcement

open Announcement in
/-- A reading puts exactly its lines into the log.  From left to right each case of the relation settles what the
message amounts to; from right to left what it amounts to settles the case. -/
theorem Reading.logs_iff {r : Reading} {ls : List Log.Line} : r.Logs ls ↔ ls = r.lines := by
  constructor
  · intro h
    cases h with
    | failure e => rfl
    | change h => rw [lines, notice?, announcement_eq_change_iff.2 h]; rfl
    | ignored hnames hdenotes =>
      rw [lines, notice?, announcement_eq_unrecognised_iff.2 ⟨hnames, hdenotes⟩]
      rfl
    | silent h => rw [lines, notice?, announcement_eq_unrelated_iff.2 h]; rfl
  · rintro rfl
    cases r with
    | failure e => exact .failure e
    | message m =>
      rw [lines, notice?]
      cases hannouncement : m.announcement with
      | change e => exact .change (announcement_eq_change_iff.1 hannouncement)
      | unrecognised action dockerId =>
        obtain ⟨hnames, hdenotes⟩ := announcement_eq_unrecognised_iff.1 hannouncement
        exact .ignored hnames hdenotes
      | unrelated => exact .silent (announcement_eq_unrelated_iff.1 hannouncement)

/-! ## Notices -/

/-- The notices of a reading come before those of the readings after it. -/
theorem Reading.filterMap_notice?_cons (r : Reading) (rs : List Reading) :
    (r :: rs).filterMap Reading.notice? = r.notice?.toList ++ rs.filterMap Reading.notice? := by
  cases hnotice : r.notice? with
  | none => rw [List.filterMap_cons_none hnotice]; rfl
  | some n => rw [List.filterMap_cons_some hnotice]; rfl

/-- The lines of the notices of a stream are the lines of its readings, one after another. -/
theorem Reading.map_filterMap_notice? (rs : List Reading) :
    (rs.filterMap Reading.notice?).map Notice.line = rs.flatMap Reading.lines := by
  induction rs with
  | nil => rfl
  | cons r rs ih =>
    rw [filterMap_notice?_cons, List.map_append, ih, List.flatMap_cons]
    rfl

end ContainerWatch
