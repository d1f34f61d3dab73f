import ContainerWatch.Container.Announcement
/-!
# What an announced change carries

A message that announces a change is one about a container, which it names together with an action that
is a change of state (`ofMessage?_eq_some_iff`).  The status is read off the action, and it is terminal
after `stop` and `die` only.  The exit code is read off the attributes, whatever the action is.

An inspection shows an exit code only of a container that has finished.  An announcement has no such guard, so a
container that starts or is healthy has an exit code whenever its message has the attribute
(`exitCode_of_exampleExit_start`).

Main statement: `exitCode_only_terminal_iff`, an announced change has an exit code with a terminal status
only, exactly when the action is `stop` or `die` or no attribute holds an exit code.
-/

namespace ContainerWatch

/-- The attributes of the object that a message is about. -/
def Engine.Message.attributes (m : Engine.Message) : Dictionary :=
  (m.actor.bind Engine.Actor.attributes).getD .empty

namespace Announcement

/-! ## Actions -/

/-- An action of a container makes it created, running or stopped. -/
theorem status_of_changeOf? {action : String} {status : Status} {type : EventType}
    (h : changeOf? action = some (status, type)) :
    status = .created ∨ status = .running ∨ status = .stopped := by
  unfold changeOf? at h
  split at h
  · cases h
    exact Or.inr (Or.inl rfl)
  · split at h <;> cases h <;> simp

/-- Only `stop` and `die` make a container stopped. -/
theorem stopped_iff_of_changeOf? {action : String} {status : Status} {type : EventType}
    (h : changeOf? action = some (status, type)) :
    status = .stopped ↔ action = "stop" ∨ action = "die" := by
  constructor
  · rintro rfl
    unfold changeOf? at h
    split at h
    · cases h
    · split at h
      · cases h
      · cases h
      · cases h
      · cases h
      · exact Or.inl rfl
      · exact Or.inr rfl
      · cases h
  · have hstop : changeOf? "stop" = some (.stopped, .container) := by decide
    have hdie : changeOf? "die" = some (.stopped, .container) := by decide
    rintro (rfl | rfl)
    · rw [hstop] at h
      cases h
      rfl
    · rw [hdie] at h
      cases h
      rfl

/-- A message has a subject when it is about a container, names it, and says what happened to it. -/
theorem subject?_eq_some_iff {m : Engine.Message} {actor : Engine.Actor} {dockerId action : String} :
    subject? m = some (actor, dockerId, action) ↔
      m.kind = some .container ∧ m.actor = some actor ∧ actor.id = some dockerId ∧
        m.action = some action := by
  by_cases hkind : m.kind = some .container
  · have hguard : (guard (m.kind = some .container) : Option Unit) = some () := if_pos hkind
    rw [subject?, hguard]
    simp only [bind, Option.bind_some, Option.bind_eq_some_iff, Option.some.injEq, Prod.mk.injEq]
    constructor
    · rintro ⟨actor, hactor, dockerId, hid, action, haction, rfl, rfl, rfl⟩
      exact ⟨hkind, hactor, hid, haction⟩
    · rintro ⟨_, hactor, hid, haction⟩
      exact ⟨actor, hactor, dockerId, hid, action, haction, rfl, rfl, rfl⟩
  · have hguard : (guard (m.kind = some .container) : Option Unit) = none := if_neg hkind
    rw [subject?, hguard]
    constructor
    · intro h
      cases h
    · rintro ⟨hcontainer, _⟩
      exact absurd hcontainer hkind

/-! ## Metadata -/

/-- The exit code does not depend on the action or the status. -/
theorem metadata_exitCode (dockerId action : String) (attributes : Dictionary) (status : Status)
    (type : EventType) (at? : Option Instant) :
    (metadata dockerId action attributes status type at?).exitCode = exitCode? attributes := by
  unfold metadata
  split
  · rfl
  · rfl
  · rfl
  · rfl
  · rfl

/-- No attribute holds an exit code, or it holds something else. -/
theorem exitCode?_eq_none_iff (attributes : Dictionary) :
    exitCode? attributes = none ↔
      ∀ code, attributes.get? "exitCode" = some code → Numeral.int64? code.toList = none :=
  Option.bind_eq_none_iff

end Announcement

namespace ChangeEvent

open Announcement

/-! ## Announced changes -/

/-- All that a message which announces a change must hold, and the change.  Whatever is proved about announced changes
starts from this equivalence. -/
theorem ofMessage?_eq_some_iff {m : Engine.Message} {e : ChangeEvent} :
    ofMessage? m = some e ↔ ∃ actor dockerId action status type,
      m.kind = some .container ∧ m.actor = some actor ∧ actor.id = some dockerId ∧
      m.action = some action ∧ changeOf? action = some (status, type) ∧
      e = ⟨status,
        Announcement.metadata dockerId action m.attributes status type (occurredAt? m), type⟩ := by
  -- from left to right the cases of the reader are gone through, from right to left each answer is known
  unfold ofMessage? Engine.Message.announcement
  constructor
  · intro h
    split at h
    · cases h
    · rename_i actor dockerId action hsubject
      obtain ⟨hkind, hactor, hid, haction⟩ := subject?_eq_some_iff.1 hsubject
      split at h
      · cases h
      · rename_i status type hchange
        cases h
        refine ⟨actor, dockerId, action, status, type, hkind, hactor, hid, haction, hchange, ?_⟩
        rw [Engine.Message.attributes, hactor, Option.bind_some]
  · rintro ⟨actor, dockerId, action, status, type, hkind, hactor, hid, haction, hchange, rfl⟩
    rw [subject?_eq_some_iff.2 ⟨hkind, hactor, hid, haction⟩, Engine.Message.attributes, hactor,
      Option.bind_some]
    simp only [hchange]
    rfl

/-- An announced change has an exit code with a terminal status only, exactly when the action is `stop` or
`die` or no attribute holds an exit code. -/
theorem exitCode_only_terminal_iff {m : Engine.Message} {e : ChangeEvent} (h : ofMessage? m = some e) :
    (e.metadata.hasExited → e.status.isTerminal) ∧
        (e.status = .created ∨ e.status = .running → e.metadata.exitCode = none) ↔
      (m.action = some "stop" ∨ m.action = some "die") ∨
        ∀ code, m.attributes.get? "exitCode" = some code → Numeral.int64? code.toList = none := by
  obtain ⟨actor, dockerId, action, status, type, _, _, _, haction, hchange, rfl⟩ :=
    ofMessage?_eq_some_iff.1 h
  have hstop := stopped_iff_of_changeOf? hchange
  have hcode := metadata_exitCode dockerId action m.attributes status type (occurredAt? m)
  rw [haction, Option.some.injEq, Option.some.injEq, ← hstop, ← exitCode?_eq_none_iff, ← hcode]
  constructor
  · rintro ⟨hterminal, hnone⟩
    obtain hcreated | hrunning | hstopped := status_of_changeOf? hchange
    · exact Or.inr (hnone (Or.inl hcreated))
    · exact Or.inr (hnone (Or.inr hrunning))
    · exact Or.inl hstopped
  · rintro (rfl | hnone)
    · exact ⟨fun _ => rfl, fun h => h.elim nofun nofun⟩
    · refine ⟨fun hexited => ?_, fun _ => hnone⟩
      rw [Metadata.hasExited, hnone] at hexited
      cases hexited

/-- A message about the container `abc` with an attribute for the exit code. -/
def exampleExit (action code : String) : Engine.Message :=
  let attributes := Dictionary.empty.insert "exitCode" code
  ⟨some .container, some action, some ⟨some "abc", some attributes⟩, none, none, none⟩

/-- A container that died has its exit code and is stopped. -/
theorem isTerminal_of_exampleExit_die :
    ∃ e, ofMessage? (exampleExit "die" "137") = some e ∧ e.metadata.exitCode = some 137 ∧
      e.status.isTerminal := by
  have hannounced : ofMessage? (exampleExit "die" "137") = some _ := rfl
  refine ⟨_, hannounced, by decide +kernel, ?_⟩
  exact ((exitCode_only_terminal_iff hannounced).2 (Or.inl (Or.inr rfl))).1 (by decide +kernel)

/-- The attribute of a container that starts or is healthy becomes an exit code. -/
theorem exitCode_of_exampleExit_start :
    (∃ e, ofMessage? (exampleExit "start" "5") = some e ∧ e.metadata.hasExited ∧ e.status = .running ∧
      ¬ e.status.isTerminal) ∧
    ∃ e, ofMessage? (exampleExit "health_status: healthy" "0") = some e ∧ e.type = .health ∧
      e.metadata.hasExited ∧ ¬ e.status.isTerminal := by
  constructor
  · exact ⟨_, rfl, by decide +kernel, rfl, nofun⟩
  · exact ⟨_, rfl, rfl, by decide +kernel, nofun⟩

end ChangeEvent

end ContainerWatch
