import ContainerWatch.Container.ChangeEvent
import ContainerWatch.Engine.Message
import ContainerWatch.Text.Blank
/-!
# What a message announces

Of the engine's messages only those about a container that name the container and what happened to it
are of interest, and of these only those whose action is a change of state (`changeOf?`).  The change is
read off the action alone; the attributes give the exit code and the labels, and the time is kept in
the one field that belongs to the change.

Main statement: an announced change never carries a failure (`isAuthoritative_of_ofMessage?`).
-/

namespace ContainerWatch

/-- What a message of the engine amounts to. -/
inductive Announcement where
  /-- the state of a container changed -/
  | change (event : ChangeEvent)
  /-- something happened to a container that is no change of its state -/
  | unrecognised (action dockerId : String)
  /-- the message is not about a container, or does not say which or what -/
  | unrelated
  deriving DecidableEq

namespace Announcement

/-- The change that is announced, if one is. -/
def event? : Announcement → Option ChangeEvent
  | change event => some event
  | _ => none

/-! ## Actions -/

/-- The beginning of every action that reports a health check. -/
def healthWord : List Char := "health_status".toList

/-- The beginning of a health action that gives a verdict. -/
def verdictStart : List Char := "health_status:".toList

/-- The change of state that an action is. -/
def changeOf? (action : String) : Option (Status × EventType) :=
  if healthWord.isPrefixOf action.toList then some (.running, .health)
  else match action with
    | "create" => some (.created, .container)
    | "start" | "restart" | "unpause" => some (.running, .container)
    | "stop" | "die" => some (.stopped, .container)
    | _ => none

/-- The verdict of a health action: what stands between blanks after the beginning, which may be
repeated, has to be the word `healthy` or `unhealthy`. -/
def verdict (action : String) : HealthStatus :=
  let word := Text.trimBlanks (Text.dropCopies verdictStart action.toList)
  if word = "healthy".toList then .healthy
  else if word = "unhealthy".toList then .unhealthy
  else .unknown

/-! ## Attributes and time -/

/-- The attribute that holds the exit code. -/
def exitCodeKey : String := "exitCode"

/-- The attributes that are no labels of the container. -/
def reservedKeys : List String := [exitCodeKey, "image", "name", "signal"]

/-- The exit code among the attributes, if it is an integer of eight bytes. -/
def exitCode? (attributes : Dictionary) : Option Int :=
  (attributes.get? exitCodeKey).bind fun code => Numeral.int64? code.toList

/-- The labels among the attributes. -/
def labels (attributes : Dictionary) : Dictionary :=
  attributes.keep fun key => !reservedKeys.contains key

/-- When a message says that something happened.  Nanoseconds win over seconds. -/
def occurredAt? (m : Engine.Message) : Option Instant :=
  match m.timeNano with
  | some nanos => some (Instant.ofNanos nanos)
  | none => m.time.bind Instant.ofSeconds?

/-! ## The announced change -/

/-- The metadata of a change, with the time in the field that belongs to the change. -/
def metadata (dockerId action : String) (attributes : Dictionary) (status : Status) (type : EventType)
    (at? : Option Instant) : Metadata :=
  let seen : Metadata :=
    { dockerId, exitCode := exitCode? attributes, labels := labels attributes }
  match type, status with
  | .health, _ => { seen with health := { status := verdict action, since := at? } }
  | .container, .created => { seen with createdAt := at? }
  | .container, .running => { seen with startedAt := at? }
  | .container, .stopped => { seen with finishedAt := at? }
  | .container, _ => seen

/-- The container and the action that a message names, if it is about a container. -/
def subject? (m : Engine.Message) : Option (Engine.Actor × String × String) := do
  guard (m.kind = some .container)
  let actor ← m.actor
  let dockerId ← actor.id
  let action ← m.action
  some (actor, dockerId, action)

end Announcement

open Announcement in
/-- What a message of the engine amounts to. -/
def Engine.Message.announcement (m : Engine.Message) : Announcement :=
  match subject? m with
  | none => .unrelated
  | some (actor, dockerId, action) =>
    match changeOf? action with
    | none => .unrecognised action dockerId
    | some (status, type) =>
      .change ⟨status, metadata dockerId action (actor.attributes.getD .empty) status type
        (occurredAt? m), type⟩

/-- The change of a container's state that a message announces, if it announces one. -/
def ChangeEvent.ofMessage? (m : Engine.Message) : Option ChangeEvent := m.announcement.event?

namespace Announcement

/-! ## Which changes are announced -/

theorem metadata_error (dockerId action : String) (attributes : Dictionary) (status : Status)
    (type : EventType) (at? : Option Instant) :
    (metadata dockerId action attributes status type at?).error = none := by
  unfold metadata
  split <;> rfl

/-- An announced change never carries a failure. -/
theorem isAuthoritative_of_ofMessage? {m : Engine.Message} {e : ChangeEvent}
    (h : ChangeEvent.ofMessage? m = some e) : e.metadata.isAuthoritative := by
  simp only [ChangeEvent.ofMessage?, Engine.Message.announcement] at h
  split at h
  · simp [event?] at h
  · split at h
    · simp [event?] at h
    · simp only [event?, Option.some.injEq] at h
      subst h
      simp [Metadata.isAuthoritative, metadata_error]

end Announcement

end ContainerWatch
