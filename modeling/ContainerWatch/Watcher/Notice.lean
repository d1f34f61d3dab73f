import ContainerWatch.Container.Announcement
import ContainerWatch.Engine.Stream
import ContainerWatch.Log.Line
/-!
# Notices of the watcher

What the watcher puts into the log: for each reading of the stream at most one line, and one when it
ends.
-/

namespace ContainerWatch

/-- The change of a container's state that a reading gives. -/
def Reading.change? : Reading → Option ChangeEvent
  | message m => ChangeEvent.ofMessage? m
  | failure _ => none

/-- What the watcher puts into the log. -/
inductive Notice where
  /-- the stream could not be read -/
  | unreadable (e : Engine.Error)
  /-- something happened to a container that is no change of its state -/
  | ignored (action dockerId : String)
  /-- a change is about to be sent -/
  | announced (dockerId : String) (status : Status)
  /-- a change was refused, and the watcher stops -/
  | receiverClosed
  /-- the stream is at its end -/
  | streamEnded
  deriving DecidableEq

namespace Notice

/-- The module under whose name the watcher writes. -/
def watcherTarget : String := "dockerapi::usecases::event_watcher"

/-- The module under whose name ignored messages are written. -/
def announcementTarget : String := "dockerapi::models::translate"

/-- The line of a notice. -/
def line : Notice → Log.Line
  | unreadable e =>
    ⟨.warn, watcherTarget, "Failed to read container event", [("error", e.message)]⟩
  | ignored action dockerId =>
    ⟨.debug, announcementTarget, "Ignoring container event",
      [("action", action), ("docker_id", dockerId)]⟩
  | announced dockerId status =>
    ⟨.debug, watcherTarget, "Translated container event",
      [("docker_id", dockerId), ("status", status.name)]⟩
  | receiverClosed =>
    ⟨.info, watcherTarget, "Change event receiver closed, stopping watcher", []⟩
  | streamEnded => ⟨.info, watcherTarget, "Container event stream ended", []⟩

end Notice

/-- What a reading puts into the log. -/
def Reading.notice? : Reading → Option Notice
  | failure e => some (.unreadable e)
  | message m =>
    match m.announcement with
    | .change event => some (.announced event.metadata.dockerId event.status)
    | .unrecognised action dockerId => some (.ignored action dockerId)
    | .unrelated => none

end ContainerWatch
