import ContainerWatch.Container.ChangeEvent
import ContainerWatch.Container.Inspected
/-!
# Shelves of metadata

Metadata values kept under names, and the operations on them.  An operation works on the value under
one name; only copying puts a value under a second one.  Values are independent of each other, so a copy
and the value it was made from go their own ways.

Main statements: `get?_put` says that putting a value changes one name only, and
`get?_run_of_ne` that an operation leaves every name alone that it does not put a value under.
-/

namespace ContainerWatch

/-- The fields of metadata, each with a value that it can be set to. -/
inductive Setting where
  | dockerId (id : String)
  | exitCode (code : Option Int)
  | portBindings (bindings : List PortBinding)
  | error (error : Option Transition)
  | volumes (volumes : List Volume)
  | labels (labels : Dictionary)
  | createdAt (time : Option Instant)
  | startedAt (time : Option Instant)
  | finishedAt (time : Option Instant)
  | health (health : Health)
  | networkMode (mode : String)
  | networkSettings (settings : Option Engine.NetworkSettings)
  deriving DecidableEq

/-- The metadata with one field set. -/
def Metadata.set (m : Metadata) : Setting → Metadata
  | .dockerId id => { m with dockerId := id }
  | .exitCode code => { m with exitCode := code }
  | .portBindings bindings => { m with portBindings := bindings }
  | .error error => { m with error := error }
  | .volumes volumes => { m with volumes := volumes }
  | .labels labels => { m with labels := labels }
  | .createdAt time => { m with createdAt := time }
  | .startedAt time => { m with startedAt := time }
  | .finishedAt time => { m with finishedAt := time }
  | .health health => { m with health := health }
  | .networkMode mode => { m with networkMode := mode }
  | .networkSettings settings => { m with networkSettings := settings }

/-- What can be done with the value under a name. -/
inductive ShelfAction where
  | new (dockerId : String)
  | ofError (error : Transition)
  | inspect (record : Engine.Inspection)
  | read
  | set (setting : Setting)
  | label (key value : String)
  | unlabel (key : String)
  | copyTo (name : String)
  | event (status : Status) (type : EventType)

/-- What an operation answers. -/
inductive ShelfAnswer where
  | metadata (value : Metadata)
  | event (event : ChangeEvent)
  deriving DecidableEq

/-- Metadata values under names, the value put last under a name being the one that counts. -/
structure Shelf where
  slots : List (String × Metadata) := []

namespace Shelf

/-- The value under a name. -/
def get? (s : Shelf) (name : String) : Option Metadata :=
  (s.slots.find? fun slot => slot.1 == name).map (·.2)

/-- The shelf with a value put under a name. -/
def put (s : Shelf) (name : String) (value : Metadata) : Shelf :=
  ⟨(name, value) :: s.slots.filter fun slot => slot.1 != name⟩

/-- The value that an action makes of the one under its name, or of nothing; none when the action needs
a value and there is none. -/
def result? (current : Option Metadata) : ShelfAction → Option Metadata
  | .new dockerId => some (.ofId dockerId)
  | .ofError error => some (.ofError error)
  | .inspect record => some (.ofInspection record)
  | .set setting => current.map fun m => m.set setting
  | .label key value => current.map fun m => { m with labels := m.labels.insert key value }
  | .unlabel key => current.map fun m => { m with labels := m.labels.erase key }
  | .read | .copyTo _ | .event _ _ => current

/-- The name under which an action on a name leaves its result. -/
def target (name : String) : ShelfAction → String
  | .copyTo other => other
  | _ => name

/-- What an action answers about its result. -/
def answer (value : Metadata) : ShelfAction → ShelfAnswer
  | .event status type => .event ⟨status, value, type⟩
  | _ => .metadata value

/-- Does an action with the value under a name.  Without a value that the action needs, nothing is
answered and nothing changes. -/
def run (s : Shelf) (name : String) (action : ShelfAction) : Shelf × Option ShelfAnswer :=
  match result? (s.get? name) action with
  | none => (s, none)
  | some value => (s.put (target name action) value, some (answer value action))

/-! ## What operations change -/

/-- Putting a value changes what is under one name. -/
theorem get?_put (s : Shelf) (name other : String) (value : Metadata) :
    (s.put name value).get? other = if other = name then some value else s.get? other := by
  by_cases h : other = name
  · simp [put, get?, h]
  · rw [if_neg h, get?, put, List.find?_cons_of_neg (by simpa using Ne.symm h), get?]
    congr 1
    induction s.slots with
    | nil => rfl
    | cons slot rest ih =>
      by_cases hs : slot.1 = name
      · rw [List.filter_cons_of_neg (by simp [hs]), ih,
          List.find?_cons_of_neg (by simpa [hs] using Ne.symm h)]
      · rw [List.filter_cons_of_pos (by simpa using hs), List.find?_cons, List.find?_cons, ih]

/-- An action leaves every name alone but the one that it leaves its result under. -/
theorem get?_run_of_ne (s : Shelf) {name other : String} {action : ShelfAction}
    (h : other ≠ target name action) : (s.run name action).1.get? other = s.get? other := by
  simp only [run]
  split
  · rfl
  · rw [get?_put, if_neg h]

end Shelf

end ContainerWatch
