import ContainerWatch.Container.Shelf
/-!
# Metadata are values

Metadata under names have nothing in common but what was copied, at the moment when it was copied.  An operation
leaves its result under one name, its target, and every other name alone.  So a run can be read one name at a time:
of all operations those count that had the name as their target (`Shelf.touches`), and of other names only the
values that were copied from them, as they were then (`Shelf.get?_after`).  Inside one value the fields have nothing
in common either (`Metadata.field_set_of_ne`).

The twelve fields are told apart by an index (`Metadata.Field`), each with its own type (`Metadata.Field.Value`), so
that one statement is about all of them.

Main statement: `Shelf.value_semantics`.
-/

namespace ContainerWatch

/-! ## Fields -/

namespace Metadata

/-- The fields of metadata. -/
inductive Field where
  | dockerId
  | exitCode
  | portBindings
  | error
  | volumes
  | labels
  | createdAt
  | startedAt
  | finishedAt
  | health
  | networkMode
  | networkSettings
  deriving DecidableEq

/-- What a field holds. -/
def Field.Value : Field → Type
  | dockerId | networkMode => String
  | exitCode => Option Int
  | portBindings => List PortBinding
  | error => Option Transition
  | volumes => List Volume
  | labels => Dictionary
  | createdAt | startedAt | finishedAt => Option Instant
  | health => Health
  | networkSettings => Option Engine.NetworkSettings

/-- The value of a field. -/
def field (m : Metadata) : (f : Field) → f.Value
  | .dockerId => m.dockerId
  | .exitCode => m.exitCode
  | .portBindings => m.portBindings
  | .error => m.error
  | .volumes => m.volumes
  | .labels => m.labels
  | .createdAt => m.createdAt
  | .startedAt => m.startedAt
  | .finishedAt => m.finishedAt
  | .health => m.health
  | .networkMode => m.networkMode
  | .networkSettings => m.networkSettings

end Metadata

open Metadata (Field)

/-- The field that is set. -/
def Setting.field : Setting → Field
  | dockerId _ => .dockerId
  | exitCode _ => .exitCode
  | portBindings _ => .portBindings
  | error _ => .error
  | volumes _ => .volumes
  | labels _ => .labels
  | createdAt _ => .createdAt
  | startedAt _ => .startedAt
  | finishedAt _ => .finishedAt
  | health _ => .health
  | networkMode _ => .networkMode
  | networkSettings _ => .networkSettings

/-- The value that it is set to. -/
def Setting.value : (s : Setting) → s.field.Value
  | .dockerId id => id
  | .exitCode code => code
  | .portBindings bs => bs
  | .error e => e
  | .volumes vs => vs
  | .labels ls => ls
  | .createdAt t => t
  | .startedAt t => t
  | .finishedAt t => t
  | .health h => h
  | .networkMode mode => mode
  | .networkSettings settings => settings

namespace Metadata

theorem field_set_self (m : Metadata) (s : Setting) : (m.set s).field s.field = s.value := by
  cases s <;> rfl

/-- Setting a field leaves every other field alone. -/
theorem field_set_of_ne (m : Metadata) {s : Setting} {f : Field} (h : f ≠ s.field) :
    (m.set s).field f = m.field f := by
  cases s <;> cases f <;> first | rfl | exact absurd rfl h

theorem hasExited_congr {m m' : Metadata} (h : m.field .exitCode = m'.field .exitCode) :
    m.hasExited = m'.hasExited :=
  congrArg Option.isSome h

theorem isAuthoritative_congr {m m' : Metadata} (h : m.field .error = m'.field .error) :
    m.isAuthoritative = m'.isAuthoritative :=
  congrArg Option.isNone h

end Metadata

/-! ## One operation -/

/-- An operation: an action, and the name of the value that it is done with. -/
structure ShelfOperation where
  name : String
  action : ShelfAction

/-- The name under which an operation leaves its result. -/
def ShelfOperation.target (op : ShelfOperation) : String := Shelf.target op.name op.action

namespace Shelf

variable {s : Shelf} {name : String} {op : ShelfOperation} {ops : List ShelfOperation}

/-- An operation that succeeds leaves its result under its target. -/
theorem get?_run_target {action : ShelfAction} {m : Metadata} (h : result? (s.get? name) action = some m) :
    (s.run name action).1.get? (target name action) = some m := by
  rw [run, h]
  dsimp only
  rw [get?_put, if_pos rfl]

/-- An operation that fails changes nothing. -/
theorem run_eq_of_result?_eq_none {action : ShelfAction} (h : result? (s.get? name) action = none) :
    s.run name action = (s, none) := by
  rw [run, h]

theorem answer_eq_none_iff {action : ShelfAction} :
    (s.run name action).2 = none ↔ result? (s.get? name) action = none := by
  cases h : result? (s.get? name) action <;> simp [run, h]

/-- Only where there is no value can an operation fail. -/
theorem eq_none_of_result?_eq_none {current : Option Metadata} {action : ShelfAction}
    (h : result? current action = none) : current = none := by
  cases action with
  | new | ofError | inspect => cases h
  | read | copyTo | event => exact h
  | set | label | unlabel => exact Option.map_eq_none_iff.1 h

/-! ## Runs -/

/-- The shelf after operations one after another. -/
def after (s : Shelf) (ops : List ShelfOperation) : Shelf :=
  ops.foldl (fun s op => (s.run op.name op.action).1) s

/-- What an operation does to the value under one name. -/
inductive Touch where
  /-- an action with this value -/
  | acted (action : ShelfAction)
  /-- another value, as it is at that moment, takes its place -/
  | given (value : Metadata)

/-- The value after a touch, the same as before where the action fails. -/
def Touch.apply (current : Option Metadata) : Touch → Option Metadata
  | acted action => (result? current action).or current
  | given value => some value

/-- What an operation does to the value under a name, nothing unless the name is its target. -/
def touch? (s : Shelf) (name : String) (op : ShelfOperation) : Option Touch :=
  if op.target = name then
    match op.action with
    | .copyTo _ => (s.get? op.name).map .given
    | action => some (.acted action)
  else none

/-- What the operations of a run do to the value under a name, one after another. -/
def touches (s : Shelf) (name : String) : List ShelfOperation → List Touch
  | [] => []
  | op :: rest => (s.touch? name op).toList ++ touches (s.run op.name op.action).1 name rest

/-- An action with a value changes it as the action says, and leaves it where it is. -/
theorem get?_run_self {action : ShelfAction} (h : target name action = name) :
    (s.run name action).1.get? name = (result? (s.get? name) action).or (s.get? name) := by
  cases hresult : result? (s.get? name) action with
  | none => rw [run_eq_of_result?_eq_none hresult, Option.none_or]
  | some m =>
    have htarget := get?_run_target hresult
    rw [h] at htarget
    rw [htarget, Option.some_or]

/-- One operation does to a name what it does to its value, and nothing else.  A copy is special in that its result
goes to another name than the one that it is done with; all other actions stay with theirs. -/
theorem get?_run_eq_foldl (s : Shelf) (name : String) (op : ShelfOperation) :
    (s.run op.name op.action).1.get? name = (s.touch? name op).toList.foldl Touch.apply (s.get? name) := by
  by_cases htarget : op.target = name
  · obtain ⟨source, action⟩ := op
    rw [touch?, if_pos htarget]
    cases action with
    | copyTo copy =>
      obtain rfl : copy = name := htarget
      cases hvalue : s.get? source with
      | none =>
        rw [run_eq_of_result?_eq_none (by rw [hvalue]; rfl)]
        rfl
      | some m => exact get?_run_target (by rw [hvalue]; rfl)
    | _ =>
      obtain rfl : source = name := htarget
      exact get?_run_self rfl
  · rw [touch?, if_neg htarget]
    exact get?_run_of_ne s (Ne.symm htarget)

/-- After a run the value under a name is what the touches of this name made of it.  The values that are copied to the
name are among the touches, taken at the moment of the copy, so later operations on their own names do not matter. -/
theorem get?_after (s : Shelf) (name : String) (ops : List ShelfOperation) :
    (s.after ops).get? name = (s.touches name ops).foldl Touch.apply (s.get? name) := by
  induction ops generalizing s with
  | nil => rfl
  | cons op ops ih =>
    rw [touches, List.foldl_append, ← get?_run_eq_foldl]
    exact ih (s.run op.name op.action).1

/-- A run that never has a name as its target does not touch it. -/
theorem touches_eq_nil (h : ∀ op ∈ ops, op.target ≠ name) : s.touches name ops = [] := by
  induction ops generalizing s with
  | nil => rfl
  | cons op ops ih =>
    rw [touches, touch?, if_neg (h op List.mem_cons_self), ih fun o ho => h o (List.mem_cons_of_mem op ho)]
    rfl

/-- So a value stays as it is while no operation has its name as the target. -/
theorem get?_after_of_forall_ne (h : ∀ op ∈ ops, op.target ≠ name) : (s.after ops).get? name = s.get? name := by
  rw [get?_after, touches_eq_nil h]
  rfl

/-- A copy and what it was made from stand for themselves: operations that leave their results elsewhere change
neither. -/
theorem get?_after_copy {original : String} (copy : String) {m : Metadata} (h : s.get? original = some m) :
    (s.run original (.copyTo copy)).1.get? copy = some m ∧
      (s.run original (.copyTo copy)).1.get? original = some m := by
  have hcopy : (s.run original (.copyTo copy)).1.get? copy = some m := get?_run_target h
  refine ⟨hcopy, ?_⟩
  by_cases hsame : original = copy
  · rw [← hsame] at hcopy
    rw [← hsame, hcopy]
  · rw [get?_run_of_ne s hsame, h]

/-- An event is made from the value under a name as it stands there, and changes no value. -/
theorem run_event (s : Shelf) (name : String) (status : Status) (type : EventType) :
    (s.run name (.event status type)).2 = (s.get? name).map (fun m => .event ⟨status, m, type⟩) ∧
      ∀ other, (s.run name (.event status type)).1.get? other = s.get? other := by
  constructor
  · cases h : s.get? name <;> simp [run, result?, answer, h]
  · intro other
    by_cases hother : other = name
    · rw [hother, get?_run_self rfl]
      exact Option.or_self
    · exact get?_run_of_ne s hother

/-- Metadata are values.  An operation changes at most the value that it targets, and none when it fails, which it
does only where there is no value that it needs; an event changes none.  After a copy was made, operations change the
one of the two that they target.  What stands under a name after a run depends on what stood there before, on the
operations that targeted it and on the values that were copied to it, as they were at those moments.  Setting a field
leaves the others alone, and tells of an exit or a failure only where it sets an exit code or a failure. -/
theorem value_semantics (s : Shelf) :
    (∀ op : ShelfOperation,
      (∀ other, other ≠ op.target → (s.run op.name op.action).1.get? other = s.get? other) ∧
      (∀ m, result? (s.get? op.name) op.action = some m →
        (s.run op.name op.action).1.get? op.target = some m) ∧
      ((s.run op.name op.action).2 = none → (s.run op.name op.action).1 = s ∧ s.get? op.name = none)) ∧
    (∀ name status type,
      (s.run name (.event status type)).2 = (s.get? name).map (fun m => .event ⟨status, m, type⟩) ∧
        ∀ other, (s.run name (.event status type)).1.get? other = s.get? other) ∧
    (∀ original copy m ops, s.get? original = some m →
      (s.run original (.copyTo copy)).1.get? copy = some m ∧
      ((∀ op ∈ ops, ShelfOperation.target op ≠ original) →
        ((s.run original (.copyTo copy)).1.after ops).get? original = some m) ∧
      ((∀ op ∈ ops, ShelfOperation.target op ≠ copy) →
        ((s.run original (.copyTo copy)).1.after ops).get? copy = some m)) ∧
    (∀ name ops, (s.after ops).get? name = (s.touches name ops).foldl Touch.apply (s.get? name)) ∧
    ∀ (m : Metadata) (setting : Setting),
      (m.set setting).field setting.field = setting.value ∧
      (∀ f ≠ setting.field, (m.set setting).field f = m.field f) ∧
      (setting.field ≠ .exitCode → (m.set setting).hasExited = m.hasExited) ∧
      (setting.field ≠ .error → (m.set setting).isAuthoritative = m.isAuthoritative) := by
  refine ⟨fun op => ⟨fun other hother => get?_run_of_ne s hother, fun m hm => get?_run_target hm, fun hnone => ?_⟩,
    s.run_event, fun original copy m ops hm => ?_, s.get?_after, fun m setting => ?_⟩
  · have hresult := answer_eq_none_iff.1 hnone
    exact ⟨congrArg Prod.fst (run_eq_of_result?_eq_none hresult), eq_none_of_result?_eq_none hresult⟩
  · obtain ⟨hcopy, horiginal⟩ := get?_after_copy copy hm
    exact ⟨hcopy, fun hops => (get?_after_of_forall_ne hops).trans horiginal,
      fun hops => (get?_after_of_forall_ne hops).trans hcopy⟩
  · exact ⟨m.field_set_self setting, fun f hf => m.field_set_of_ne hf,
      fun hne => Metadata.hasExited_congr (m.field_set_of_ne hne.symm),
      fun hne => Metadata.isAuthoritative_congr (m.field_set_of_ne hne.symm)⟩

/-- A container with an owner. -/
def ownedExample : Metadata := { Metadata.ofId "abc123" with labels := Dictionary.empty.insert "owner" "agent" }

/-- A shelf with this container alone. -/
def exampleShelf : Shelf := ⟨[("original", ownedExample)]⟩

/-- Operations on a copy and on a copy of the copy, one on an empty name among them. -/
def copyOperations : List ShelfOperation :=
  [⟨"copy", .label "owner" "someone-else"⟩, ⟨"copy", .set (.error (some ⟨.timeout, "late", none⟩))⟩,
    ⟨"nothing", .copyTo "copy"⟩, ⟨"copy", .copyTo "third"⟩, ⟨"third", .unlabel "owner"⟩,
    ⟨"copy", .event .running .container⟩]

/-- The copy has another owner and a failure, from its own operations alone; the original and the copy of the copy tell
nothing of what was done later elsewhere. -/
theorem value_semantics_exampleShelf :
    let copied := (exampleShelf.run "original" (.copyTo "copy")).1
    (copied.after copyOperations).get? "original" = some ownedExample ∧
      (∃ m, (copied.after copyOperations).get? "copy" = some m ∧ m.labels.get? "owner" = some "someone-else" ∧
        m.isAuthoritative = false ∧ m.hasExited = ownedExample.hasExited) ∧
      (∃ m, (copied.after copyOperations).get? "third" = some m ∧ m.labels = .empty ∧
        m.isAuthoritative = false) ∧
      (copied.run "nothing" (.copyTo "copy")).1 = copied := by
  intro copied
  obtain ⟨-, -, hcopy, -, -⟩ := value_semantics exampleShelf
  obtain ⟨hstep, -, -, hruns, -⟩ := value_semantics copied
  obtain ⟨-, horiginal, -⟩ := hcopy "original" "copy" ownedExample copyOperations rfl
  obtain ⟨-, -, hfailed⟩ := hstep ⟨"nothing", .copyTo "copy"⟩
  refine ⟨horiginal (by decide), ⟨_, hruns "copy" copyOperations, ?_⟩, ⟨_, hruns "third" copyOperations, ?_⟩,
    (hfailed (by decide)).1⟩
  · decide
  · decide

end Shelf

end ContainerWatch
