import ContainerWatch.Proofs.Container.Announced
/-!
# Which messages announce a change

A message announces a change when it is about a container, says which one and what happened to it, and what
happened is one of six actions or begins as a report of health does.  The action alone then settles what the
change is (`Denotes`), and the container is the one that the message names.  Nothing else in a message counts.

Three things are said of an announced change here, its status, its type and its container; they are its `headline`.
What else it carries is the subject of `ContainerWatch.Proofs.Container.Payload`.

Main statement: `ChangeEvent.recognised`.
-/

namespace ContainerWatch

namespace Announcement

/-! ## What actions mean -/

/-- The changes of state that actions are.  An action is compared as it is written, so letter case and blanks count; a
report of health may go on after its first word in any way. -/
inductive Denotes : String → Status → EventType → Prop
  | health (rest : String) : Denotes ("health_status" ++ rest) .running .health
  | create : Denotes "create" .created .container
  | start : Denotes "start" .running .container
  | restart : Denotes "restart" .running .container
  | unpause : Denotes "unpause" .running .container
  | stop : Denotes "stop" .stopped .container
  | die : Denotes "die" .stopped .container

/-- A report of health is a change of health, whatever it reports. -/
theorem changeOf?_health (rest : String) :
    changeOf? ("health_status" ++ rest) = some (.running, .health) := by
  have hstart : healthWord.isPrefixOf ("health_status" ++ rest).toList := by
    rw [List.isPrefixOf_iff_prefix, String.toList_append]
    exact List.prefix_append healthWord rest.toList
  unfold changeOf?
  exact if_pos hstart

theorem exists_eq_append_of_isPrefixOf {action : String} (h : healthWord.isPrefixOf action.toList) :
    ∃ rest, action = "health_status" ++ rest := by
  obtain ⟨rest, hrest⟩ := List.isPrefixOf_iff_prefix.1 h
  have hlist : (String.ofList rest).toList = rest := String.toList_ofList
  refine ⟨String.ofList rest, String.toList_injective ?_⟩
  rw [String.toList_append, hlist]
  exact hrest.symm

/-- An action is read as the change that it denotes, and as none when it denotes none.  None of the six other actions
begins as a report of health, so the order of the cases does not matter. -/
theorem changeOf?_eq_some_iff {action : String} {status : Status} {type : EventType} :
    changeOf? action = some (status, type) ↔ Denotes action status type := by
  constructor
  · intro h
    unfold changeOf? at h
    split at h
    · rename_i hstart
      obtain ⟨rest, rfl⟩ := exists_eq_append_of_isPrefixOf hstart
      cases h
      exact .health rest
    · split at h
      · cases h
        exact .create
      · cases h
        exact .start
      · cases h
        exact .restart
      · cases h
        exact .unpause
      · cases h
        exact .stop
      · cases h
        exact .die
      · cases h
  · intro h
    cases h with
    | health rest => exact changeOf?_health rest
    | create => decide
    | start => decide
    | restart => decide
    | unpause => decide
    | stop => decide
    | die => decide

/-- The actions that are a change of state: reports of health, and six others. -/
theorem exists_denotes_iff {action : String} :
    (∃ status type, Denotes action status type) ↔
      (∃ rest, action = "health_status" ++ rest) ∨
        action ∈ ["create", "start", "restart", "unpause", "stop", "die"] := by
  constructor
  · rintro ⟨status, type, h⟩
    cases h with
    | health rest => exact Or.inl ⟨rest, rfl⟩
    | create => exact Or.inr (by decide)
    | start => exact Or.inr (by decide)
    | restart => exact Or.inr (by decide)
    | unpause => exact Or.inr (by decide)
    | stop => exact Or.inr (by decide)
    | die => exact Or.inr (by decide)
  · simp only [List.mem_cons, List.not_mem_nil, or_false]
    rintro (⟨rest, rfl⟩ | rfl | rfl | rfl | rfl | rfl | rfl)
    · exact ⟨_, _, .health rest⟩
    · exact ⟨_, _, .create⟩
    · exact ⟨_, _, .start⟩
    · exact ⟨_, _, .restart⟩
    · exact ⟨_, _, .unpause⟩
    · exact ⟨_, _, .stop⟩
    · exact ⟨_, _, .die⟩

theorem metadata_dockerId (dockerId action : String) (attributes : Dictionary) (status : Status)
    (type : EventType) (at? : Option Instant) :
    (metadata dockerId action attributes status type at?).dockerId = dockerId := by
  unfold metadata
  split <;> rfl

end Announcement

namespace ChangeEvent

open Announcement

/-! ## What a message settles by its action -/

/-- What changed, in what respect, and for which container. -/
def headline (e : ChangeEvent) : Status × EventType × String := (e.status, e.type, e.metadata.dockerId)

/-- A message announces what its action denotes for the container that it names.  Everything that follows about what
is announced is read off this equivalence. -/
theorem map_headline_eq_some_iff {m : Engine.Message} {status : Status} {type : EventType}
    {dockerId : String} :
    (ofMessage? m).map headline = some (status, type, dockerId) ↔
      m.kind = some .container ∧ m.actor.bind Engine.Actor.id = some dockerId ∧
        ∃ action, m.action = some action ∧ Denotes action status type := by
  rw [Option.map_eq_some_iff, Option.bind_eq_some_iff]
  constructor
  · rintro ⟨e, h, hheadline⟩
    obtain ⟨actor, dockerId', action, status', type', hkind, hactor, hid, haction, hchange, rfl⟩ :=
      ofMessage?_eq_some_iff.1 h
    rw [headline, metadata_dockerId, Prod.mk.injEq, Prod.mk.injEq] at hheadline
    obtain ⟨rfl, rfl, rfl⟩ := hheadline
    exact ⟨hkind, ⟨actor, hactor, hid⟩, action, haction, changeOf?_eq_some_iff.1 hchange⟩
  · rintro ⟨hkind, ⟨actor, hactor, hid⟩, action, haction, hdenotes⟩
    refine ⟨_, ofMessage?_eq_some_iff.2 ⟨actor, dockerId, action, status, type, hkind, hactor, hid, haction,
      changeOf?_eq_some_iff.2 hdenotes, rfl⟩, ?_⟩
    rw [headline, metadata_dockerId]

/-- Exactly the messages that name a container and an action which is a change of state announce a change;
its status and type are what the action denotes, and its container is the one that is named; and messages that
agree in kind, action and container announce the same, whatever else they say. -/
theorem recognised (m : Engine.Message) :
    ((ofMessage? m).isSome ↔
      m.kind = some .container ∧ (∃ actor dockerId, m.actor = some actor ∧ actor.id = some dockerId) ∧
        ∃ action, m.action = some action ∧
          ((∃ rest, action = "health_status" ++ rest) ∨
            action ∈ ["create", "start", "restart", "unpause", "stop", "die"])) ∧
    (∀ e, ofMessage? m = some e → ∃ actor action, m.actor = some actor ∧
      actor.id = some e.metadata.dockerId ∧ m.action = some action ∧ Denotes action e.status e.type) ∧
    (∀ n : Engine.Message, n.kind = m.kind → n.action = m.action →
      n.actor.bind Engine.Actor.id = m.actor.bind Engine.Actor.id →
      (ofMessage? n).map headline = (ofMessage? m).map headline) := by
  refine ⟨?_, ?_, ?_⟩
  · -- a change is announced exactly when its headline is
    rw [← Option.isSome_map (f := headline), Option.isSome_iff_exists]
    simp only [Prod.exists, map_headline_eq_some_iff, Option.bind_eq_some_iff, ← exists_denotes_iff]
    constructor
    · rintro ⟨status, type, dockerId, hkind, ⟨actor, hactor, hid⟩, action, haction, hdenotes⟩
      exact ⟨hkind, ⟨actor, dockerId, hactor, hid⟩, action, haction, status, type, hdenotes⟩
    · rintro ⟨hkind, ⟨actor, dockerId, hactor, hid⟩, action, haction, status, type, hdenotes⟩
      exact ⟨status, type, dockerId, hkind, ⟨actor, hactor, hid⟩, action, haction, hdenotes⟩
  · intro e h
    have hheadline : (ofMessage? m).map headline = some (e.status, e.type, e.metadata.dockerId) := by
      rw [h]
      rfl
    obtain ⟨-, hid, action, haction, hdenotes⟩ := map_headline_eq_some_iff.1 hheadline
    obtain ⟨actor, hactor, hid⟩ := Option.bind_eq_some_iff.1 hid
    exact ⟨actor, action, hactor, hid, haction, hdenotes⟩
  · intro n hkind haction hid
    refine Option.ext fun ⟨status, type, dockerId⟩ => ?_
    rw [map_headline_eq_some_iff, map_headline_eq_some_iff, hkind, haction, hid]

/-- A message about the container without a name that carries every other part. -/
def unnamedExample (action : String) : Engine.Message where
  kind := some .container
  action := some action
  actor := some ⟨some "", some (Dictionary.empty.insert "exitCode" "1")⟩
  scope := some .swarm
  time := some 5
  timeNano := some (-1)

/-- An empty identifier counts, an action in another letter case does not, an extended report of health does,
and the message announces the same without all that its action does not need. -/
theorem recognised_unnamedExample :
    (ofMessage? (unnamedExample "die")).isSome ∧ (ofMessage? (unnamedExample "Die")).isNone ∧
      (ofMessage? (unnamedExample "died")).isNone ∧
      (ofMessage? (unnamedExample "health_status_x")).isSome ∧
      (ofMessage? ⟨some .container, some "die", some ⟨some "", none⟩, none, none, none⟩).map headline =
        (ofMessage? (unnamedExample "die")).map headline := by
  have hsome (action : String) := (recognised (unnamedExample action)).1
  refine ⟨?_, ?_, ?_, ?_, ?_⟩
  · exact (hsome "die").2 ⟨rfl, ⟨_, _, rfl, rfl⟩, _, rfl, Or.inr (by decide)⟩
  · decide
  · decide
  · exact (hsome "health_status_x").2 ⟨rfl, ⟨_, _, rfl, rfl⟩, _, rfl, Or.inl ⟨"_x", rfl⟩⟩
  · exact (recognised (unnamedExample "die")).2.2 _ rfl rfl rfl

end ChangeEvent

end ContainerWatch
