import ContainerWatch.Proofs.Container.Recognised
import ContainerWatch.Proofs.Container.Times
import ContainerWatch.Proofs.Numeral
/-!
# The payload of an announced change

Besides its headline an announced change carries an exit code, labels and one time.  The exit code and the labels
are read off the attributes and the time off the message, each on its own; the time goes into the one field that
belongs to the change (`ChangeEvent.recordedAt?`), and all other fields stay as they are by default.  Nanoseconds
count from the same origin as seconds, rounded down to the second also before it.

An announcement knows less than an inspection.  Its exit code is whatever the attribute says, and so is no sign that
the container has exited; its labels are all attributes but four; and of all the times of a container it gives the
one that its action is about.  What is shown of the time comes in two steps: the field of the change holds the time of
the message (`recordedAt?_of_ofMessage?`), and the time of the message follows its numbers (`occurredAt?_of_timeNano`,
`occurredAt?_of_time`).

Main statements: `ChangeEvent.payload`, which says what every field holds, and `ChangeEvent.recorded`, which says
what the time is.
-/

namespace ContainerWatch

namespace Announcement

/-! ## Attributes and time -/

/-- The exit code is the number that the attribute is a numeral of, when eight bytes hold it. -/
theorem exitCode?_eq_some_iff {attributes : Dictionary} {n : Int} :
    exitCode? attributes = some n ↔ ∃ code, attributes.get? "exitCode" = some code ∧
      Numeral.Signed code.toList n ∧ Numeral.int64Min ≤ n ∧ n ≤ Numeral.int64Max := by
  simp only [exitCode?, exitCodeKey, Option.bind_eq_some_iff, Numeral.int64?_eq_some_iff]

/-- The printed text of an exit code of eight bytes is read as that exit code.  So no exit code of a container is
lost, whichever sign it has. -/
theorem exitCode?_of_integerText {attributes : Dictionary} {n : Int}
    (h : attributes.get? "exitCode" = some (ChangeEvent.integerText n)) (hmin : Numeral.int64Min ≤ n)
    (hmax : n ≤ Numeral.int64Max) : exitCode? attributes = some n := by
  refine exitCode?_eq_some_iff.2 ⟨_, h, ?_, hmin, hmax⟩
  rw [ChangeEvent.integerText, String.toList_ofList]
  exact Numeral.signed_decimalInt n

/-- Texts that are no exit codes: one without a digit, one with anything but digits and signs, and a numeral of a
number that eight bytes do not hold. -/
theorem exitCode?_eq_none {attributes : Dictionary} {code : String}
    (hget : attributes.get? "exitCode" = some code)
    (hcode : (∀ c ∈ code.toList, ¬ c.isDigit) ∨ (∃ c ∈ code.toList, ¬ (c.isDigit ∨ c = '+' ∨ c = '-')) ∨
      ∃ n, Numeral.Signed code.toList n ∧ ¬ (Numeral.int64Min ≤ n ∧ n ≤ Numeral.int64Max)) :
    exitCode? attributes = none := by
  rw [Option.eq_none_iff_forall_ne_some]
  intro n hn
  obtain ⟨code', hget', hsigned, hrange⟩ := exitCode?_eq_some_iff.1 hn
  obtain rfl := Option.some.inj (hget.symm.trans hget')
  -- what is no numeral lacks what each numeral has, and a numeral stands for one number
  obtain hnone | ⟨c, hc, hother⟩ | ⟨n', hsigned', hrange'⟩ := hcode
  · obtain ⟨c, hc, hdigit⟩ := hsigned.exists_isDigit
    exact hnone c hc hdigit
  · exact hother (hsigned.isDigit_or hc)
  · rw [hsigned'.unique hsigned] at hrange'
    exact hrange' hrange

/-- The labels are the attributes without the four that the engine adds on its own account. -/
theorem get?_labels (attributes : Dictionary) (key : String) :
    (labels attributes).get? key =
      if key ∈ ["exitCode", "image", "name", "signal"] then none else attributes.get? key := by
  have hreserved : reservedKeys = ["exitCode", "image", "name", "signal"] := rfl
  rw [labels, Dictionary.get?_keep, hreserved]
  by_cases hkey : key ∈ ["exitCode", "image", "name", "signal"]
  · rw [if_pos hkey, List.contains_iff_mem.2 hkey]
    rfl
  · rw [if_neg hkey, Bool.eq_false_iff.2 (mt List.contains_iff_mem.1 hkey)]
    rfl

/-- The attributes that are neither labels nor the exit code do not count. -/
theorem exitCode?_labels_congr {as bs : Dictionary}
    (h : ∀ key ∉ ["image", "name", "signal"], as.get? key = bs.get? key) :
    exitCode? as = exitCode? bs ∧ labels as = labels bs := by
  constructor
  · rw [exitCode?, exitCode?, h exitCodeKey (by decide)]
  · refine Dictionary.ext_get? fun key => ?_
    rw [get?_labels, get?_labels]
    split
    · rfl
    · rename_i hkey
      exact h key fun hmem => hkey (List.mem_cons_of_mem "exitCode" hmem)

theorem occurredAt?_of_time {m : Engine.Message} {s : Int} (hnano : m.timeNano = none) (htime : m.time = some s) :
    occurredAt? m = Instant.ofSeconds? s := by
  rw [occurredAt?, hnano, htime]
  rfl

/-! ## Metadata -/

/-- The metadata of a change, field by field: under which changes the time stands in which field, and what does not
depend on the change. -/
theorem metadata_eq (dockerId action : String) (attributes : Dictionary) (status : Status) (type : EventType)
    (at? : Option Instant) :
    metadata dockerId action attributes status type at? =
      { dockerId
        exitCode := exitCode? attributes
        labels := labels attributes
        createdAt := if type = .container ∧ status = .created then at? else none
        startedAt := if type = .container ∧ status = .running then at? else none
        finishedAt := if type = .container ∧ status = .stopped then at? else none
        health := if type = .health then { status := verdict action, since := at? } else {} } := by
  cases type with
  | health => rfl
  | container => cases status <;> rfl

end Announcement

namespace ChangeEvent

open Announcement

/-- The time of a change, out of the field that belongs to the change. -/
def recordedAt? (e : ChangeEvent) : Option Instant :=
  match e.type, e.status with
  | .health, _ => e.metadata.health.since
  | .container, .created => e.metadata.createdAt
  | .container, .running => e.metadata.startedAt
  | .container, .stopped => e.metadata.finishedAt
  | .container, _ => none

/-- An announced change has the time of its message, in the field that belongs to the change.  A change of state is
one of three, and each has its field. -/
theorem recordedAt?_of_ofMessage? {m : Engine.Message} {e : ChangeEvent} (h : ofMessage? m = some e) :
    e.recordedAt? = occurredAt? m := by
  obtain ⟨actor, dockerId, action, status, type, _, _, _, _, hchange, rfl⟩ := ofMessage?_eq_some_iff.1 h
  cases type with
  | health => rfl
  | container =>
    obtain rfl | rfl | rfl := status_of_changeOf? hchange
    · rfl
    · rfl
    · rfl

/-- What an announced change carries: the number that the attribute of the exit code is a numeral of, if it fits
eight bytes; all other attributes that are labels; and the time of the message, in the field of the change.  The
rest is as by default, and what counts for none of this makes no difference. -/
theorem payload {m : Engine.Message} {e : ChangeEvent} (h : ofMessage? m = some e) :
    (∀ n, e.metadata.exitCode = some n ↔ ∃ code, m.attributes.get? "exitCode" = some code ∧
      Numeral.Signed code.toList n ∧ Numeral.int64Min ≤ n ∧ n ≤ Numeral.int64Max) ∧
    (∀ n, m.attributes.get? "exitCode" = some (integerText n) → Numeral.int64Min ≤ n →
      n ≤ Numeral.int64Max → e.metadata.exitCode = some n) ∧
    (∀ code, m.attributes.get? "exitCode" = some code →
      -- empty or a sign alone, with a blank, or out of range
      ((∀ c ∈ code.toList, ¬ c.isDigit) ∨ (∃ c ∈ code.toList, ¬ (c.isDigit ∨ c = '+' ∨ c = '-')) ∨
        ∃ n, Numeral.Signed code.toList n ∧ ¬ (Numeral.int64Min ≤ n ∧ n ≤ Numeral.int64Max)) →
      e.metadata.exitCode = none) ∧
    (∀ key, e.metadata.labels.get? key =
      if key ∈ ["exitCode", "image", "name", "signal"] then none else m.attributes.get? key) ∧
    e.recordedAt? = occurredAt? m ∧
    e.metadata =
      { dockerId := e.metadata.dockerId
        exitCode := e.metadata.exitCode
        labels := e.metadata.labels
        createdAt := if e.type = .container ∧ e.status = .created then e.recordedAt? else none
        startedAt := if e.type = .container ∧ e.status = .running then e.recordedAt? else none
        finishedAt := if e.type = .container ∧ e.status = .stopped then e.recordedAt? else none
        health :=
          if e.type = .health then { status := e.metadata.health.status, since := e.recordedAt? } else {} } ∧
    e.metadata.isAuthoritative ∧
    (∀ n : Engine.Message, n.kind = m.kind → n.action = m.action →
      n.actor.bind Engine.Actor.id = m.actor.bind Engine.Actor.id → n.time = m.time →
      n.timeNano = m.timeNano →
      (∀ key ∉ ["image", "name", "signal"], n.attributes.get? key = m.attributes.get? key) →
      ofMessage? n = some e) := by
  have htime := recordedAt?_of_ofMessage? h
  obtain ⟨actor, dockerId, action, status, type, hkind, hactor, hid, haction, hchange, rfl⟩ :=
    ofMessage?_eq_some_iff.1 h
  have hcode := metadata_exitCode dockerId action m.attributes status type (occurredAt? m)
  refine ⟨fun n => ?_, fun n htext hmin hmax => ?_, fun code hget hnone => ?_, fun key => ?_, htime, ?_, ?_, ?_⟩
  · rw [hcode]
    exact exitCode?_eq_some_iff
  · rw [hcode]
    exact exitCode?_of_integerText htext hmin hmax
  · rw [hcode]
    exact exitCode?_eq_none hget hnone
  · rw [metadata_eq]
    exact get?_labels m.attributes key
  · rw [htime, metadata_eq]
    cases type with
    | health => rfl
    | container => rfl
  · exact isAuthoritative_of_ofMessage? h
  · intro n hk ha hi ht hnano hattributes
    rw [hactor, Option.bind_some, hid] at hi
    obtain ⟨actor', hactor', hid'⟩ := Option.bind_eq_some_iff.1 hi
    obtain ⟨hsameCode, hsameLabels⟩ := exitCode?_labels_congr hattributes
    have hsameTime : occurredAt? n = occurredAt? m := by rw [occurredAt?, occurredAt?, ht, hnano]
    refine ofMessage?_eq_some_iff.2 ⟨actor', dockerId, action, status, type, hk.trans hkind, hactor', hid',
      ha.trans haction, hchange, ?_⟩
    rw [metadata_eq, metadata_eq, hsameCode, hsameLabels, hsameTime]

/-- The attributes of a container with an exit code, a label and a name. -/
def attributesExample (code name : String) : Dictionary :=
  ((Dictionary.empty.insert "exitCode" code).insert "team" "a").insert "name" name

/-- A message that the container `abc` has died. -/
def payloadExample (code name : String) (scope : Option Engine.Scope) : Engine.Message where
  kind := some .container
  action := some "die"
  actor := some ⟨some "abc", some (attributesExample code name)⟩
  scope := scope
  time := some 7
  timeNano := none

/-- The least exit code counts and one with a blank before it does not, the label stands alone, and neither the
name nor the scope makes a difference. -/
theorem payload_payloadExample :
    (∃ e, ofMessage? (payloadExample "-9223372036854775808" "web" none) = some e ∧
      e.metadata.exitCode = some (-9223372036854775808) ∧ e.metadata.labels.get? "team" = some "a" ∧
      e.metadata.labels.get? "name" = none ∧
      ofMessage? (payloadExample "-9223372036854775808" "db" (some .swarm)) = some e) ∧
    ∃ e, ofMessage? (payloadExample " 5" "web" none) = some e ∧ e.metadata.exitCode = none := by
  refine ⟨⟨_, rfl, ?_⟩, ⟨_, rfl, ?_⟩⟩
  · obtain ⟨-, hcode, -, hlabels, -, -, -, hsame⟩ :=
      payload (m := payloadExample "-9223372036854775808" "web" none) rfl
    refine ⟨hcode _ rfl (by decide) (by decide), hlabels "team", hlabels "name", ?_⟩
    refine hsame (payloadExample "-9223372036854775808" "db" (some .swarm)) rfl rfl rfl rfl rfl fun key hkey => ?_
    have hname : key ≠ "name" := by
      rintro rfl
      exact hkey (by decide)
    exact ((Dictionary.get?_insert _ "name" _ key).trans (if_neg hname)).trans
      ((Dictionary.get?_insert _ "name" _ key).trans (if_neg hname)).symm
  · obtain ⟨-, -, hnone, -⟩ := payload (m := payloadExample " 5" "web" none) rfl
    exact hnone " 5" rfl (Or.inr (Or.inl ⟨' ', by decide, by decide⟩))

/-! ## The time of a change -/

/-- A message with other times announces the same change at another time.  So a message is never refused for its
times, and what else it announces does not depend on them. -/
theorem exists_ofMessage?_timed {m : Engine.Message} {e : ChangeEvent} (h : ofMessage? m = some e)
    (time timeNano : Option Int) :
    ∃ e', ofMessage? { m with time, timeNano } = some e' ∧
      e'.recordedAt? = occurredAt? { m with time, timeNano } ∧ e'.status = e.status ∧ e'.type = e.type ∧
      e'.metadata.dockerId = e.metadata.dockerId ∧ e'.metadata.labels = e.metadata.labels ∧
      e'.metadata.exitCode = e.metadata.exitCode := by
  obtain ⟨actor, dockerId, action, status, type, hkind, hactor, hid, haction, hchange, rfl⟩ :=
    ofMessage?_eq_some_iff.1 h
  have htimed : ofMessage? { m with time, timeNano } = some ⟨status, Announcement.metadata dockerId action
      m.attributes status type (occurredAt? { m with time, timeNano }), type⟩ :=
    ofMessage?_eq_some_iff.2
      ⟨actor, dockerId, action, status, type, hkind, hactor, hid, haction, hchange, rfl⟩
  refine ⟨_, htimed, recordedAt?_of_ofMessage? htimed, rfl, rfl, ?_⟩
  rw [metadata_eq, metadata_eq]
  exact ⟨rfl, rfl, rfl⟩

/-- The time that an announced change records is exact: the nanoseconds of the message if it has them, else its
seconds if the calendar is kept for them, else none; and nothing but this depends on the times of the message. -/
theorem recorded {m : Engine.Message} {e : ChangeEvent} (h : ofMessage? m = some e) :
    (∀ n, m.timeNano = some n → ∃ t, e.recordedAt? = some t ∧
      t.seconds * 1000000000 + t.nanos = n ∧ t.nanos < 1000000000) ∧
    (∀ s, m.timeNano = none → m.time = some s →
      (-8334601228800 ≤ s ∧ s ≤ 8210266876799 →
        ∃ t, e.recordedAt? = some t ∧ t.seconds = s ∧ t.nanos = 0) ∧
      (¬ (-8334601228800 ≤ s ∧ s ≤ 8210266876799) → e.recordedAt? = none)) ∧
    (m.timeNano = none → m.time = none → e.recordedAt? = none) ∧
    -- with any other time the message announces the same but for the time
    (∀ time timeNano, ∃ e', ofMessage? { m with time, timeNano } = some e' ∧ e'.status = e.status ∧
      e'.type = e.type ∧ e'.metadata.dockerId = e.metadata.dockerId ∧ e'.metadata.labels = e.metadata.labels ∧
      e'.metadata.exitCode = e.metadata.exitCode) ∧
    -- nanoseconds and the seconds that they make record the same second
    (∀ s k : Int, 0 ≤ k → k < 1000000000 → Numeral.int64Min ≤ s * 1000000000 + k →
      s * 1000000000 + k ≤ Numeral.int64Max → ∀ time, ∃ e₁ e₂ t₁ t₂,
      ofMessage? { m with time, timeNano := some (s * 1000000000 + k) } = some e₁ ∧
      ofMessage? { m with time := some s, timeNano := none } = some e₂ ∧
      e₁.recordedAt? = some t₁ ∧ e₂.recordedAt? = some t₂ ∧ t₁.seconds = s ∧ t₂.seconds = s) := by
  have hrecorded := recordedAt?_of_ofMessage? h
  refine ⟨fun n hnano => ?_, fun s hnano htime => ⟨fun hrange => ?_, fun hrange => ?_⟩, fun hnano htime => ?_,
    fun time timeNano => ?_, fun s k h0 hk hmin hmax time => ?_⟩
  · refine ⟨Instant.ofNanos n, ?_, Instant.toNanos_ofNanos n, Instant.nanos_ofNanos_lt n⟩
    rw [hrecorded, occurredAt?_of_timeNano hnano]
  · refine ⟨Instant.ofSeconds s, ?_, rfl, rfl⟩
    rw [hrecorded, occurredAt?_of_time hnano htime, Instant.ofSeconds?_eq_some_iff]
    exact ⟨hrange, rfl⟩
  · rw [hrecorded, occurredAt?_of_time hnano htime, Option.eq_none_iff_forall_ne_some]
    intro t ht
    exact hrange (Instant.ofSeconds?_eq_some_iff.1 ht).1
  · rw [hrecorded, occurredAt?, hnano, htime]
    rfl
  · obtain ⟨e', htimed, -, hsame⟩ := exists_ofMessage?_timed h time timeNano
    exact ⟨e', htimed, hsame⟩
  · -- a second whose nanoseconds fit eight bytes is far inside the calendar
    have hrange : Instant.earliest ≤ s ∧ s ≤ Instant.latest := by
      simp only [Numeral.int64Min, Numeral.int64Max] at hmin hmax
      simp only [Instant.earliest, Instant.latest]
      omega
    obtain ⟨e₁, htimed₁, hrecorded₁, -⟩ := exists_ofMessage?_timed h time (some (s * 1000000000 + k))
    obtain ⟨e₂, htimed₂, hrecorded₂, -⟩ := exists_ofMessage?_timed h (some s) none
    rw [occurredAt?_of_timeNano rfl] at hrecorded₁
    rw [occurredAt?_of_time rfl rfl, Instant.ofSeconds?_eq_some_iff.2 ⟨hrange, rfl⟩] at hrecorded₂
    refine ⟨e₁, e₂, _, _, htimed₁, htimed₂, hrecorded₁, hrecorded₂, ?_, rfl⟩
    rw [Instant.seconds_ofNanos]
    omega

/-- A message that the container `abc` has started. -/
def timedExample (time timeNano : Option Int) : Engine.Message where
  kind := some .container
  action := some "start"
  actor := some ⟨some "abc", none⟩
  scope := none
  time := time
  timeNano := timeNano

/-- One nanosecond before the origin is in the last second before it, whatever the seconds say; and the change
has no time when there are seconds only and they are past the end of the calendar. -/
theorem recorded_timedExample :
    (∃ e t, ofMessage? (timedExample (some 8210266876800) (some (-1))) = some e ∧ e.recordedAt? = some t ∧
      t.seconds = -1 ∧ t.nanos = 999999999) ∧
    (∃ e, ofMessage? (timedExample (some 8210266876800) none) = some e ∧ e.recordedAt? = none) ∧
    ∃ e t, ofMessage? (timedExample (some (-1)) none) = some e ∧ e.recordedAt? = some t ∧ t.seconds = -1 := by
  refine ⟨?_, ⟨_, rfl, ?_⟩, ?_⟩
  · obtain ⟨t, ht, htotal, hlt⟩ :=
      (recorded (m := timedExample (some 8210266876800) (some (-1))) rfl).1 (-1) rfl
    exact ⟨_, t, rfl, ht, by omega, by omega⟩
  · exact ((recorded (m := timedExample (some 8210266876800) none) rfl).2.1 _ rfl rfl).2 (by decide)
  · obtain ⟨-, -, -, -, hsame⟩ := recorded (m := timedExample none none) rfl
    obtain ⟨-, e, -, t, -, hmessage, -, ht, -, hseconds⟩ :=
      hsame (-1) 999999999 (by decide) (by decide) (by decide) (by decide) none
    exact ⟨e, t, hmessage, ht, hseconds⟩

end ChangeEvent

end ContainerWatch
