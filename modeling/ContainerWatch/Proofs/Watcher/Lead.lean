import ContainerWatch.Proofs.Watcher.Delivery
/-!
# The watcher's lead

The watcher runs ahead of its receiver by as many changes as the channel has room for and the one that it
holds.  While the receiver listens the two never wait for each other: a watcher that finds no room leaves
something to receive, and a receiver that finds nothing leaves room.  They wait together for one reason only,
that the stream gives nothing and has not ended.

The bound rests on the places of the channel: those taken and the one kept for a waiting item are no more than there
are (`Channel.Bounded`), which every move keeps.  With it the lead is a matter of counting, by the equation between
what was taken and what was received that `Exchange.Faithful` gives.

Main statement: `Exchange.lead_and_progress`.
-/

namespace ContainerWatch

namespace Channel

variable {α : Type}

/-! ## No more places are taken than there are -/

/-- One item at most waits outside the channel, so one place at most is kept. -/
theorem reserved_le_one (c : Channel α) : c.reserved ≤ 1 := by
  unfold reserved
  split
  · exact Nat.le_refl 1
  · exact Nat.zero_le 1

/-- A channel without an offer, or with one that no place is kept for, is bounded by its buffer. -/
theorem bounded_of_reserved_eq_zero {c : Channel α} (hreserved : c.reserved = 0)
    (hlength : c.buffered.length ≤ c.capacity) : c.Bounded := by
  rw [Bounded, hreserved]
  exact hlength

/-- A bounded channel holds no more items than it has room for. -/
theorem Bounded.length_le {c : Channel α} (h : c.Bounded) : c.buffered.length ≤ c.capacity :=
  Nat.le_trans (Nat.le_add_right _ _) h

/-- The place of an item that is received goes to the waiting one at most. -/
theorem Bounded.receive {c : Channel α} {a : α} {rest : List α} (h : c.Bounded)
    (hbuffered : c.buffered = a :: rest) : Bounded { c with buffered := rest, offer := c.grant } := by
  have hle := reserved_le_one { c with buffered := rest, offer := c.grant }
  have hlength := h.length_le
  rw [hbuffered, List.length_cons] at hlength
  exact Nat.le_trans (Nat.add_le_add_left hle rest.length) hlength

end Channel

namespace Watcher

/-- A step of the watcher takes no place that is not there.  Sending is the one step that takes a place, either a free
one or the one that was kept for the item. -/
theorem bounded_advance {w v : Watcher} (hw : w.channel.Bounded) (h : w.Step v) : v.channel.Bounded := by
  have hlength := hw.length_le
  cases h with
  | start | finish => exact hw
  | @send o hphase hoffer hreceiver hroom =>
    refine Channel.bounded_settle hw hoffer ?_
    rw [Channel.settle, if_neg (not_not_intro hreceiver), if_pos hroom]
  | refuse => exact Channel.bounded_of_reserved_eq_zero rfl hlength
  | wait => exact Channel.bounded_of_reserved_eq_zero rfl hlength
  | @take r rest hphase hoffer hupcoming =>
    -- the item that is offered has no place yet, and without an item the channel is as before
    rw [take]
    split
    · exact Channel.bounded_of_reserved_eq_zero rfl hlength
    · exact hw

/-! ## Getting on -/

/-- The watcher gets on: it opens the stream, takes a reading, finds the stream at its end or moves the change
that it holds into the channel.  Starting to wait for room is no such step. -/
def GetsOn (w v : Watcher) : Prop :=
  (w.phase = .ready ∧ v.phase = .running) ∨
  (∃ r, w.upcoming = r :: v.upcoming ∧ v.taken = w.taken ++ [r]) ∨
  (w.upcoming = [] ∧ w.ended = true ∧ v.phase = .stopped) ∨
  (∃ o, w.channel.offer = some o ∧ v.channel.offer = none ∧
    v.channel.buffered = w.channel.buffered ++ [o.item])

/-- The watcher has nothing to do until the stream gives something or ends. -/
structure Idle (w : Watcher) : Prop where
  running : w.phase = .running
  offer : w.channel.offer = none
  upcoming : w.upcoming = []
  ended : w.ended = false

/-- A watcher with nothing to do waits. -/
theorem Idle.advance?_eq_none {w : Watcher} (h : w.Idle) : w.advance? = none := by
  simp [advance?, h.running, h.offer, h.upcoming, h.ended]

/-- A watcher that has not stopped gets on, or its receiver finds something, or both wait for the stream.  If the
receiver finds nothing the channel is empty, and then there is no step of the watcher that room could hold up. -/
theorem getsOn_or_receives_or_idle {w : Watcher} (hcapacity : 1 ≤ w.channel.capacity)
    (hreceiver : w.channel.receiver = .listening) (hphase : w.phase ≠ .stopped) :
    (∃ v, w.advance? = some v ∧ w.GetsOn v) ∨ (∃ e, w.receive.2 = .item e) ∨
      (w.Idle ∧ w.receive.2 = .empty) := by
  obtain ⟨e, rest, -, hreceive⟩ | ⟨hempty, -, hreceive⟩ | ⟨-, hstopped, -⟩ := receive_of_listening hreceiver
  · exact Or.inr (Or.inl ⟨e, congrArg Prod.snd hreceive⟩)
  · -- the channel is empty, so there is room for the change that the watcher holds
    cases hp : w.phase with
    | stopped => exact absurd hp hphase
    | ready => exact Or.inl ⟨_, advance_of_step (.start hp), Or.inl ⟨hp, rfl⟩⟩
    | running =>
      cases hoffer : w.channel.offer with
      | some o =>
        have hroom := w.channel.room_of_empty hcapacity hoffer hempty
        refine Or.inl ⟨_, advance_of_step (.send hp hoffer hreceiver hroom), ?_⟩
        exact Or.inr (Or.inr (Or.inr ⟨o, hoffer, rfl, rfl⟩))
      | none =>
        cases hupcoming : w.upcoming with
        | cons r rest =>
          refine Or.inl ⟨_, advance_of_step (.take hp hoffer hupcoming), ?_⟩
          exact Or.inr (Or.inl ⟨r, hupcoming, rfl⟩)
        | nil =>
          cases hended : w.ended with
          | true =>
            refine Or.inl ⟨_, advance_of_step (.finish hp hoffer hupcoming hended), ?_⟩
            exact Or.inr (Or.inr (Or.inl ⟨hupcoming, hended, rfl⟩))
          | false =>
            have hidle : w.Idle := ⟨hp, hoffer, hupcoming, hended⟩
            exact Or.inr (Or.inr ⟨hidle, congrArg Prod.snd hreceive⟩)
  · exact absurd hstopped hphase

end Watcher

namespace Exchange

/-! ## Along every schedule -/

/-- No move overfills the channel. -/
theorem bounded_step {x y : Exchange} {m : Move} (hx : x.watcher.channel.Bounded)
    (h : x.step? m = some y) : y.watcher.channel.Bounded := by
  cases m with
  | advance =>
    obtain ⟨w, hw, rfl⟩ := Option.map_eq_some_iff.1 h
    exact Watcher.bounded_advance hx (Watcher.step_of_advance hw)
  | supply r =>
    obtain ⟨_, rfl⟩ := (Option.ite_none_left_eq_some.1 h).imp_right Option.some.inj
    exact hx
  | receive =>
    cases h
    obtain ⟨e, rest, hbuffered, hreceive⟩ | hreceive := x.receive_cases
    · rw [hreceive]
      exact hx.receive hbuffered
    · rw [hreceive]
      exact hx
  | finish | close =>
    cases h
    exact hx
  | drop =>
    cases h
    -- all places but a kept one are free afterwards
    exact Nat.le_trans (Nat.add_le_add_right (Nat.zero_le _) _) hx

/-- So the channel is bounded at any point of any schedule. -/
theorem bounded_of_run {capacity : Nat} {moves : List Move} {x : Exchange}
    (h : (start capacity).run? moves = some x) : x.watcher.channel.Bounded := by
  have hstart : (start capacity).watcher.channel.Bounded := Nat.zero_le capacity
  exact invariant_of_run (P := fun y => y.watcher.channel.Bounded) bounded_step hstart h

/-- The watcher holds one change at most. -/
theorem length_held_le_one (c : Channel ChangeEvent) : c.held.length ≤ 1 := by
  rw [Channel.held, List.length_map]
  exact c.offer.length_toList_le

/-- At any point of any schedule with a receiver that listens, the changes taken are as many as those received
and the room of the channel and one more at most; and while the watcher has not stopped, it gets on, or the
receiver finds something, or both wait because the stream gives nothing and has not ended. -/
theorem lead_and_progress {capacity : Nat} {moves : List Move} {x : Exchange} (hcapacity : 1 ≤ capacity)
    (h : (start capacity).run? moves = some x) (hreceiver : x.watcher.channel.receiver = .listening) :
    x.watcher.channel.buffered.length ≤ capacity ∧
    (changes x.watcher.taken).length ≤ x.received.length + capacity + 1 ∧
    (x.watcher.phase ≠ .stopped →
      (∃ v, x.watcher.advance? = some v ∧ x.watcher.GetsOn v) ∨
      (∃ e, x.watcher.receive.2 = .item e) ∨
      (x.watcher.Idle ∧ x.watcher.advance? = none ∧ x.watcher.receive.2 = .empty)) := by
  have hroom : x.watcher.channel.capacity = capacity := capacity_of_run h
  have hlength := (bounded_of_run h).length_le
  rw [hroom] at hlength
  refine ⟨hlength, ?_, fun hphase => ?_⟩
  -- received, in the channel and held: the three lists together are the changes taken
  · have hheld := length_held_le_one x.watcher.channel
    rw [← (faithful_of_run h).all hreceiver, List.length_append, List.length_append]
    omega
  · obtain hon | hitem | ⟨hidle, hempty⟩ :=
      Watcher.getsOn_or_receives_or_idle (hroom.symm ▸ hcapacity) hreceiver hphase
    · exact Or.inl hon
    · exact Or.inr (Or.inl hitem)
    · exact Or.inr (Or.inr ⟨hidle, hidle.advance?_eq_none, hempty⟩)

/-- A change in a channel with room for one, and a second one that waits. -/
def blockedMoves : List Move :=
  [.advance, .supply (exampleReading "create"), .advance, .advance, .supply (exampleReading "die"), .advance,
    .advance]

theorem isSome_run_blockedMoves : ((start 1).run? blockedMoves).isSome := by decide +kernel

/-- The watcher can be ahead by all that the bound allows; then it waits and the receiver finds something. -/
theorem lead_blockedMoves :
    ∃ x, (start 1).run? blockedMoves = some x ∧ x.watcher.channel.buffered.length ≤ 1 ∧
      (changes x.watcher.taken).length = x.received.length + 1 + 1 ∧ x.watcher.advance? = none ∧
      ∃ e, x.watcher.receive.2 = .item e := by
  have hrun := (Option.some_get isSome_run_blockedMoves).symm
  have hwaits := (by decide +kernel :
    ((start 1).run? blockedMoves).all fun x => x.watcher.advance?.isNone)
  obtain ⟨hlength, -, hprogress⟩ := lead_and_progress (Nat.le_refl 1) hrun (by decide +kernel)
  rw [hrun, Option.all_some, Option.isNone_iff_eq_none] at hwaits
  refine ⟨_, hrun, hlength, by decide +kernel, hwaits, ?_⟩
  obtain ⟨v, hv, -⟩ | hitem | ⟨hidle, -, -⟩ := hprogress (by decide +kernel)
  · rw [hwaits] at hv
    cases hv
  · exact hitem
  · exact absurd hidle.offer (by decide +kernel)

end Exchange

end ContainerWatch
