import ContainerWatch.Watcher.Machine
/-!
# Schedules of the watcher and its receiver

The watcher, the stream that it reads and the receiver of its channel take turns in any order.  A schedule
is a list of moves (`Move`), each made by one of the three, and a run makes them one after another on a
watcher together with what its receiver has received so far (`Exchange`).  A move that cannot be made ends
the run without a result.

The other modules on the watcher are built on three things that are said here once.

* A step of the watcher is one of a list (`Watcher.Step`), so no later proof opens the code of a step:
  `Watcher.step_of_advance` takes a step that was made to its place in the list, and `Watcher.advance_of_step`
  makes a step of the list.
* What every move keeps is kept by a run (`Exchange.invariant_of_run`): each safety statement is its own
  invariant and one lemma on moves.
* Draining a watcher is a schedule too (`Exchange.exists_run_drain`), so what holds of all schedules holds of the
  way in which the program runs its watcher.

Main statements: `Watcher.step_of_advance`, `Exchange.taken_append_upcoming_of_run`, the readings that a run has
supplied are those that the watcher has taken and those that it has not, and `Exchange.exists_run_drain`.
-/

namespace ContainerWatch

/-- The receiver takes the oldest item in the channel, or it finds none and leaves the channel as it is.  What it
finds in place of an item depends on how far the receiver and the sender are, but the channel does not. -/
theorem Channel.receive_cases {α : Type} (c : Channel α) (active : Bool) :
    (∃ a rest, c.buffered = a :: rest ∧
      c.receive active = ({ c with buffered := rest, offer := c.grant }, .item a)) ∨
    (c.receiver = .dropped ∨ c.buffered = []) ∧
      ∃ found, c.receive active = (c, found) ∧ ∀ a, found ≠ .item a := by
  obtain ⟨capacity, buffered, offer, receiver⟩ := c
  cases receiver with
  | dropped =>
    refine Or.inr ⟨Or.inl rfl, .dropped, rfl, fun a hitem => ?_⟩
    cases hitem
  | listening =>
    cases buffered with
    | cons a rest => exact Or.inl ⟨a, rest, rfl, rfl⟩
    | nil =>
      refine Or.inr ⟨Or.inr rfl, _, rfl, fun a hitem => ?_⟩
      split at hitem
      · cases hitem
      · cases hitem
  | closed =>
    cases buffered with
    | cons a rest => exact Or.inl ⟨a, rest, rfl, rfl⟩
    | nil =>
      refine Or.inr ⟨Or.inr rfl, _, rfl, fun a hitem => ?_⟩
      split at hitem
      · cases hitem
      · cases hitem

/-- Closing is for good: whatever the receiver was, it does not listen afterwards. -/
theorem Channel.receiver_close_ne {α : Type} (c : Channel α) : c.close.receiver ≠ .listening := by
  rw [close]
  intro h
  split at h
  · cases h
  · cases h

/-- In an empty channel there is room for an item that is offered. -/
theorem Channel.room_of_empty {α : Type} (c : Channel α) {o : Offer α} (hcapacity : 1 ≤ c.capacity)
    (hoffer : c.offer = some o) (hempty : c.buffered = []) : o.ticket = .admitted ∨ c.hasRoom = true := by
  obtain ⟨item, ticket⟩ := o
  cases ticket with
  | admitted => exact Or.inl rfl
  | fresh | queued =>
    refine Or.inr (decide_eq_true ?_)
    -- no place is kept for an item that was not admitted, so all places are free
    rw [hempty, reserved, hoffer]
    exact hcapacity

namespace Watcher

/-- All that a step of the watcher can do, with what must hold for it and the state that it leaves.  Six cases are all
there are; the two that stop the watcher are `refuse` and `finish`. -/
inductive Step (w : Watcher) : Watcher → Prop
  /-- it opens the stream -/
  | start (hphase : w.phase = .ready) : Step w { w with phase := .running }
  /-- it moves the change that it has offered into the channel -/
  | send {o : Offer ChangeEvent} (hphase : w.phase = .running) (hoffer : w.channel.offer = some o)
      (hreceiver : w.channel.receiver = .listening)
      (hroom : o.ticket = .admitted ∨ w.channel.hasRoom = true) :
      Step w { w with
        channel := { w.channel with buffered := w.channel.buffered ++ [o.item], offer := none } }
  /-- the change is refused and it stops -/
  | refuse {o : Offer ChangeEvent} (hphase : w.phase = .running) (hoffer : w.channel.offer = some o)
      (hreceiver : w.channel.receiver ≠ .listening) :
      Step w (stop { w with channel := { w.channel with offer := none } } .receiverClosed)
  /-- it starts to wait for room -/
  | wait {o : Offer ChangeEvent} (hphase : w.phase = .running) (hoffer : w.channel.offer = some o)
      (hreceiver : w.channel.receiver = .listening) (hticket : o.ticket = .fresh)
      (hroom : w.channel.hasRoom = false) :
      Step w { w with channel := { w.channel with offer := some { o with ticket := .queued } } }
  /-- it takes the next reading -/
  | take {r : Reading} {rest : List Reading} (hphase : w.phase = .running)
      (hoffer : w.channel.offer = none) (hupcoming : w.upcoming = r :: rest) : Step w (w.take r rest)
  /-- it finds the stream at its end and stops -/
  | finish (hphase : w.phase = .running) (hoffer : w.channel.offer = none) (hupcoming : w.upcoming = [])
      (hended : w.ended = true) : Step w (w.stop .streamEnded)

/-- Inversion of a step with a change on offer: it is sent, refused, or begins to wait.  A change that waits already
makes no step, which is why `wait` asks for a fresh ticket. -/
theorem step_of_send {w v : Watcher} {o : Offer ChangeEvent} (hphase : w.phase = .running)
    (hoffer : w.channel.offer = some o) (h : w.send? o = some v) : w.Step v := by
  unfold send? Channel.settle at h
  by_cases hreceiver : w.channel.receiver = .listening
  · rw [if_neg (not_not_intro hreceiver)] at h
    by_cases hroom : o.ticket = .admitted ∨ w.channel.hasRoom = true
    · rw [if_pos hroom] at h
      cases h
      exact .send hphase hoffer hreceiver hroom
    · rw [if_neg hroom] at h
      simp only at h
      split at h
      · rename_i hticket
        cases h
        exact .wait hphase hoffer hreceiver hticket (Bool.eq_false_iff.2 (not_or.1 hroom).2)
      · cases h
  · rw [if_pos hreceiver] at h
    cases h
    exact .refuse hphase hoffer hreceiver

/-- Inversion of a step of the watcher: what was made is on the list.  The cases are those of the code, the phase
first, then the offer, then the stream. -/
theorem step_of_advance {w v : Watcher} (h : w.advance? = some v) : w.Step v := by
  unfold advance? at h
  cases hphase : w.phase with
  | stopped =>
    rw [hphase] at h
    cases h
  | ready =>
    rw [hphase] at h
    cases h
    exact .start hphase
  | running =>
    rw [hphase] at h
    cases hoffer : w.channel.offer with
    | some o =>
      rw [hoffer] at h
      exact step_of_send hphase hoffer h
    | none =>
      rw [hoffer] at h
      cases hupcoming : w.upcoming with
      | cons r rest =>
        rw [hupcoming] at h
        cases h
        exact .take hphase hoffer hupcoming
      | nil =>
        rw [hupcoming] at h
        simp only at h
        split at h
        · rename_i hended
          cases h
          exact .finish hphase hoffer hupcoming hended
        · cases h

/-- The watcher can make every step that is listed, and makes that one: a state has one step at most. -/
theorem advance_of_step {w v : Watcher} (h : w.Step v) : w.advance? = some v := by
  cases h with
  | start hphase => simp [advance?, hphase]
  | send hphase hoffer hreceiver hroom =>
    simp [advance?, send?, Channel.settle, hphase, hoffer, hreceiver, hroom]
  | refuse hphase hoffer hreceiver => simp [advance?, send?, Channel.settle, hphase, hoffer, hreceiver]
  | wait hphase hoffer hreceiver hticket hroom =>
    simp [advance?, send?, Channel.settle, hphase, hoffer, hreceiver, hticket, hroom]
  | take hphase hoffer hupcoming => simp [advance?, hphase, hoffer, hupcoming]
  | finish hphase hoffer hupcoming hended => simp [advance?, hphase, hoffer, hupcoming, hended]

/-- A watcher that could make a step of the list does not wait. -/
theorem advance?_ne_none {w v : Watcher} (h : w.Step v) : w.advance? ≠ none := by
  rw [advance_of_step h]
  exact Option.some_ne_none v

/-- What the watcher never changes: the room of the channel, its receiver, and whether the stream ends. -/
def frame (w : Watcher) : Nat × Receiver × Bool := (w.channel.capacity, w.channel.receiver, w.ended)

/-- A step of the watcher keeps its frame; only the receiver and the stream change that. -/
theorem frame_of_advance {w v : Watcher} (h : w.advance? = some v) : v.frame = w.frame := by
  cases step_of_advance h with
  | start | send | refuse | wait | finish => rfl
  | take =>
    rw [take]
    split
    · rfl
    · rfl

/-- A receiver that listens takes the oldest change; when there is none it waits, or learns that nothing will
come when the watcher has stopped. -/
theorem receive_of_listening {w : Watcher} (hreceiver : w.channel.receiver = .listening) :
    (∃ e rest, w.channel.buffered = e :: rest ∧
      w.receive = ({ w with
        channel := { w.channel with buffered := rest, offer := w.channel.grant } }, .item e)) ∨
    (w.channel.buffered = [] ∧ w.phase ≠ .stopped ∧ w.receive = (w, .empty)) ∨
    (w.channel.buffered = [] ∧ w.phase = .stopped ∧ w.receive = (w, .disconnected)) := by
  obtain ⟨⟨capacity, buffered, offer, receiver⟩, upcoming, ended, phase, taken, notices⟩ := w
  cases hreceiver
  cases buffered with
  | cons e rest => exact Or.inl ⟨e, rest, rfl, rfl⟩
  | nil =>
    cases phase with
    | stopped => exact Or.inr (Or.inr ⟨rfl, rfl, rfl⟩)
    | ready | running => exact Or.inr (Or.inl ⟨rfl, nofun, rfl⟩)

end Watcher

/-! ## Moves -/

/-- What the watcher, its stream or its receiver does. -/
inductive Move where
  /-- the watcher makes its next step -/
  | advance
  /-- the stream gives a reading, which the watcher has not taken yet -/
  | supply (r : Reading)
  /-- the stream ends -/
  | finish
  /-- the receiver looks for a change -/
  | receive
  /-- the receiver takes no more than what is in the channel -/
  | close
  /-- the receiver goes away -/
  | drop

/-- The watcher makes a step or its receiver looks for a change. -/
def Move.IsInner (m : Move) : Prop := m = .advance ∨ m = .receive

/-- A watcher with the changes that its receiver has received, the oldest first. -/
structure Exchange where
  watcher : Watcher
  received : List ChangeEvent := []

namespace Exchange

/-- The receiver looks for a change and keeps the one that it finds. -/
def receive (x : Exchange) : Exchange :=
  match x.watcher.receive with
  | (w, .item e) => ⟨w, x.received ++ [e]⟩
  | (w, _) => { x with watcher := w }

/-- A move, none when it cannot be made.  A stream that has ended gives nothing more. -/
def step? (x : Exchange) : Move → Option Exchange
  | .advance => x.watcher.advance?.map fun w => { x with watcher := w }
  | .supply r =>
    if x.watcher.ended then none
    else some { x with watcher := { x.watcher with upcoming := x.watcher.upcoming ++ [r] } }
  | .finish => some { x with watcher := { x.watcher with ended := true } }
  | .receive => some x.receive
  | .close => some { x with watcher := { x.watcher with channel := x.watcher.channel.close } }
  | .drop => some { x with watcher := { x.watcher with channel := x.watcher.channel.drop } }

/-- The moves of a schedule one after another. -/
def run? (x : Exchange) : List Move → Option Exchange
  | [] => some x
  | m :: moves => (x.step? m).bind fun y => y.run? moves

/-- A watcher of a stream that has not begun, with a new channel. -/
def start (capacity : Nat) : Exchange := ⟨{ channel := { capacity } }, []⟩

/-- The readings that the stream gives in a schedule. -/
def supplied (moves : List Move) : List Reading :=
  moves.filterMap fun
    | .supply r => some r
    | _ => none

/-! ## What a move does -/

/-- The receiver keeps the oldest change in the channel, or it finds none and all stays as it is. -/
theorem receive_cases (x : Exchange) :
    (∃ e rest, x.watcher.channel.buffered = e :: rest ∧
      x.receive = ⟨{ x.watcher with
        channel := { x.watcher.channel with buffered := rest, offer := x.watcher.channel.grant } },
        x.received ++ [e]⟩) ∨ x.receive = x := by
  obtain ⟨w, received⟩ := x
  obtain ⟨e, rest, hbuffered, hreceive⟩ | ⟨_, found, hreceive, hfound⟩ :=
    w.channel.receive_cases w.isActive
  · refine Or.inl ⟨e, rest, hbuffered, ?_⟩
    simp only [receive, Watcher.receive, hreceive]
  · refine Or.inr ?_
    simp only [receive, Watcher.receive, hreceive]

/-- The receiver changes it no more than the watcher. -/
theorem frame_receive (x : Exchange) : x.receive.watcher.frame = x.watcher.frame := by
  obtain ⟨e, rest, _, hreceive⟩ | hreceive := x.receive_cases
  · rw [hreceive]
    rfl
  · rw [hreceive]

/-- Neither the watcher nor its receiver changes the frame by looking: only closing, dropping and the end of the
stream do. -/
theorem frame_of_step {x y : Exchange} {m : Move} (hm : m.IsInner) (h : x.step? m = some y) :
    y.watcher.frame = x.watcher.frame := by
  obtain rfl | rfl := hm
  · obtain ⟨w, hw, rfl⟩ := Option.map_eq_some_iff.1 h
    exact Watcher.frame_of_advance hw
  · cases h
    exact x.frame_receive

/-- The readings of a schedule are those of its first move and those of the rest. -/
theorem supplied_cons (m : Move) (moves : List Move) :
    supplied (m :: moves) = supplied [m] ++ supplied moves := by
  rw [supplied, supplied, supplied, ← List.filterMap_append]
  rfl

/-- What the stream has given is what the watcher has taken and what it has not. -/
theorem taken_append_upcoming_of_step {x y : Exchange} {m : Move} (h : x.step? m = some y) :
    y.watcher.taken ++ y.watcher.upcoming = x.watcher.taken ++ x.watcher.upcoming ++ supplied [m] := by
  cases m with
  | advance =>
    obtain ⟨w, hw, rfl⟩ := Option.map_eq_some_iff.1 h
    rw [supplied, List.filterMap_cons_none rfl, List.filterMap_nil, List.append_nil]
    -- the only step that moves a reading takes it off the front of what is left
    cases Watcher.step_of_advance hw with
    | take _ _ hupcoming => rw [hupcoming, Watcher.take, List.append_assoc, List.singleton_append]
    | start | send | refuse | wait | finish => rfl
  | supply r =>
    obtain ⟨_, rfl⟩ := (Option.ite_none_left_eq_some.1 h).imp_right Option.some.inj
    exact (List.append_assoc _ _ _).symm
  | receive =>
    cases h
    rw [supplied, List.filterMap_cons_none rfl, List.filterMap_nil, List.append_nil]
    obtain ⟨e, rest, _, hreceive⟩ | hreceive := x.receive_cases
    · rw [hreceive]
    · rw [hreceive]
  | finish | close | drop =>
    cases h
    exact (List.append_nil _).symm

/-! ## Runs -/

/-- What every move keeps is kept by a run. -/
theorem invariant_of_run {P : Exchange → Prop}
    (hstep : ∀ {x y : Exchange} {m : Move}, P x → x.step? m = some y → P y) {x y : Exchange}
    {moves : List Move} (hx : P x) (h : x.run? moves = some y) : P y := by
  induction moves generalizing x with
  | nil =>
    cases h
    exact hx
  | cons m moves ih =>
    obtain ⟨z, hz, hrun⟩ := Option.bind_eq_some_iff.1 h
    exact ih (hstep hx hz) hrun

/-- The readings that a run has supplied are those that the watcher has taken, followed by those that it
has not. -/
theorem taken_append_upcoming_of_run {x y : Exchange} {moves : List Move} (h : x.run? moves = some y) :
    y.watcher.taken ++ y.watcher.upcoming = x.watcher.taken ++ x.watcher.upcoming ++ supplied moves := by
  induction moves generalizing x with
  | nil =>
    cases h
    exact (List.append_nil _).symm
  | cons m moves ih =>
    obtain ⟨z, hz, hrun⟩ := Option.bind_eq_some_iff.1 h
    rw [ih hrun, taken_append_upcoming_of_step hz, List.append_assoc, ← supplied_cons]

/-- A schedule can be cut anywhere: the second part goes on from where the first one ends. -/
theorem run_append (x : Exchange) (moves more : List Move) :
    x.run? (moves ++ more) = (x.run? moves).bind fun y => y.run? more := by
  induction moves generalizing x with
  | nil => rfl
  | cons m moves ih =>
    rw [List.cons_append, run?, run?, Option.bind_assoc]
    exact congrArg _ (funext fun y => ih y)

/-! ## Running to the end -/

theorem supplied_of_inner {moves : List Move} (h : ∀ m ∈ moves, m.IsInner) : supplied moves = [] := by
  refine List.filterMap_eq_nil_iff.2 fun m hm => ?_
  obtain rfl | rfl := h m hm
  · rfl
  · rfl

/-- So moves of the watcher and its receiver at the end of a schedule leave its readings as they are. -/
theorem supplied_append_of_inner (moves : List Move) {more : List Move} (h : ∀ m ∈ more, m.IsInner) :
    supplied (moves ++ more) = supplied moves := by
  rw [supplied, List.filterMap_append]
  exact (congrArg _ (supplied_of_inner h)).trans (List.append_nil _)

/-- The readings that the stream gives wait behind those that it has given. -/
theorem run_stream (c : Channel ChangeEvent) (given readings : List Reading) :
    (⟨{ channel := c, upcoming := given }, []⟩ : Exchange).run? (readings.map .supply ++ [.finish]) =
      some ⟨{ channel := c, upcoming := given ++ readings, ended := true }, []⟩ := by
  induction readings generalizing given with
  | nil =>
    rw [List.append_nil]
    rfl
  | cons r readings ih =>
    rw [List.append_cons given]
    exact ih (given ++ [r])

/-- The schedule of a stream that is there from the start gives the readings of the stream. -/
theorem supplied_stream (readings : List Reading) :
    supplied (readings.map .supply ++ [.finish]) = readings := by
  rw [supplied, List.filterMap_append, List.filterMap_map]
  exact (List.append_nil _).trans List.filterMap_some

/-- A run of the watcher and its receiver alone keeps the frame. -/
theorem frame_of_inner {x y : Exchange} {moves : List Move} (hmoves : ∀ m ∈ moves, m.IsInner)
    (h : x.run? moves = some y) : y.watcher.frame = x.watcher.frame := by
  induction moves generalizing x with
  | nil =>
    cases h
    rfl
  | cons m moves ih =>
    obtain ⟨z, hz, hrun⟩ := Option.bind_eq_some_iff.1 h
    rw [ih (fun n hn => hmoves n (List.mem_cons_of_mem m hn)) hrun]
    exact frame_of_step (hmoves m List.mem_cons_self) hz

/-- Polling is a run of steps.  The induction is that of `poll` itself, which ends because every step leaves less
work. -/
theorem exists_run_poll (w : Watcher) (received : List ChangeEvent) :
    ∃ moves : List Move, (∀ m ∈ moves, m.IsInner) ∧
      (⟨w, received⟩ : Exchange).run? moves = some ⟨w.poll, received⟩ := by
  fun_induction Watcher.poll w with
  | case1 w v hadvance _ ih =>
    obtain ⟨moves, hmoves, hrun⟩ := ih
    refine ⟨.advance :: moves, List.forall_mem_cons.2 ⟨Or.inl rfl, hmoves⟩, ?_⟩
    rw [run?, step?, hadvance]
    exact hrun
  | case2 w _ => exact ⟨[], List.forall_mem_nil _, rfl⟩

/-- Draining the watcher is a schedule of its own and its receiver's moves. -/
theorem exists_run_drain (w : Watcher) (received : List ChangeEvent) :
    ∃ moves : List Move, (∀ m ∈ moves, m.IsInner) ∧
      (⟨w, received⟩ : Exchange).run? moves = some ⟨w.drain.1, received ++ w.drain.2⟩ := by
  fun_induction Watcher.drain w generalizing received with
  | case1 w v event hreceive _ last events hdrain ih =>
    -- the watcher goes on until it waits, and then one change is received
    obtain ⟨polls, hpolls, hpoll⟩ := exists_run_poll w received
    obtain ⟨moves, hmoves, hrun⟩ := ih (received ++ [event])
    refine ⟨polls ++ .receive :: moves,
      List.forall_mem_append.2 ⟨hpolls, List.forall_mem_cons.2 ⟨Or.inr rfl, hmoves⟩⟩, ?_⟩
    rw [run_append, hpoll, Option.bind_some, run?, step?, Option.bind_some, receive, hreceive]
    rw [hdrain, List.append_assoc, List.singleton_append] at hrun
    exact hrun
  -- nothing is received any more; looking for a change is a move all the same
  | case2 w v found hfound hreceive =>
    obtain ⟨polls, hpolls, hpoll⟩ := exists_run_poll w received
    refine ⟨polls ++ [.receive],
      List.forall_mem_append.2 ⟨hpolls, List.forall_mem_singleton.2 (Or.inr rfl)⟩, ?_⟩
    rw [run_append, hpoll, Option.bind_some, run?, step?, Option.bind_some, receive, hreceive, run?,
      List.append_nil]
    split
    · rename_i hitem
      exact absurd (Prod.mk.inj hitem).2 (hfound _)
    · rename_i hother
      rw [← (Prod.mk.inj hother).1]

end Exchange

namespace Watcher

/-- A watcher that was polled waits, or has stopped. -/
theorem advance?_poll (w : Watcher) : w.poll.advance? = none := by
  fun_induction poll w with
  | case1 w v _ _ ih => exact ih
  | case2 w hadvance => exact hadvance

/-- After draining, the watcher can make no step and the receiver finds nothing. -/
theorem still_drain (w : Watcher) :
    w.drain.1.advance? = none ∧
      (w.drain.1.channel.receiver = .dropped ∨ w.drain.1.channel.buffered = []) := by
  fun_induction drain w with
  | case1 w v event hreceive _ last events hdrain ih =>
    rw [hdrain] at ih
    exact ih
  | case2 w v found hfound hreceive =>
    obtain ⟨e, rest, _, hc⟩ | ⟨hempty, other, hc, _⟩ := w.poll.channel.receive_cases w.poll.isActive
    · rw [receive, hc] at hreceive
      exact absurd (Prod.mk.inj hreceive).2.symm (hfound e)
    · rw [receive, hc] at hreceive
      rw [← (Prod.mk.inj hreceive).1]
      exact ⟨w.advance?_poll, hempty⟩

end Watcher

end ContainerWatch
