import ContainerWatch.Proofs.Watcher.Schedule
/-!
# What the receiver gets

The watcher puts each change that it has taken from its stream into the channel, once and in the order of the
stream, whatever the order of the moves.

The invariant that carries this (`Exchange.Faithful`) is an equation between lists: what was received, then what is
in the channel, then the change that the watcher holds, are the changes of the readings taken.  Sending moves the
held change to the end of the channel, receiving moves the front of the channel to the end of what was received, and
taking adds to the end of both sides, so each move keeps the equation by moving a bracket.  A receiver that closes or
goes away makes the watcher drop the change that it holds, so from then on only a beginning of the list is left.

That the stream is delivered whole needs progress as well: at its end a watcher that can do nothing at an empty
channel has stopped (`Exchange.stopped_of_still`).

Main statement: `Exchange.received_of_run`, of every run: while the receiver listens, what it has received,
what is in the channel and what the watcher holds are the changes of the readings that the watcher has taken;
what was received is always the beginning of the changes of the stream, and all of them once the stream has
ended and nothing is left to be done.
-/

namespace ContainerWatch

/-- The changes of containers' states that readings give, in order. -/
def changes (rs : List Reading) : List ChangeEvent := rs.filterMap Reading.change?

theorem changes_append (rs ss : List Reading) : changes (rs ++ ss) = changes rs ++ changes ss :=
  List.filterMap_append

/-- A reading with a change adds it at the end. -/
theorem changes_append_of_some {r : Reading} {e : ChangeEvent} (rs : List Reading) (h : r.change? = some e) :
    changes (rs ++ [r]) = changes rs ++ [e] := by
  rw [changes_append, changes, changes, List.filterMap_cons_some h, List.filterMap_nil]

/-- A reading without a change adds nothing. -/
theorem changes_append_of_none {r : Reading} (rs : List Reading) (h : r.change? = none) :
    changes (rs ++ [r]) = changes rs := by
  rw [changes_append, changes, changes, List.filterMap_cons_none h, List.filterMap_nil, List.append_nil]

/-- The changes of the beginning of a stream are the beginning of its changes. -/
theorem changes_mono {rs ss : List Reading} (h : rs <+: ss) : changes rs <+: changes ss := by
  obtain ⟨rest, rfl⟩ := h
  rw [changes_append]
  exact List.prefix_append _ _

namespace Exchange

/-! ## The invariant -/

/-- Nothing is lost, doubled, moved or made up between the stream and the receiver. -/
structure Faithful (x : Exchange) : Prop where
  /-- what was sent is the beginning of the changes taken -/
  sent : x.received ++ x.watcher.channel.buffered <+: changes x.watcher.taken
  /-- with what the watcher holds it is all of them -/
  all : x.watcher.channel.receiver = .listening →
    x.received ++ x.watcher.channel.buffered ++ x.watcher.channel.held = changes x.watcher.taken
  /-- the watcher stops only at the end of the stream -/
  done : x.watcher.channel.receiver = .listening → x.watcher.phase = .stopped →
    x.watcher.ended = true ∧ x.watcher.upcoming = [] ∧ x.watcher.channel.offer = none

/-- Before the first move there is nothing on either side. -/
theorem faithful_start (capacity : Nat) : (start capacity).Faithful := by
  refine ⟨List.prefix_refl [], fun _ => rfl, fun _ hstopped => ?_⟩
  cases hstopped

/-- A step of the watcher keeps the invariant.  Starting and waiting move nothing; a step that is refused happens only
where the receiver listens no more, and there only what was sent counts. -/
theorem faithful_advance {x : Exchange} {w : Watcher} (hx : x.Faithful) (h : x.watcher.Step w) :
    Faithful { x with watcher := w } := by
  obtain ⟨sent, all, done⟩ := hx
  have hrunning (hphase : x.watcher.phase = .running) : x.watcher.phase ≠ .stopped := by
    rw [hphase]
    decide
  cases h with
  | start hphase =>
    refine ⟨sent, all, fun _ hstopped => ?_⟩
    cases hstopped
  | @send o hphase hoffer hreceiver hroom =>
    -- the held change becomes the last one of the channel
    have hmoved : x.received ++ (x.watcher.channel.buffered ++ [o.item]) = changes x.watcher.taken := by
      rw [← all hreceiver, Channel.held, hoffer, List.append_assoc]
      rfl
    refine ⟨⟨[], (List.append_nil _).trans hmoved⟩, fun _ => ?_, fun _ hstopped => ?_⟩
    · exact (List.append_nil _).trans hmoved
    · exact absurd hstopped (hrunning hphase)
  | refuse hphase hoffer hreceiver =>
    -- the held change is lost, but to a receiver that does not listen
    exact ⟨sent, fun h => absurd h hreceiver, fun h => absurd h hreceiver⟩
  | wait hphase hoffer hreceiver hticket hroom =>
    -- the change is still held, with another ticket
    refine ⟨sent, fun h => ?_, fun _ hstopped => absurd hstopped (hrunning hphase)⟩
    rw [← all h, Channel.held, Channel.held, hoffer]
    rfl
  | @take r rest hphase hoffer hupcoming =>
    cases hchange : r.change? with
    | none =>
      rw [Watcher.take, hchange]
      refine ⟨?_, ?_, fun _ hstopped => absurd hstopped (hrunning hphase)⟩
      · rw [changes_append_of_none _ hchange]
        exact sent
      · rw [changes_append_of_none _ hchange]
        exact all
    | some e =>
      rw [Watcher.take, hchange]
      refine ⟨?_, fun hreceiver => ?_, fun _ hstopped => absurd hstopped (hrunning hphase)⟩
      · rw [changes_append_of_some _ hchange]
        exact sent.trans (List.prefix_append _ _)
      · -- the watcher held nothing before
        have hall := all hreceiver
        rw [Channel.held, hoffer] at hall
        rw [changes_append_of_some _ hchange, ← hall]
        exact congrArg (· ++ [e]) (List.append_nil _).symm
  | finish hphase hoffer hupcoming hended => exact ⟨sent, all, fun _ _ => ⟨hended, hupcoming, hoffer⟩⟩

/-- Every move keeps the invariant. -/
theorem faithful_step {x y : Exchange} {m : Move} (hx : x.Faithful) (h : x.step? m = some y) :
    y.Faithful := by
  cases m with
  | advance =>
    obtain ⟨w, hw, rfl⟩ := Option.map_eq_some_iff.1 h
    exact faithful_advance hx (Watcher.step_of_advance hw)
  | supply r =>
    obtain ⟨hended, rfl⟩ := (Option.ite_none_left_eq_some.1 h).imp_right Option.some.inj
    -- a stream that can still give something has not ended, so its watcher has not stopped
    exact ⟨hx.sent, hx.all, fun hreceiver hstopped => absurd (hx.done hreceiver hstopped).1 hended⟩
  | finish =>
    cases h
    exact ⟨hx.sent, hx.all, fun hreceiver hstopped => ⟨rfl, (hx.done hreceiver hstopped).2⟩⟩
  | receive =>
    cases h
    obtain ⟨e, rest, hbuffered, hreceive⟩ | hreceive := x.receive_cases
    · obtain ⟨sent, all, done⟩ := hx
      -- the front of the channel becomes the last change received
      rw [hbuffered, List.append_cons] at sent all
      rw [hreceive]
      refine ⟨sent, fun hreceiver => ?_, fun hreceiver hstopped => ?_⟩
      · rw [← all hreceiver]
        exact congrArg (x.received ++ [e] ++ rest ++ ·) (Channel.held_grant x.watcher.channel)
      · obtain ⟨hended, hupcoming, hoffer⟩ := done hreceiver hstopped
        refine ⟨hended, hupcoming, ?_⟩
        rw [Channel.grant, hoffer, Option.map_none]
    · rw [hreceive]
      exact hx
  | close =>
    cases h
    have hclosed := x.watcher.channel.receiver_close_ne
    exact ⟨hx.sent, fun h => absurd h hclosed, fun h => absurd h hclosed⟩
  | drop =>
    cases h
    have hdropped : x.watcher.channel.drop.receiver ≠ .listening := by
      intro h
      cases h
    -- what was in the channel is lost, and what was received is still a beginning
    refine ⟨?_, fun h => absurd h hdropped, fun h => absurd h hdropped⟩
    rw [Channel.drop, List.append_nil]
    exact (List.prefix_append _ _).trans hx.sent

/-- So the invariant holds at any point of any schedule. -/
theorem faithful_of_run {capacity : Nat} {moves : List Move} {x : Exchange}
    (h : (start capacity).run? moves = some x) : x.Faithful :=
  invariant_of_run faithful_step (faithful_start capacity) h

/-- What was received is the beginning of the changes that the stream has given. -/
theorem received_prefix_of_run {capacity : Nat} {moves : List Move} {x : Exchange}
    (h : (start capacity).run? moves = some x) : x.received <+: changes (supplied moves) := by
  have hsent : x.received <+: changes x.watcher.taken :=
    (List.prefix_append _ _).trans (faithful_of_run h).sent
  have htaken : x.watcher.taken ++ x.watcher.upcoming = supplied moves := taken_append_upcoming_of_run h
  exact hsent.trans (changes_mono (htaken ▸ List.prefix_append _ _))

/-! ## Room in the channel -/

/-- No move changes the room of the channel. -/
theorem capacity_of_step {x y : Exchange} {m : Move} (h : x.step? m = some y) :
    y.watcher.channel.capacity = x.watcher.channel.capacity := by
  cases m with
  | advance => exact congrArg Prod.fst (frame_of_step (Or.inl rfl) h)
  | receive => exact congrArg Prod.fst (frame_of_step (Or.inr rfl) h)
  | supply r =>
    obtain ⟨_, rfl⟩ := (Option.ite_none_left_eq_some.1 h).imp_right Option.some.inj
    rfl
  | finish | close | drop =>
    cases h
    rfl

/-- The room of the channel is what it was opened with, for as long as it is there. -/
theorem capacity_of_run {x y : Exchange} {moves : List Move} (h : x.run? moves = some y) :
    y.watcher.channel.capacity = x.watcher.channel.capacity :=
  invariant_of_run (P := fun y => y.watcher.channel.capacity = x.watcher.channel.capacity)
    (fun hx hstep => (capacity_of_step hstep).trans hx) rfl h

/-- A watcher that waits for room waits at a channel that has something in it. -/
theorem offer_eq_none_of_waits {w : Watcher} (hcapacity : 1 ≤ w.channel.capacity)
    (hreceiver : w.channel.receiver = .listening) (hphase : w.phase = .running)
    (hwaits : w.advance? = none) (hempty : w.channel.buffered = []) : w.channel.offer = none := by
  cases hoffer : w.channel.offer with
  | none => rfl
  | some o =>
    have hroom := w.channel.room_of_empty hcapacity hoffer hempty
    exact absurd hwaits (Watcher.advance?_ne_none (.send hphase hoffer hreceiver hroom))

/-! ## The end of the stream -/

/-- At the end of the stream a watcher that can do nothing at an empty channel has stopped. -/
theorem stopped_of_still {w : Watcher} (hcapacity : 1 ≤ w.channel.capacity)
    (hreceiver : w.channel.receiver = .listening) (hended : w.ended = true) (hwaits : w.advance? = none)
    (hempty : w.channel.buffered = []) : w.phase = .stopped := by
  cases hphase : w.phase with
  | stopped => rfl
  | ready => exact absurd hwaits (Watcher.advance?_ne_none (.start hphase))
  | running =>
    -- an offer would find room, a reading would be taken, and the end would be seen
    have hoffer := offer_eq_none_of_waits hcapacity hreceiver hphase hwaits hempty
    cases hupcoming : w.upcoming with
    | nil => exact absurd hwaits (Watcher.advance?_ne_none (.finish hphase hoffer hupcoming hended))
    | cons r rest => exact absurd hwaits (Watcher.advance?_ne_none (.take hphase hoffer hupcoming))

/-- What a watcher that has stopped at an empty channel leaves behind is the whole stream: it stopped at the end, so
it has taken everything, and nothing of it is on its way any more. -/
theorem received_of_stopped {capacity : Nat} {moves : List Move} {x : Exchange}
    (h : (start capacity).run? moves = some x) (hreceiver : x.watcher.channel.receiver = .listening)
    (hphase : x.watcher.phase = .stopped) (hempty : x.watcher.channel.buffered = []) :
    x.watcher.ended = true ∧ x.received = changes (supplied moves) := by
  obtain ⟨_, all, done⟩ := faithful_of_run h
  obtain ⟨hended, hupcoming, hoffer⟩ := done hreceiver hphase
  have htaken : x.watcher.taken = supplied moves := by
    rw [← List.append_nil x.watcher.taken, ← hupcoming]
    exact taken_append_upcoming_of_run h
  refine ⟨hended, ?_⟩
  have hall := all hreceiver
  rw [hempty, Channel.held, hoffer, htaken] at hall
  rw [← hall]
  exact ((List.append_nil _).trans (List.append_nil _)).symm

/-- A stream that has ended is delivered once nothing is left to be done, in whatever order it was done. -/
theorem received_of_still {capacity : Nat} {moves : List Move} {x : Exchange} (hcapacity : 1 ≤ capacity)
    (h : (start capacity).run? moves = some x) (hreceiver : x.watcher.channel.receiver = .listening)
    (hended : x.watcher.ended = true) (hwaits : x.watcher.advance? = none)
    (hempty : x.watcher.channel.buffered = []) : x.received = changes (supplied moves) := by
  have hroom : 1 ≤ x.watcher.channel.capacity := (capacity_of_run h).symm ▸ hcapacity
  exact (received_of_stopped h hreceiver (stopped_of_still hroom hreceiver hended hwaits hempty) hempty).2

/-- A receiver that listens is told that nothing will come only when the watcher has stopped. -/
theorem stopped_of_disconnected {w : Watcher} (hreceiver : w.channel.receiver = .listening)
    (h : w.receive.2 = .disconnected) : w.phase = .stopped ∧ w.channel.buffered = [] := by
  obtain ⟨e, rest, -, hitem⟩ | ⟨-, -, hempty⟩ | ⟨hbuffered, hphase, -⟩ :=
    Watcher.receive_of_listening hreceiver
  · rw [hitem] at h
    cases h
  · rw [hempty] at h
    cases h
  · exact ⟨hphase, hbuffered⟩

/-- Draining after a run makes a longer run, at whose end nothing is left to be done. -/
theorem received_append_drain {capacity : Nat} {moves : List Move} {x : Exchange} (hcapacity : 1 ≤ capacity)
    (h : (start capacity).run? moves = some x) (hreceiver : x.watcher.channel.receiver = .listening)
    (hended : x.watcher.ended = true) : x.received ++ x.watcher.drain.2 = changes (supplied moves) := by
  obtain ⟨more, hinner, hmore⟩ := exists_run_drain x.watcher x.received
  have hrun : (start capacity).run? (moves ++ more) =
      some ⟨x.watcher.drain.1, x.received ++ x.watcher.drain.2⟩ := by
    rw [run_append, h]
    exact hmore
  have hframe := frame_of_inner hinner hmore
  have hlistening : x.watcher.drain.1.channel.receiver = x.watcher.channel.receiver :=
    congrArg (·.2.1) hframe
  have hends : x.watcher.drain.1.ended = x.watcher.ended := congrArg (·.2.2) hframe
  obtain ⟨hwaits, hempty⟩ := x.watcher.still_drain
  have hnotDropped : x.watcher.drain.1.channel.receiver ≠ .dropped := by
    rw [hlistening, hreceiver]
    decide
  -- the longer run has the same stream, so what is known of its end is known of the stream of this one
  rw [← supplied_append_of_inner moves hinner]
  exact received_of_still hcapacity hrun (hlistening.trans hreceiver) (hends.trans hended) hwaits
    (hempty.resolve_left hnotDropped)

/-! ## Delivery -/

/-- What the receiver gets, at any point of any schedule, for any stream that goes on with the readings supplied so
far.  The first three parts are safety and hold at once; the last two say when everything has come. -/
theorem received_of_run {capacity : Nat} {moves : List Move} {x : Exchange} {stream : List Reading}
    (hcapacity : 1 ≤ capacity) (h : (start capacity).run? moves = some x)
    (hstream : supplied moves <+: stream) :
    -- the watcher takes the readings of the stream in order
    x.watcher.taken ++ x.watcher.upcoming = supplied moves ∧
    -- nothing is lost, doubled, moved or made up on the way
    (x.watcher.channel.receiver = .listening →
      x.received ++ x.watcher.channel.buffered ++ x.watcher.channel.held = changes x.watcher.taken) ∧
    x.received <+: changes stream ∧
    -- the receiver is told that nothing will come only when it has everything
    (x.watcher.channel.receiver = .listening → x.watcher.receive.2 = .disconnected →
      x.watcher.ended = true ∧ x.received = changes (supplied moves)) ∧
    -- a stream that has ended is delivered whole, once nothing is left to be done
    (x.watcher.channel.receiver = .listening → x.watcher.ended = true →
      (x.watcher.advance? = none → x.watcher.channel.buffered = [] →
        x.received = changes (supplied moves)) ∧
      x.received ++ x.watcher.drain.2 = changes (supplied moves)) := by
  have htaken : x.watcher.taken ++ x.watcher.upcoming = supplied moves := taken_append_upcoming_of_run h
  have hfaithful := faithful_of_run h
  refine ⟨htaken, hfaithful.all, ?_, fun hreceiver hfound => ?_, fun hreceiver hended => ⟨?_, ?_⟩⟩
  · exact (received_prefix_of_run h).trans (changes_mono hstream)
  · obtain ⟨hphase, hempty⟩ := stopped_of_disconnected hreceiver hfound
    exact received_of_stopped h hreceiver hphase hempty
  · exact received_of_still hcapacity h hreceiver hended
  · exact received_append_drain hcapacity h hreceiver hended

/-- A reading about the container `abc`. -/
def exampleReading (action : String) : Reading :=
  .message ⟨some .container, some action, some ⟨some "abc", none⟩, none, none, some 1000000007⟩

/-- Two changes with a failure and an exec between them, through a channel with room for one. -/
def exampleMoves : List Move :=
  [.advance, .supply (exampleReading "create"), .advance, .advance, .supply (.failure .stream),
    .supply (exampleReading "exec_start: sh"), .supply (exampleReading "die"), .advance, .advance, .advance,
    .advance, .receive, .advance, .finish, .advance, .receive]

theorem isSome_run_exampleMoves : ((start 1).run? exampleMoves).isSome := by decide +kernel

/-- The two changes arrive, and the receiver learns that there are no more. -/
theorem received_exampleMoves :
    ∃ x, (start 1).run? exampleMoves = some x ∧ x.watcher.receive.2 = .disconnected ∧
      x.received.length = 2 ∧ x.received = changes (supplied exampleMoves) := by
  have hrun := (Option.some_get isSome_run_exampleMoves).symm
  obtain ⟨_, _, _, hwhole, _⟩ := received_of_run (Nat.le_refl 1) hrun (List.prefix_refl _)
  refine ⟨_, hrun, by decide +kernel, by decide +kernel, ?_⟩
  exact (hwhole (by decide +kernel) (by decide +kernel)).2

end Exchange

end ContainerWatch
