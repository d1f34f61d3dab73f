import ContainerWatch.Proofs.Watcher.Schedule
/-!
# Where the watcher stops

The watcher stops when a send fails (`Watcher.Refused`) or when the stream is at its end (`Watcher.AtEnd`), with a
line that says which of them it was.  A receiver that listens no more makes the next send fail, so from then on
the watcher takes readings up to the next change at most (`Watcher.reach`), and those before it without exception.

How far the watcher can still come is stated as a list of readings, of those that the stream has given and of those
that it will give.  A step takes from the front of this list what it takes at all, and the rest is what is reached
from then on (`Watcher.exists_reach_of_step`); so along a run the list is used up from the front.  What the receiver
and the stream do between the steps leaves the watcher's side alone (`Watcher.Stays`), but for the readings that wait.

Main statements: `Exchange.exists_reach_of_run` and `Watcher.taken_poll`, what is taken after the receiver has
closed, and `Exchange.meets_of_stopped` and `Exchange.stopped_of_meets`, when the watcher has stopped.
-/

namespace ContainerWatch

/-- Readings up to the first one that gives a change, and with it. -/
def untilChange : List Reading → List Reading
  | [] => []
  | r :: rest => if r.change?.isSome then [r] else r :: untilChange rest

/-- A reading with a change is the last one. -/
theorem untilChange_cons_of_some {r : Reading} {e : ChangeEvent} (h : r.change? = some e) (rest : List Reading) :
    untilChange (r :: rest) = [r] := by
  rw [untilChange, h, Option.isSome_some, if_pos rfl]

/-- A reading without a change is followed by what comes up to the next one. -/
theorem untilChange_cons_of_none {r : Reading} (h : r.change? = none) (rest : List Reading) :
    untilChange (r :: rest) = r :: untilChange rest := by
  rw [untilChange, h, Option.isSome_none, if_neg Bool.false_ne_true]

namespace Watcher

/-! ## Stopping -/

/-- The watcher holds a change and its receiver listens no more, so the next step makes the send fail. -/
structure Refused (w : Watcher) : Prop where
  running : w.phase = .running
  offer : w.channel.offer ≠ none
  receiver : w.channel.receiver ≠ .listening

/-- The watcher has taken all that the stream holds, holds no change and finds the stream at its end. -/
structure AtEnd (w : Watcher) : Prop where
  running : w.phase = .running
  offer : w.channel.offer = none
  upcoming : w.upcoming = []
  ended : w.ended = true

/-- The next step is the last one: it takes nothing and logs one line. -/
def StopsWith (n : Notice) (w : Watcher) : Prop :=
  ∃ v, w.Step v ∧ v.phase = .stopped ∧ v.taken = w.taken ∧ v.notices = w.notices ++ [n]

/-- A send that fails is the last step, and its line says that the receiver has closed. -/
theorem Refused.stopsWith {w : Watcher} (h : w.Refused) : w.StopsWith .receiverClosed := by
  obtain ⟨o, hoffer⟩ := Option.ne_none_iff_exists'.1 h.offer
  exact ⟨_, .refuse h.running hoffer h.receiver, rfl, rfl, rfl⟩

/-- The end of the stream is the last step, and its line says so. -/
theorem AtEnd.stopsWith {w : Watcher} (h : w.AtEnd) : w.StopsWith .streamEnded :=
  ⟨_, .finish h.running h.offer h.upcoming h.ended, rfl, rfl, rfl⟩

/-- The two steps after which the watcher has stopped: every other step leaves it running. -/
theorem refused_or_atEnd {w v : Watcher} (h : w.Step v) (hstopped : v.phase = .stopped) :
    w.Refused ∨ w.AtEnd := by
  cases h with
  | start => cases hstopped
  | send hphase | wait hphase | take hphase => cases hphase.symm.trans hstopped
  | refuse hphase hoffer hreceiver => exact Or.inl ⟨hphase, hoffer ▸ nofun, hreceiver⟩
  | finish hphase hoffer hupcoming hended => exact Or.inr ⟨hphase, hoffer, hupcoming, hended⟩

theorem held_of_none {w : Watcher} (h : w.channel.offer = none) : w.channel.held = [] := by
  rw [Channel.held, h]
  rfl

/-- The change held is the one on offer, whatever its ticket. -/
theorem held_of_some {w : Watcher} {o : Offer ChangeEvent} (h : w.channel.offer = some o) :
    w.channel.held = [o.item] := by
  rw [Channel.held, h]
  rfl

/-- The watcher holds the change that the reading gives, if it gives one. -/
theorem held_take {w : Watcher} (h : w.channel.offer = none) (r : Reading) (rest : List Reading) :
    (w.take r rest).channel.held = r.change?.toList := by
  rw [take]
  cases r.change? with
  | none => exact held_of_none h
  | some e => rfl

/-- A watcher that has stopped makes no step. -/
theorem not_step_of_stopped {w v : Watcher} (hphase : w.phase = .stopped) : ¬ w.Step v := by
  intro h
  have hstuck : w.advance? = none := by rw [advance?, hphase]
  exact advance?_ne_none h hstuck

/-- What neither the stream nor the receiver can change. -/
structure Stays (w v : Watcher) : Prop where
  phase : v.phase = w.phase
  taken : v.taken = w.taken
  notices : v.notices = w.notices
  held : v.channel.held = w.channel.held

theorem Stays.refl (w : Watcher) : w.Stays w := ⟨rfl, rfl, rfl, rfl⟩

theorem Stays.trans {u v w : Watcher} (huv : u.Stays v) (hvw : v.Stays w) : u.Stays w :=
  ⟨hvw.phase.trans huv.phase, hvw.taken.trans huv.taken, hvw.notices.trans huv.notices,
    hvw.held.trans huv.held⟩

/-! ## After the receiver has closed -/

/-- The readings, of those that the stream has given and will give, that the watcher can take when its receiver
listens no more: none with a change to be sent, else those up to the next change. -/
def reach (w : Watcher) (later : List Reading) : List Reading :=
  if w.phase = .stopped ∨ w.channel.held ≠ [] then [] else untilChange (w.upcoming ++ later)

/-- A watcher that has stopped reaches nothing. -/
theorem reach_of_stopped {w : Watcher} (hphase : w.phase = .stopped) (later : List Reading) :
    w.reach later = [] := if_pos (Or.inl hphase)

/-- A watcher with a change to be sent reaches nothing: the next thing that it does is to stop. -/
theorem reach_of_held {w : Watcher} (hheld : w.channel.held ≠ []) (later : List Reading) :
    w.reach later = [] := if_pos (Or.inr hheld)

/-- Otherwise what is reached is what comes up to the next change, which is taken and then refused. -/
theorem reach_of_free {w : Watcher} (hphase : w.phase ≠ .stopped) (hheld : w.channel.held = [])
    (later : List Reading) : w.reach later = untilChange (w.upcoming ++ later) :=
  if_neg (not_or.2 ⟨hphase, not_not_intro hheld⟩)

/-- A step takes what is reached first, and reaches the rest from then on.  The receiver does not listen, so no step
sends and none begins to wait.  Once the stream has ended it gives nothing later, without which the last step would
leave readings behind. -/
theorem exists_reach_of_step {w v : Watcher} {later : List Reading}
    (hreceiver : w.channel.receiver ≠ .listening) (hlater : w.ended = true → later = []) (h : w.Step v) :
    ∃ new, v.taken = w.taken ++ new ∧ w.reach later = new ++ v.reach later := by
  have hactive : w.phase ≠ .stopped := fun hstopped => not_step_of_stopped hstopped h
  cases h with
  | start hphase =>
    refine ⟨[], (List.append_nil _).symm, ?_⟩
    simp only [reach, hphase, reduceCtorEq, List.nil_append]
  | send _ _ hlistening => exact absurd hlistening hreceiver
  | wait _ _ hlistening => exact absurd hlistening hreceiver
  -- a change was held, so nothing was reached, and nothing is after the stop
  | refuse _ hoffer =>
    refine ⟨[], (List.append_nil _).symm, ?_⟩
    rw [reach_of_held, reach_of_stopped]
    · rfl
    · rfl
    · rw [held_of_some hoffer]
      exact List.cons_ne_nil _ _
  | @take r rest _ hoffer hupcoming =>
    refine ⟨[r], rfl, ?_⟩
    rw [reach_of_free hactive (held_of_none hoffer), hupcoming, List.cons_append]
    -- with a change the reading was the last one within reach, and without one the reach goes on behind it
    cases hchange : r.change? with
    | none =>
      rw [untilChange_cons_of_none hchange, reach_of_free (w := w.take r rest) hactive]
      · rfl
      · rw [held_take hoffer, hchange]
        rfl
    | some e =>
      rw [untilChange_cons_of_some hchange, reach_of_held (w := w.take r rest)]
      · rfl
      · rw [held_take hoffer, hchange]
        exact List.cons_ne_nil _ _
  | finish _ hoffer hupcoming hended =>
    refine ⟨[], (List.append_nil _).symm, ?_⟩
    rw [reach_of_free hactive (held_of_none hoffer), hupcoming, hlater hended, reach_of_stopped]
    · rfl
    · rfl

/-- A watcher that waits reaches nothing until the stream gives something. -/
theorem reach_of_waits {w : Watcher} (hwaits : w.advance? = none) : w.reach [] = [] := by
  cases hoffer : w.channel.offer with
  | some o =>
    refine reach_of_held ?_ []
    rw [held_of_some hoffer]
    exact List.cons_ne_nil _ _
  | none =>
    cases hphase : w.phase with
    | stopped => exact reach_of_stopped hphase []
    | ready => exact absurd hwaits (advance?_ne_none (.start hphase))
    | running =>
      cases hupcoming : w.upcoming with
      | cons r rest => exact absurd hwaits (advance?_ne_none (.take hphase hoffer hupcoming))
      | nil =>
        rw [reach_of_free (hphase ▸ nofun) (held_of_none hoffer), hupcoming]
        rfl

/-- A watcher whose receiver listens no more takes all that it reaches when it runs. -/
theorem taken_poll {w : Watcher} (hreceiver : w.channel.receiver ≠ .listening) :
    w.poll.taken = w.taken ++ w.reach [] := by
  fun_induction poll w with
  | case1 w v hadvance _ ih =>
    have hclosed : v.channel.receiver = w.channel.receiver := congrArg (·.2.1) (frame_of_advance hadvance)
    -- nothing comes later while the watcher runs alone
    obtain ⟨new, htaken, hreach⟩ :=
      exists_reach_of_step hreceiver (fun _ => rfl) (step_of_advance hadvance)
    rw [ih (hclosed ▸ hreceiver), htaken, hreach, List.append_assoc]
  | case2 w hwaits =>
    rw [reach_of_waits hwaits, List.append_nil]

end Watcher

namespace Exchange

/-! ## Moves -/

/-- Only the watcher takes readings and writes the log. -/
theorem step_or_stays {x y : Exchange} {m : Move} (h : x.step? m = some y) :
    (m = .advance ∧ x.watcher.Step y.watcher) ∨ x.watcher.Stays y.watcher := by
  cases m with
  | advance =>
    obtain ⟨w, hw, rfl⟩ := Option.map_eq_some_iff.1 h
    exact Or.inl ⟨rfl, Watcher.step_of_advance hw⟩
  | supply r =>
    obtain ⟨_, rfl⟩ := (Option.ite_none_left_eq_some.1 h).imp_right Option.some.inj
    exact Or.inr ⟨rfl, rfl, rfl, rfl⟩
  | receive =>
    cases h
    obtain ⟨e, rest, _, hreceive⟩ | hreceive := x.receive_cases
    · rw [hreceive]
      exact Or.inr ⟨rfl, rfl, rfl, x.watcher.channel.held_grant⟩
    · rw [hreceive]
      exact Or.inr (.refl x.watcher)
  | finish | close | drop =>
    cases h
    exact Or.inr ⟨rfl, rfl, rfl, rfl⟩

/-- A receiver that listens no more never listens again. -/
theorem receiver_ne_of_step {x y : Exchange} {m : Move} (hx : x.watcher.channel.receiver ≠ .listening)
    (h : x.step? m = some y) : y.watcher.channel.receiver ≠ .listening := by
  have hsame (hm : m.IsInner) : y.watcher.channel.receiver = x.watcher.channel.receiver :=
    congrArg (·.2.1) (frame_of_step hm h)
  cases m with
  | advance => exact hsame (Or.inl rfl) ▸ hx
  | receive => exact hsame (Or.inr rfl) ▸ hx
  | supply r =>
    obtain ⟨_, rfl⟩ := (Option.ite_none_left_eq_some.1 h).imp_right Option.some.inj
    exact hx
  | finish =>
    cases h
    exact hx
  | close =>
    cases h
    exact x.watcher.channel.receiver_close_ne
  | drop =>
    cases h
    exact nofun

/-- A move of a stream that has ended supplies nothing, and the stream stays ended. -/
theorem supplied_of_step_of_ended {x y : Exchange} {m : Move} (hx : x.watcher.ended = true)
    (h : x.step? m = some y) : supplied [m] = [] ∧ y.watcher.ended = true := by
  have hsame (hm : m.IsInner) : y.watcher.ended = x.watcher.ended := congrArg (·.2.2) (frame_of_step hm h)
  cases m with
  | advance => exact ⟨rfl, (hsame (Or.inl rfl)).trans hx⟩
  | receive => exact ⟨rfl, (hsame (Or.inr rfl)).trans hx⟩
  | supply r => exact absurd hx (Option.ite_none_left_eq_some.1 h).1
  | finish =>
    cases h
    exact ⟨rfl, rfl⟩
  | close | drop =>
    cases h
    exact ⟨rfl, hx⟩

/-- A stream that has ended gives nothing more. -/
theorem supplied_of_ended {x y : Exchange} {moves : List Move} (hx : x.watcher.ended = true)
    (h : x.run? moves = some y) : supplied moves = [] := by
  induction moves generalizing x with
  | nil => rfl
  | cons m moves ih =>
    obtain ⟨z, hz, hrun⟩ := Option.bind_eq_some_iff.1 h
    obtain ⟨hnone, hended⟩ := supplied_of_step_of_ended hx hz
    rw [supplied_cons, hnone, ih hended hrun]
    rfl

/-! ## Runs -/

/-- What the steps of the watcher keep is kept by a run, when it does not depend on the stream and the receiver. -/
theorem watcher_invariant_of_run {P : Watcher → Prop} (hstep : ∀ {w v : Watcher}, P w → w.Step v → P v)
    (hstays : ∀ {w v : Watcher}, P w → w.Stays v → P v) {x y : Exchange} {moves : List Move}
    (hx : P x.watcher) (h : x.run? moves = some y) : P y.watcher := by
  refine invariant_of_run (P := fun z => P z.watcher) (fun hz hmove => ?_) hx h
  obtain ⟨-, hmade⟩ | hsame := step_or_stays hmove
  · exact hstep hz hmade
  · exact hstays hz hsame

/-- A watcher that has stopped stays as it is. -/
theorem stays_of_stopped {x y : Exchange} {moves : List Move} (hx : x.watcher.phase = .stopped)
    (h : x.run? moves = some y) : x.watcher.Stays y.watcher := by
  refine watcher_invariant_of_run (P := x.watcher.Stays) (fun hw hstep => ?_) .trans (.refl _) h
  -- the watcher would have to make a step after it has stopped
  exact absurd hstep (Watcher.not_step_of_stopped (hw.phase.trans hx))

/-- Once the receiver listens no more, a move takes what the watcher reaches first, and the rest is reached from
then on. -/
theorem exists_reach_of_step {x y : Exchange} {m : Move} {later : List Reading}
    (hreceiver : x.watcher.channel.receiver ≠ .listening) (hlater : y.watcher.ended = true → later = [])
    (h : x.step? m = some y) :
    ∃ new, y.watcher.taken = x.watcher.taken ++ new ∧
      x.watcher.reach (supplied [m] ++ later) = new ++ y.watcher.reach later := by
  obtain ⟨rfl, hstep⟩ | hstays := step_or_stays h
  · have hended : y.watcher.ended = x.watcher.ended := congrArg (·.2.2) (frame_of_step (Or.inl rfl) h)
    exact Watcher.exists_reach_of_step hreceiver (hended ▸ hlater) hstep
  · -- what the stream gives waits behind what it has given
    have hupcoming : y.watcher.upcoming = x.watcher.upcoming ++ supplied [m] := by
      have htaken := taken_append_upcoming_of_step h
      rw [hstays.taken, List.append_assoc] at htaken
      exact List.append_cancel_left htaken
    refine ⟨[], hstays.taken.trans (List.append_nil _).symm, ?_⟩
    rw [Watcher.reach, Watcher.reach, hstays.phase, hstays.held, hupcoming, List.append_assoc]
    rfl

/-- Once the receiver listens no more, a run takes what the watcher reaches first, and the rest is still
reached. -/
theorem exists_reach_of_run {x y : Exchange} {moves : List Move}
    (hreceiver : x.watcher.channel.receiver ≠ .listening) (h : x.run? moves = some y) :
    ∃ new, y.watcher.taken = x.watcher.taken ++ new ∧
      x.watcher.reach (supplied moves) = new ++ y.watcher.reach [] := by
  induction moves generalizing x with
  | nil =>
    cases h
    exact ⟨[], (List.append_nil _).symm, rfl⟩
  | cons m moves ih =>
    obtain ⟨z, hz, hrun⟩ := Option.bind_eq_some_iff.1 h
    obtain ⟨new, htaken, hreach⟩ := ih (receiver_ne_of_step hreceiver hz) hrun
    -- what this move takes comes before what the rest of the run takes
    obtain ⟨first, hfirst, hreached⟩ := exists_reach_of_step hreceiver (supplied_of_ended · hrun) hz
    refine ⟨first ++ new, ?_, ?_⟩
    · rw [htaken, hfirst, List.append_assoc]
    · rw [supplied_cons, hreached, hreach, List.append_assoc]

/-! ## Where the watcher stops -/

/-- In the course of a schedule the watcher makes a step out of a state with a property. -/
def Meets (x : Exchange) (moves : List Move) (P : Watcher → Prop) : Prop :=
  ∃ before after y, moves = before ++ .advance :: after ∧ x.run? before = some y ∧ P y.watcher

/-- What a run meets is met by the run with one more move in front. -/
theorem Meets.cons {x y : Exchange} {m : Move} {moves : List Move} {P : Watcher → Prop}
    (hm : x.step? m = some y) (h : y.Meets moves P) : x.Meets (m :: moves) P := by
  obtain ⟨before, after, z, rfl, hz, hP⟩ := h
  refine ⟨m :: before, after, z, rfl, ?_, hP⟩
  rw [run?, hm]
  exact hz

/-- A watcher that stops does so because a send fails or because the stream is at its end. -/
theorem meets_of_stopped {x y : Exchange} {moves : List Move} (hx : x.watcher.phase ≠ .stopped)
    (h : x.run? moves = some y) (hy : y.watcher.phase = .stopped) :
    x.Meets moves Watcher.Refused ∨ x.Meets moves Watcher.AtEnd := by
  induction moves generalizing x with
  | nil =>
    cases h
    exact absurd hy hx
  | cons m moves ih =>
    obtain ⟨z, hz, hrun⟩ := Option.bind_eq_some_iff.1 h
    -- the stop is made by the first move, or else in the rest of the run
    by_cases hstopped : z.watcher.phase = .stopped
    · obtain ⟨rfl, hstep⟩ | hstays := step_or_stays hz
      · refine (Watcher.refused_or_atEnd hstep hstopped).imp (fun hP => ?_) fun hP => ?_
        · exact ⟨[], moves, x, rfl, rfl, hP⟩
        · exact ⟨[], moves, x, rfl, rfl, hP⟩
      · exact absurd (hstays.phase.symm.trans hstopped) hx
    · exact (ih hstopped hrun).imp (.cons hz) (.cons hz)

/-- The last line that the watcher logs stays the last one, and the watcher takes nothing more. -/
theorem stopped_of_meets {x y : Exchange} {moves : List Move} {P : Watcher → Prop} {n : Notice}
    (hP : ∀ w, P w → w.StopsWith n) (hmeets : x.Meets moves P) (h : x.run? moves = some y) :
    y.watcher.phase = .stopped ∧ y.watcher.notices.getLast? = some n ∧
      ∃ before after z, moves = before ++ after ∧ x.run? before = some z ∧ P z.watcher ∧
        z.run? after = some y ∧ y.watcher.taken = z.watcher.taken := by
  obtain ⟨before, after, z, rfl, hz, hPz⟩ := hmeets
  obtain ⟨v, hstep, hstopped, htaken, hnotices⟩ := hP z.watcher hPz
  rw [run_append, hz, Option.bind_some] at h
  have hrun := h
  rw [run?, step?, Watcher.advance_of_step hstep] at hrun
  -- the step after the state that was met is known, and after it nothing changes
  have hstays := stays_of_stopped (x := { z with watcher := v }) hstopped hrun
  refine ⟨hstays.phase.trans hstopped, ?_, before, _, z, rfl, hz, hPz, h, hstays.taken.trans htaken⟩
  rw [hstays.notices, hnotices, List.getLast?_concat]

end Exchange

end ContainerWatch
